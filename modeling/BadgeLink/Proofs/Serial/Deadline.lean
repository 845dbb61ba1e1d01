import BadgeLink.Proofs.Serial.Conduct
import BadgeLink.Proofs.Serial.Script

/-!
# The deadline of a call

A call to receive goes round by round: it looks at the clock, sees to it that the read does not outlast
the deadline, and reads what is missing.  Whatever the port does, the call keeps what the reads bring and
adds nothing to it, and the only rounds that do not bring it nearer to its end are interruptions, of which
there can be no more once the clock has reached the deadline.
-/

namespace BadgeLink
namespace Serial

/-! ## What happens in a call -/

/-- The bytes that reads among some events bring, in their order. -/
def delivered (events : List PortEvent) : List UInt8 :=
  events.flatMap fun
    | .read reading => reading.piece.data
    | _ => []

/-- How many reads among some events are interrupted. -/
def interruptions (events : List PortEvent) : Nat :=
  events.countP fun
    | .read reading => reading.piece = .interrupted
    | _ => false

/-- The last event of a call that ends with fewer bytes than it wants. -/
inductive PortEvent.CutsShort (deadline : Nat) : PortEvent → Prop
  | late (time : Nat) (hlate : deadline ≤ time) : CutsShort deadline (.look time)
  | ended (reading : Reading) (hpiece : reading.piece = .bytes [] ∨ reading.piece = .timedOut) :
    CutsShort deadline (.read reading)

/-- The last event of a call that ends with this fault. -/
inductive PortEvent.Fails : LinkFault → PortEvent → Prop
  | refused (message : String) : Fails (.serial message) (.refused message)
  | failed (reading : Reading) (message : String) (hpiece : reading.piece = .failed message) :
    Fails (.io message) (.read reading)

/-! ## Rounds -/

/-- A read as it has to be in a call for `count` bytes until `deadline` that has got so many of them. -/
structure Reading.Due (reading : Reading) (count deadline got : Nat) : Prop where
  missing : got < count
  early : reading.issued < deadline
  limit_eq : reading.limit = deadline - reading.issued
  space_eq : reading.space = count - got
  fits : reading.piece.data.length ≤ reading.space

/-- One round of a call that has got some bytes: what happens in it, and what it comes to, which is the
result of the call or the bytes that there are now. -/
inductive Round (count deadline : Nat) (got : List UInt8) :
    List PortEvent → Received ⊕ List UInt8 → Prop
  | full (hfull : count ≤ got.length) : Round count deadline got [] (.inl (.complete got))
  | late (time : Nat) (hmissing : got.length < count) (hlate : deadline ≤ time) :
    Round count deadline got [.look time] (.inl (.complete got))
  | refused (time : Nat) (message : String) (hmissing : got.length < count)
    (hearly : time < deadline) :
    Round count deadline got [.look time, .refused message] (.inl (.fault (.serial message)))
  | ended (reading : Reading) (hdue : reading.Due count deadline got.length)
    (hpiece : reading.piece = .bytes [] ∨ reading.piece = .timedOut) :
    Round count deadline got [.look reading.issued, .read reading] (.inl (.complete got))
  | failed (reading : Reading) (message : String) (hdue : reading.Due count deadline got.length)
    (hpiece : reading.piece = .failed message) :
    Round count deadline got [.look reading.issued, .read reading] (.inl (.fault (.io message)))
  | goesOn (reading : Reading) (hdue : reading.Due count deadline got.length)
    (hpiece : reading.piece = .interrupted ∨ reading.piece.data ≠ []) :
    Round count deadline got [.look reading.issued, .read reading] (.inr (got ++ reading.piece.data))

/-- What a call that has got some bytes makes of a piece. -/
def Piece.weigh (got : List UInt8) : Piece → Received ⊕ List UInt8
  | .bytes [] => .inl (.complete got)
  | .bytes data => .inr (got ++ data)
  | .timedOut => .inl (.complete got)
  | .interrupted => .inr got
  | .failed message => .inl (.fault (.io message))

/-- A round with a read ends as the piece says that is read. -/
theorem Round.of_due
    {count deadline : Nat} {got : List UInt8} {reading : Reading}
    (hdue : reading.Due count deadline got.length) :
    Round count deadline got [.look reading.issued, .read reading] (reading.piece.weigh got) := by
  cases hpiece : reading.piece with
  | bytes data =>
      cases data with
      | nil => exact .ended reading hdue (.inl hpiece)
      | cons byte rest =>
          have hdata : reading.piece.data = byte :: rest := by rw [hpiece, Piece.data]
          have hround := Round.goesOn reading hdue (.inr (by rw [hdata]; exact List.cons_ne_nil _ _))
          rwa [hdata] at hround
  | timedOut => exact .ended reading hdue (.inr hpiece)
  | interrupted =>
      have hround := Round.goesOn reading hdue (.inl hpiece)
      rwa [hpiece, Piece.data, List.append_nil] at hround
  | failed message => exact .failed reading message hdue hpiece

/-- What happens in so many rounds of a call that has got some bytes, and how the call ends. -/
inductive Rounds (count deadline : Nat) :
    Nat → List UInt8 → List PortEvent → Received → Prop
  | exhausted {got : List UInt8} : Rounds count deadline 0 got [] (.exhausted got)
  | last {rounds : Nat} {got : List UInt8} {events : List PortEvent} {result : Received}
    (hround : Round count deadline got events (.inl result)) :
    Rounds count deadline (rounds + 1) got events result
  | more {rounds : Nat} {got more : List UInt8} {events later : List PortEvent} {result : Received}
    (hround : Round count deadline got events (.inr more))
    (hrest : Rounds count deadline rounds more later result) :
    Rounds count deadline (rounds + 1) got (events ++ later) result

section

variable {count deadline rounds : Nat} {got more bytes : List UInt8}
  {events rest earlier later during : List PortEvent} {reading : Reading} {result : Received}
  {step : Received ⊕ List UInt8}

theorem getLast?_append_of_ne_nil (hlater : later ≠ []) :
    (events ++ later).getLast? = later.getLast? := by
  rw [List.getLast?_append, List.getLast?_eq_some_getLast hlater, Option.some_or]

theorem delivered_append (events later : List PortEvent) :
    delivered (events ++ later) = delivered events ++ delivered later :=
  List.flatMap_append

theorem delivered_round (time : Nat) (reading : Reading) :
    delivered [.look time, .read reading] = reading.piece.data := by
  simp [delivered]

theorem interruptions_append (events later : List PortEvent) :
    interruptions (events ++ later) = interruptions events + interruptions later :=
  List.countP_append

theorem interruptions_round (time : Nat) (reading : Reading) :
    interruptions [.look time, .read reading] = if reading.piece = .interrupted then 1 else 0 := by
  simp [interruptions, List.countP_cons]

/-- The read of a round comes right after its look at the clock. -/
theorem Round.due_of_read
    (h : Round count deadline got events step)
    (hsplit : events ++ rest = earlier ++ .read reading :: later) :
    (earlier.getLast? = some (.look reading.issued) ∧
        reading.Due count deadline (got ++ delivered earlier).length) ∨
      ∃ between, earlier = events ++ between ∧ rest = between ++ .read reading :: later := by
  have hfirst {own : Reading} (hdue : own.Due count deadline got.length)
      (hsplit : .look own.issued :: .read own :: rest = earlier ++ .read reading :: later) :
      (earlier.getLast? = some (.look reading.issued) ∧
          reading.Due count deadline (got ++ delivered earlier).length) ∨
        ∃ between, earlier = .look own.issued :: .read own :: between ∧
          rest = between ++ .read reading :: later := by
    match earlier with
    | [] => cases hsplit
    | [_] =>
        cases hsplit
        left
        refine ⟨rfl, ?_⟩
        simpa [delivered] using hdue
    | _ :: _ :: between =>
        cases hsplit
        exact .inr ⟨between, rfl, rfl⟩
  cases h with
  | full => exact .inr ⟨earlier, rfl, hsplit⟩
  | late time =>
      match earlier with
      | [] => cases hsplit
      | _ :: between =>
          cases hsplit
          exact .inr ⟨between, rfl, rfl⟩
  | refused time message =>
      match earlier with
      | [] => cases hsplit
      | [_] => cases hsplit
      | _ :: _ :: between =>
          cases hsplit
          exact .inr ⟨between, rfl, rfl⟩
  | ended own hdue => exact hfirst hdue hsplit
  | failed own message hdue => exact hfirst hdue hsplit
  | goesOn own hdue => exact hfirst hdue hsplit

theorem Round.eq_of_goesOn (h : Round count deadline got events (.inr more)) :
    more = got ++ delivered events := by
  cases h with
  | goesOn own => rw [delivered_round]

/-- Every read of a call follows a look at the clock that shows when it is issued, and is as it has to be
after what was got until then. -/
theorem Rounds.due_of_read
    (h : Rounds count deadline rounds got during result)
    (hsplit : during = earlier ++ .read reading :: later) :
    earlier.getLast? = some (.look reading.issued) ∧
      reading.Due count deadline (got ++ delivered earlier).length := by
  induction h generalizing earlier with
  | exhausted => exact absurd hsplit (by simp)
  | @last _ _ events _ hround =>
      have hround' : events ++ [] = earlier ++ .read reading :: later := by
        rw [List.append_nil, hsplit]
      rcases hround.due_of_read hround' with hfirst | ⟨between, -, hrest⟩
      · exact hfirst
      · exact absurd hrest (by simp)
  | more hround hrest ih =>
      rcases hround.due_of_read hsplit with hfirst | ⟨between, rfl, hrest⟩
      · exact hfirst
      · obtain ⟨hlook, hdue⟩ := ih hrest
        rw [hround.eq_of_goesOn, List.append_assoc, ← delivered_append] at hdue
        rw [List.getLast?_append, hlook]
        exact ⟨rfl, hdue⟩

/-- A round that does not end a call has not brought more than was wanted. -/
theorem Round.length_le_of_goesOn (h : Round count deadline got events (.inr more)) :
    more.length ≤ count := by
  cases h with
  | goesOn own hdue =>
      have hfits := hdue.fits
      rw [hdue.space_eq] at hfits
      rw [List.length_append]
      have hmissing := hdue.missing
      omega

/-- A round that ends a call with bytes has brought nothing to them. -/
theorem Round.eq_of_ends (h : Round count deadline got events (.inl result))
    (hbytes : result.outcome = .ok bytes) : bytes = got ++ delivered events := by
  cases h with
  | full | late =>
      cases hbytes
      exact (List.append_nil got).symm
  | ended own hdue hpiece =>
      cases hbytes
      have hnothing : own.piece.data = [] := by
        rcases hpiece with hpiece | hpiece <;> rw [hpiece, Piece.data]
      rw [delivered_round, hnothing, List.append_nil]
  | refused | failed => cases hbytes

/-- What a call gets is what its reads have brought, in their order. -/
theorem Rounds.eq_of_ok
    (h : Rounds count deadline rounds got during result) (hbytes : result.outcome = .ok bytes) :
    bytes = got ++ delivered during := by
  induction h with
  | exhausted =>
      cases hbytes
      exact (List.append_nil _).symm
  | last hround => exact hround.eq_of_ends hbytes
  | more hround hrest ih =>
      rw [ih hbytes, hround.eq_of_goesOn, delivered_append, List.append_assoc]

/-- A call with a result has not got more than it wanted.  If it has got less, then its last event is a
late look at the clock or a read that brought nothing. -/
theorem Rounds.of_complete
    (h : Rounds count deadline rounds got during (.complete bytes)) (hgot : got.length ≤ count) :
    bytes.length ≤ count ∧
      (bytes.length < count → ∃ last, during.getLast? = some last ∧ last.CutsShort deadline) := by
  generalize hresult : Received.complete bytes = result at h
  induction h with
  | exhausted => cases hresult
  | last hround =>
      subst hresult
      cases hround with
      | full hfull => exact ⟨hgot, fun hshort => absurd hfull (by omega)⟩
      | late time hmissing hlate => exact ⟨hgot, fun _ => ⟨_, rfl, .late time hlate⟩⟩
      | ended own hdue hpiece => exact ⟨hgot, fun _ => ⟨_, rfl, .ended own hpiece⟩⟩
  | more hround hrest ih =>
      obtain ⟨hlength, hlast⟩ := ih hround.length_le_of_goesOn hresult
      refine ⟨hlength, ?_⟩
      intro hshort
      obtain ⟨last, hlast, hcuts⟩ := hlast hshort
      exact ⟨last, by rw [List.getLast?_append, hlast]; rfl, hcuts⟩

/-- A call fails with the last thing that happens in it. -/
theorem Rounds.of_fault {cause : LinkFault}
    (h : Rounds count deadline rounds got during (.fault cause)) :
    ∃ last, during.getLast? = some last ∧ last.Fails cause := by
  generalize hresult : Received.fault cause = result at h
  induction h with
  | exhausted => cases hresult
  | last hround =>
      subst hresult
      cases hround with
      | refused time message => exact ⟨_, rfl, .refused message⟩
      | failed own message hdue hpiece => exact ⟨_, rfl, .failed own message hpiece⟩
  | more hround hrest ih =>
      obtain ⟨last, hlast, hfails⟩ := ih hresult
      exact ⟨last, by rw [List.getLast?_append, hlast]; rfl, hfails⟩

/-- A call that fails has not got all that it wants. -/
theorem Rounds.length_lt_of_error {cause : LinkFault}
    (h : Rounds count deadline rounds got during result) (hfault : result.outcome = .error cause) :
    (got ++ delivered during).length < count := by
  induction h with
  | exhausted => cases hfault
  | last hround =>
      cases hround with
      | full | late | ended => cases hfault
      | refused time message hmissing => simpa [delivered] using hmissing
      | failed own message hdue hpiece =>
          rw [delivered_round, hpiece, Piece.data, List.append_nil]
          exact hdue.missing
  | more hround hrest ih =>
      have hmore := ih hfault
      rwa [hround.eq_of_goesOn, List.append_assoc, ← delivered_append] at hmore

/-- A round that does not end a call brings a byte or is an interruption, so a call that runs out of
rounds has been interrupted in all rounds but those that brought what it has got. -/
theorem Rounds.of_exhausted
    (h : Rounds count deadline rounds got during (.exhausted bytes)) :
    rounds ≤ count - got.length + interruptions during := by
  generalize hresult : Received.exhausted bytes = result at h
  induction h with
  | exhausted => exact Nat.zero_le _
  | last hround =>
      subst hresult
      cases hround
  | more hround hrest ih =>
      have hrounds := ih hresult
      cases hround with
      | goesOn own hdue hpiece =>
          have hmissing := hdue.missing
          rw [interruptions_append, interruptions_round]
          rw [List.length_append] at hrounds
          by_cases hinterrupted : own.piece = .interrupted
          · rw [if_pos hinterrupted]
            omega
          · have hdata := List.length_pos_iff.mpr (hpiece.resolve_left hinterrupted)
            omega

/-- A call that gets all that it wants ends with the read that brings the last byte. -/
theorem Rounds.ends_in_read
    (h : Rounds count deadline rounds got during result) (hmissing : got.length < count)
    (hbytes : result.outcome = .ok bytes) (hfull : count ≤ bytes.length) :
    ∃ reading, during.getLast? = some (.read reading) := by
  induction h with
  | exhausted =>
      cases hbytes
      omega
  | last hround =>
      cases hround with
      | full hgot => omega
      | late =>
          cases hbytes
          omega
      | ended own => exact ⟨own, rfl⟩
      | refused | failed => cases hbytes
  | @more _ _ more events later _ hround hrest ih =>
      obtain ⟨own, hown⟩ : ∃ own, events.getLast? = some (.read own) := by
        cases hround with
        | goesOn own => exact ⟨own, rfl⟩
      by_cases hempty : later = []
      · rw [hempty, List.append_nil]
        exact ⟨own, hown⟩
      · rw [getLast?_append_of_ne_nil hempty]
        refine ih ?_ hbytes
        by_contra hmore
        -- With all bytes there, nothing happens any more.
        cases hrest with
        | exhausted => exact hempty rfl
        | last hround =>
            cases hround with
            | full => exact hempty rfl
            | late _ hmissing | refused _ _ hmissing => exact hmore hmissing
            | ended _ hdue | failed _ _ hdue => exact hmore hdue.missing
        | more hround =>
            cases hround with
            | goesOn _ hdue => exact hmore hdue.missing

end

/-- What is left to do in a call after a round. -/
def Port.proceed
    {m : Type → Type} [Monad m] (port : Port m) (count deadline rounds : Nat) :
    Received ⊕ List UInt8 → m Received
  | .inl result => pure result
  | .inr got => port.collect count deadline rounds got

/-- How often a port may be interrupted has no influence on a loop that has its rounds already. -/
theorem Port.collect_patience
    {m : Type → Type} [Monad m] (port : Port m) (patience : m Nat) (count deadline rounds : Nat)
    (got : List UInt8) :
    ({ port with patience } : Port m).collect count deadline rounds got =
      port.collect count deadline rounds got := by
  induction rounds generalizing got with
  | zero => rfl
  | succ rounds ih =>
      rw [Port.collect, Port.collect]
      simp only [ih]
      rfl

namespace Conduct

variable {conduct : Conduct} {count deadline rounds patience : Nat} {got : List UInt8} {w : Watch}

/-- A timeout that is wanted is in force after it is asked for, unless it cannot be set. -/
theorem limit_cases (patience wanted : Nat) (w : Watch) :
    ((conduct.port patience).limit wanted w = (.ok (), { w with inForce := wanted })) ∨
      ∃ message, (conduct.port patience).limit wanted w =
        (.error message, w.note (.refused message)) := by
  have hlimit : (conduct.port patience).limit wanted w =
      (if some w.inForce = some wanted then pure (.ok ()) else conduct.setTimeout wanted :
        StateM Watch (Except String Unit)) w := rfl
  rw [hlimit]
  by_cases hset : some w.inForce = some wanted
  · rw [if_pos hset]
    obtain rfl := Option.some.inj hset
    exact .inl rfl
  · rw [if_neg hset, setTimeout]
    cases conduct.refuses w.events.length with
    | none => exact .inl rfl
    | some message => exact .inr ⟨message, rfl⟩

theorem port_now (w : Watch) :
    (conduct.port patience).now w = (conduct.later w, w.note (.look (conduct.later w))) :=
  rfl

/-- The state in which a round reads, after a look at the clock. -/
def limited (conduct : Conduct) (deadline : Nat) (w : Watch) : Watch :=
  { w.note (.look (conduct.later w)) with inForce := deadline - conduct.later w }

/-- The read of a round. -/
def reading (conduct : Conduct) (count deadline got : Nat) (w : Watch) : Reading :=
  conduct.nextReading (count - got) (conduct.limited deadline w)

theorem issued_reading (conduct : Conduct) (count deadline got : Nat) (w : Watch) :
    (conduct.reading count deadline got w).issued = conduct.later w := by
  simp [reading, nextReading, limited, now, later, Watch.note]

theorem returned_reading (conduct : Conduct) (count deadline got : Nat) (w : Watch) :
    (conduct.reading count deadline got w).returned = conduct.now
      ((conduct.limited deadline w).note (.read (conduct.reading count deadline got w))) := by
  simp [reading, nextReading, now, later, Watch.note]

theorem due_reading (hmissing : got.length < count) (hearly : conduct.later w < deadline) :
    (conduct.reading count deadline got.length w).Due count deadline got.length where
  missing := hmissing
  early := by rwa [issued_reading]
  limit_eq := by rw [issued_reading]; rfl
  space_eq := rfl
  fits := conduct.fits _ _

/-! ## One round of the loop -/

theorem collect_of_full (hfull : count ≤ got.length) :
    (conduct.port patience).collect count deadline (rounds + 1) got w = (.complete got, w) := by
  rw [Port.collect, if_pos hfull]
  rfl

theorem collect_of_late (hmissing : got.length < count) (hlate : deadline ≤ conduct.later w) :
    (conduct.port patience).collect count deadline (rounds + 1) got w =
      (.complete got, w.note (.look (conduct.later w))) := by
  rw [Port.collect, if_neg (Nat.not_le_of_lt hmissing), Bench.bind_of_eq (port_now w), if_pos hlate]
  rfl

theorem collect_of_refused
    (hmissing : got.length < count) (hearly : conduct.later w < deadline)
    {message : String} {after : Watch}
    (hlimit : (conduct.port patience).limit (deadline - conduct.later w)
      (w.note (.look (conduct.later w))) = (.error message, after)) :
    (conduct.port patience).collect count deadline (rounds + 1) got w =
      (.fault (.serial message), after) := by
  rw [Port.collect, if_neg (Nat.not_le_of_lt hmissing), Bench.bind_of_eq (port_now w),
    if_neg (Nat.not_le_of_lt hearly), Bench.bind_of_eq hlimit]
  rfl

theorem collect_of_read
    (hmissing : got.length < count) (hearly : conduct.later w < deadline)
    (hlimit : (conduct.port patience).limit (deadline - conduct.later w)
      (w.note (.look (conduct.later w))) = (.ok (), conduct.limited deadline w)) :
    (conduct.port patience).collect count deadline (rounds + 1) got w =
      (conduct.port patience).proceed count deadline rounds
        ((conduct.reading count deadline got.length w).piece.weigh got)
        ((conduct.limited deadline w).note
          (.read (conduct.reading count deadline got.length w))) := by
  have hread : (conduct.port patience).read (count - got.length) (conduct.limited deadline w) =
      ((conduct.reading count deadline got.length w).piece, (conduct.limited deadline w).note
        (.read (conduct.reading count deadline got.length w))) := rfl
  rw [Port.collect, if_neg (Nat.not_le_of_lt hmissing), Bench.bind_of_eq (port_now w),
    if_neg (Nat.not_le_of_lt hearly), Bench.bind_of_eq hlimit]
  dsimp only
  rw [Bench.bind_of_eq hread]
  rcases (conduct.reading count deadline got.length w).piece with (_ | _) | _ | _ | _ <;> rfl

/-- What a round can do, whatever the rounds after it: it starts with a look at the clock, unless there is
nothing to do any more, and is over when its read returns, if there is one. -/
theorem exists_round
    (conduct : Conduct) (patience count deadline : Nat) (got : List UInt8) (w : Watch) :
    ∃ events step after, Round count deadline got events step ∧
      after.events = w.events ++ events ∧
      (∀ event ∈ events.head?, event = .look (conduct.later w)) ∧
      (∀ reading, events.getLast? = some (.read reading) → reading.returned = conduct.now after) ∧
      ∀ rounds, (conduct.port patience).collect count deadline (rounds + 1) got w =
        (conduct.port patience).proceed count deadline rounds step after := by
  rcases Nat.lt_or_ge got.length count with hmissing | hfull
  · rcases Nat.lt_or_ge (conduct.later w) deadline with hearly | hlate
    · rcases limit_cases patience (deadline - conduct.later w)
        (w.note (.look (conduct.later w))) with hlimit | ⟨message, hlimit⟩
      · refine ⟨_, _, _, .of_due (due_reading hmissing hearly), ?_, ?_, ?_,
          fun rounds => collect_of_read hmissing hearly hlimit⟩
        · rw [issued_reading]
          simp [limited, Watch.note]
        · rw [issued_reading]
          simp
        · intro own hown
          cases hown
          exact returned_reading conduct count deadline got.length w
      · refine ⟨_, _, (w.note (.look (conduct.later w))).note (.refused message),
          .refused (conduct.later w) message hmissing hearly, ?_, by simp, nofun, ?_⟩
        · simp [Watch.note]
        · intro rounds
          exact collect_of_refused hmissing hearly hlimit
    · refine ⟨_, _, w.note (.look (conduct.later w)), .late (conduct.later w) hmissing hlate, rfl,
        by simp, nofun, ?_⟩
      intro rounds
      exact collect_of_late hmissing hlate
  · refine ⟨[], _, w, .full hfull, by simp, by simp, nofun, ?_⟩
    intro rounds
    exact collect_of_full hfull

/-! ## The loop -/

/-- The loop makes one round after the other until one of them has the result, or none is left. -/
theorem collect_rounds
    (conduct : Conduct) (patience count deadline rounds : Nat) (got : List UInt8) (w : Watch) :
    ∃ during,
      ((conduct.port patience).collect count deadline rounds got w).2.events = w.events ++ during ∧
      Rounds count deadline rounds got during
        ((conduct.port patience).collect count deadline rounds got w).1 ∧
      ∀ reading, during.getLast? = some (.read reading) → reading.returned =
        conduct.now ((conduct.port patience).collect count deadline rounds got w).2 := by
  induction rounds generalizing got w with
  | zero => exact ⟨[], (List.append_nil _).symm, .exhausted, nofun⟩
  | succ rounds ih =>
      obtain ⟨events, step, after, hround, hafter, -, hreturned, hcollect⟩ :=
        conduct.exists_round patience count deadline got w
      rw [hcollect]
      cases step with
      | inl result => exact ⟨events, hafter, .last hround, hreturned⟩
      | inr more =>
          obtain ⟨later, hlater, hrest, hlast⟩ := ih more after
          refine ⟨events ++ later, ?_, .more hround hrest, ?_⟩
          · rw [Port.proceed, hlater, hafter, List.append_assoc]
          · intro reading hreading
            by_cases hempty : later = []
            · -- The last read is the one of this round.
              rw [hempty, List.append_nil] at hreading
              rw [hempty, List.append_nil] at hlater
              rw [hreturned reading hreading, now, now, Port.proceed, hlater]
            · rw [getLast?_append_of_ne_nil hempty] at hreading
              exact hlast reading hreading

/-- A loop that has ended with some rounds left would have ended in the same way with more of them. -/
theorem collect_of_more_rounds
    {more : Nat} (hrounds : rounds ≤ more)
    (hend : ∀ bytes, ((conduct.port patience).collect count deadline rounds got w).1 ≠
      .exhausted bytes) :
    (conduct.port patience).collect count deadline more got w =
      (conduct.port patience).collect count deadline rounds got w := by
  induction rounds generalizing got w more with
  | zero => exact absurd rfl (hend got)
  | succ rounds ih =>
      obtain ⟨more, rfl⟩ : ∃ n, more = n + 1 := ⟨more - 1, by omega⟩
      obtain ⟨events, step, after, -, -, -, -, hcollect⟩ :=
        conduct.exists_round patience count deadline got w
      rw [hcollect] at hend ⊢
      rw [hcollect]
      cases step with
      | inl result => rfl
      | inr got => exact ih (Nat.le_of_succ_le_succ hrounds) hend

/-- Once the clock has reached the deadline, no further round is needed. -/
theorem collect_ends
    {event : Nat} (hreached : deadline ≤ conduct.clock event) (hrounds : 0 < rounds)
    (hevent : event < w.events.length + rounds) (bytes : List UInt8) :
    ((conduct.port patience).collect count deadline rounds got w).1 ≠ .exhausted bytes := by
  induction rounds generalizing got w with
  | zero => exact absurd hrounds (Nat.lt_irrefl 0)
  | succ rounds ih =>
      obtain ⟨events, step, after, hround, hafter, hlook, -, hcollect⟩ :=
        conduct.exists_round patience count deadline got w
      rw [hcollect]
      cases hround with
      | full | late | refused | ended | failed => nofun
      | goesOn reading hdue hpiece =>
          -- The clock was early in this round, so the event that is late is still to come.
          have hissued : reading.issued = conduct.later w := by
            simpa using hlook
          have hearly : conduct.later w < deadline := hissued ▸ hdue.early
          have hlate : w.events.length + 1 < event := by
            by_contra hle
            have hclock : conduct.clock event ≤ conduct.later w :=
              conduct.clock_mono (Nat.le_of_not_lt hle)
            omega
          have hlength : after.events.length = w.events.length + 2 := by
            rw [hafter, List.length_append]
            rfl
          exact ih (by omega) (by omega)

/-! ## Whole calls -/

/-- A call to receive looks at the clock first, which fixes its deadline. -/
theorem receive_eq (conduct : Conduct) (patience count timeout : Nat) (before : Watch) :
    (conduct.port patience).receive count timeout before =
      (conduct.port patience).collect count (conduct.later before + timeout) (count + patience + 1) []
        (before.note (.look (conduct.later before))) :=
  rfl

/-- How many interruptions a port allows for makes no difference to a loop. -/
theorem collect_port (conduct : Conduct) (patience count deadline rounds : Nat) (got : List UInt8) :
    (conduct.port patience).collect count deadline rounds got =
      (conduct.port 0).collect count deadline rounds got :=
  (conduct.port 0).collect_patience (pure patience) count deadline rounds got

theorem receive_of_more_patience
    {more count timeout : Nat} {before : Watch} (hmore : patience ≤ more)
    (hend : ∀ bytes, ((conduct.port patience).receive count timeout before).1 ≠ .exhausted bytes) :
    (conduct.port more).receive count timeout before =
      (conduct.port patience).receive count timeout before := by
  rw [receive_eq, collect_port] at hend
  rw [receive_eq, receive_eq, collect_port, collect_port conduct patience]
  exact collect_of_more_rounds (by omega) hend

/-- Whatever a port does, each read of a call is issued before the deadline and waits for what is left of the
time.  The call receives what its reads have brought, and fewer bytes than were wanted only if time was up
or a read brought nothing.  Interruptions do not end it where the port allows for those that come until the
clock has reached the deadline. -/
theorem receive_keeps_deadline (conduct : Conduct) (count timeout : Nat) (before : Watch) :
    let start := conduct.later before
    let call := fun patience => (conduct.port patience).receive count timeout before
    (∀ patience, ∃ during, (call patience).2.events = before.events ++ .look start :: during ∧
      (∀ earlier reading later, during = earlier ++ .read reading :: later →
        earlier.getLast? = some (.look reading.issued) ∧ reading.issued < start + timeout ∧
          reading.limit = start + timeout - reading.issued ∧
          reading.space = count - (delivered earlier).length) ∧
      (∀ bytes, (call patience).1 = .complete bytes →
        bytes = delivered during ∧ bytes.length ≤ count ∧
          (bytes.length < count →
            ∃ last, during.getLast? = some last ∧ last.CutsShort (start + timeout))) ∧
      (∀ cause, (call patience).1 = .fault cause →
        ∃ last, during.getLast? = some last ∧ last.Fails cause) ∧
      ∀ bytes, (call patience).1 = .exhausted bytes → patience < interruptions during) ∧
    (∀ patience more, patience ≤ more → (∀ bytes, (call patience).1 ≠ .exhausted bytes) →
      call more = call patience) ∧
    ∀ event, start + timeout ≤ conduct.clock event → ∀ patience, event ≤ patience →
      ∀ bytes, (call patience).1 ≠ .exhausted bytes := by
  dsimp only
  refine ⟨?_, fun _ _ => receive_of_more_patience, ?_⟩
  · intro patience
    rw [receive_eq]
    obtain ⟨during, hevents, hrounds, -⟩ := conduct.collect_rounds patience count
      (conduct.later before + timeout) (count + patience + 1) []
      (before.note (.look (conduct.later before)))
    refine ⟨during, ?_, ?_, ?_, ?_, ?_⟩
    · rw [hevents, Watch.note, List.append_assoc]
      rfl
    · intro earlier reading later hsplit
      obtain ⟨hlook, hdue⟩ := hrounds.due_of_read hsplit
      exact ⟨hlook, hdue.early, hdue.limit_eq, hdue.space_eq⟩
    · intro bytes hcomplete
      rw [hcomplete] at hrounds
      exact ⟨hrounds.eq_of_ok rfl, hrounds.of_complete (Nat.zero_le count)⟩
    · intro cause hfault
      rw [hfault] at hrounds
      exact hrounds.of_fault
    · intro bytes hexhausted
      rw [hexhausted] at hrounds
      have hmany := hrounds.of_exhausted
      rw [List.length_nil] at hmany
      omega
  · intro event hreached patience hpatience bytes
    rw [receive_eq]
    exact collect_ends hreached (by omega) (by omega) bytes

/-- A port that is interrupted for ever, but for one read that brings two bytes. -/
def restless : Conduct where
  clock := id
  yields event space := if event = 4 then .bytes ([1, 2].take space) else .interrupted
  refuses _ := none
  takes _ bytes := .bytes bytes.length
  flushes _ := .ok ()
  clears _ := .ok ()
  clock_mono := monotone_id
  fits event space := by
    split
    · exact List.length_take_le space [1, 2]
    · exact Nat.zero_le space

/-- Three bytes are wanted of a restless port within six units of time: the call ends at the deadline with
the two bytes that have come. -/
theorem receive_keeps_deadline_of_restless :
    let call := fun patience => (restless.port patience).receive 3 6 {}
    call 1000 = call 7 ∧ (call 7).1 = .complete [1, 2] ∧
      ∃ during last, (call 7).2.events = .look 1 :: during ∧ delivered during = [1, 2] ∧
        during.getLast? = some last ∧ last.CutsShort 7 := by
  obtain ⟨hevery, hmore, hends⟩ := restless.receive_keeps_deadline 3 6 {}
  have hcomplete : ((restless.port 7).receive 3 6 {}).1 = .complete [1, 2] := rfl
  obtain ⟨during, hevents, -, hbytes, -, -⟩ := hevery 7
  obtain ⟨hdelivered, -, hlast⟩ := hbytes _ hcomplete
  obtain ⟨last, hlast, hcuts⟩ := hlast (by decide)
  refine ⟨hmore 7 1000 (by decide) (hends 7 ?_ 7 le_rfl), hcomplete, during, last, hevents,
    hdelivered.symm, hlast, hcuts⟩
  exact le_rfl

end Conduct
end Serial
end BadgeLink
