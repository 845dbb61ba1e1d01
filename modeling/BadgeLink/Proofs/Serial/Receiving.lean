import BadgeLink.Proofs.Serial.Script

/-!
# Receiving in pieces

A port collects bytes piece by piece until it has enough of them, or a read ends without any, or time is
up.  As long as the clock does not reach the deadline, what it has collected in the end is what a
scripted link with the same bytes would have handed over at once.
-/

namespace BadgeLink
namespace Serial
namespace Bench

variable {b : Bench} {s : Scripted} {count deadline rounds : Nat} {got : List UInt8}

/-! ## One round -/

theorem collect_of_full (hfull : count ≤ got.length) :
    port.collect count deadline (rounds + 1) got b = (.complete got, b) := by
  rw [Port.collect, if_pos hfull]
  rfl

theorem collect_of_late (hmore : got.length < count) (hlate : deadline ≤ b.look.1) :
    port.collect count deadline (rounds + 1) got b = (.complete got, b.look.2) := by
  rw [Port.collect, if_neg (Nat.not_le_of_lt hmore), bind_of_eq (port_now b), if_pos hlate]
  rfl

/-- Where no fault is planned, the timeout for a read is set or was set already. -/
theorem limit_of_no_fault (hfault : b.timeoutFault = none) (wanted : Nat) :
    ∃ inForce, port.limit wanted b = (.ok (), { b with inForce }) := by
  show ∃ inForce, (if b.inForce = some wanted then pure (.ok ()) else setTimeout wanted :
    StateM Bench (Except String Unit)) b = _
  by_cases hset : b.inForce = some wanted
  · rw [if_pos hset]
    exact ⟨b.inForce, rfl⟩
  · rw [if_neg hset, setTimeout, hfault]
    exact ⟨_, rfl⟩

/-- What a round makes of the outcome of its read. -/
def goOn (count deadline rounds : Nat) (got : List UInt8) : Piece × Bench → Received × Bench
  | (.bytes [], after) => (.complete got, after)
  | (.bytes piece, after) => port.collect count deadline rounds (got ++ piece) after
  | (.timedOut, after) => (.complete got, after)
  | (.interrupted, after) => port.collect count deadline rounds got after
  | (.failed message, after) => (.fault (.io message), after)

theorem goOn_bytes {piece : List UInt8} (hpiece : piece ≠ []) (after : Bench) :
    goOn count deadline rounds got (.bytes piece, after) =
      port.collect count deadline rounds (got ++ piece) after := by
  cases piece with
  | nil => exact absurd rfl hpiece
  | cons byte rest => rfl

theorem collect_of_soon
    (hfault : b.timeoutFault = none) (hmore : got.length < count) (hsoon : b.look.1 < deadline) :
    ∃ inForce, port.collect count deadline (rounds + 1) got b =
      goOn count deadline rounds got
        (({ b.look.2 with inForce } : Bench).read (count - got.length)) := by
  obtain ⟨inForce, hlimit⟩ := limit_of_no_fault (b := b.look.2) hfault (deadline - b.look.1)
  refine ⟨inForce, ?_⟩
  rw [Port.collect, if_neg (Nat.not_le_of_lt hmore), bind_of_eq (port_now b),
    if_neg (Nat.not_le_of_lt hsoon), bind_of_eq hlimit]
  generalize ({ b.look.2 with inForce } : Bench) = limited
  dsimp only
  rw [bind_of_eq (port_read _ limited)]
  rcases limited.read (count - got.length) with ⟨(_ | piece) | _ | _ | _, after⟩ <;> rfl

/-! ## The loop -/

/-- A result with more looks at the clock than before.  If none of them was late, it consists of these
bytes, and the bench mirrors this link. -/
def Collected
    (deadline : Nat) (looks : List Nat) (bytes : List UInt8) (s : Scripted)
    (result : Received × Bench) : Prop :=
  ∃ later, result.2.looks = looks ++ later ∧
    ((∀ look ∈ later, look < deadline) → result.1 = .complete bytes ∧ result.2.Mirrors s)

variable {bytes : List UInt8} {result : Received × Bench}

theorem Collected.of_complete (h : b.Mirrors s) (bytes : List UInt8) :
    Collected deadline b.looks bytes s (.complete bytes, b) :=
  ⟨[], (List.append_nil _).symm, fun _ => ⟨rfl, h⟩⟩

theorem Collected.of_look
    {looks : List Nat} {look : Nat} (h : Collected deadline (looks ++ [look]) bytes s result) :
    Collected deadline looks bytes s result := by
  obtain ⟨later, hlater, hdone⟩ := h
  refine ⟨look :: later, ?_, fun hearly => ?_⟩
  · rw [hlater, List.append_assoc]
    rfl
  · exact hdone fun time htime => hearly time (List.mem_cons_of_mem _ htime)

theorem Collected.of_late
    {looks : List Nat} {look : Nat} (hlate : deadline ≤ look)
    (hresult : result.2.looks = looks ++ [look]) : Collected deadline looks bytes s result :=
  ⟨[look], hresult, fun hearly => absurd (hearly _ List.mem_cons_self) (Nat.not_lt_of_le hlate)⟩

/-- What the loop is to do in so many rounds: collect what is missing, or everything that is unread. -/
def CollectsRest (count deadline rounds : Nat) : Prop :=
  ∀ {got : List UInt8} {b : Bench} {s : Scripted}, b.Mirrors s → got.length ≤ count →
    count - got.length + b.reads.length < rounds →
      Collected deadline b.looks (got ++ s.unread.take (count - got.length))
        (s.consume (count - got.length)) (port.collect count deadline rounds got b)

/-- After a read, the loop goes on with less to collect or fewer interruptions, or is done. -/
theorem goOn_collected
    (hloop : CollectsRest count deadline rounds) {piece : Piece} {taken : Nat} {after : Bench}
    (hpiece : Piece.Front (count - got.length) s.unread piece taken)
    (hafter : after.Mirrors (s.consume taken))
    (hrounds : count - got.length + after.reads.length ≤ rounds)
    (hshorter : piece = .interrupted → count - got.length + after.reads.length < rounds)
    (hgot : got.length ≤ count) :
    Collected deadline after.looks (got ++ s.unread.take (count - got.length))
      (s.consume (count - got.length)) (goOn count deadline rounds got (piece, after)) := by
  cases hpiece with
  | bytes htaken hcount hunread =>
      have hne : s.unread.take taken ≠ [] := by
        rw [← List.length_pos_iff, List.length_take, Nat.min_eq_left hunread]
        exact htaken
      have hsize : (got ++ s.unread.take taken).length = got.length + taken := by
        rw [List.length_append, List.length_take, Nat.min_eq_left hunread]
      have hsum : count - got.length = taken + (count - (got.length + taken)) := by
        omega
      have hgot' : (got ++ s.unread.take taken).length ≤ count := by
        omega
      have hrounds' : count - (got ++ s.unread.take taken).length + after.reads.length < rounds := by
        omega
      have hrest := hloop hafter hgot' hrounds'
      -- What this read took and what the other rounds take are one piece of the stream.
      rw [hsize, Scripted.unread_consume, List.append_assoc, ← List.take_add, Scripted.consume_add,
        ← hsum] at hrest
      rw [goOn_bytes hne]
      exact hrest
  | nothing hunread | timedOut hunread =>
      rw [hunread, List.take_nil, List.append_nil, Scripted.consume_of_unread_nil hunread]
      rw [Scripted.consume_zero] at hafter
      exact .of_complete hafter got
  | interrupted =>
      rw [Scripted.consume_zero] at hafter
      exact hloop hafter hgot (hshorter rfl)

theorem Mirrors.look (h : b.Mirrors s) (inForce : Option Nat) :
    ({ b.look.2 with inForce } : Bench).Mirrors s :=
  { h with }

/-- With a round for each byte and each event of the script, the loop does not end too early. -/
theorem collectsRest (count deadline rounds : Nat) : CollectsRest count deadline rounds := by
  induction rounds with
  | zero => exact fun _ _ hrounds => absurd hrounds (Nat.not_lt_zero _)
  | succ rounds ih =>
      intro got b s h hgot hrounds
      rcases Nat.lt_or_ge got.length count with hmore | hfull
      · rcases Nat.lt_or_ge b.look.1 deadline with hsoon | hlate
        · obtain ⟨inForce, hround⟩ := collect_of_soon (b := b) h.timeoutFault hmore hsoon
          obtain ⟨taken, hpiece, hafter, hlooks, hlength, hshorter⟩ :=
            (h.look inForce).read (Nat.sub_pos_of_lt hmore)
          -- An interruption brings nothing, but shortens the script.
          generalize Bench.read (count - got.length) { b.look.2 with inForce } = outcome at *
          have hle : outcome.2.reads.length ≤ b.reads.length := hlength
          have hlt (hi : outcome.1 = .interrupted) :
              count - got.length + outcome.2.reads.length < rounds := by
            have : outcome.2.reads.length < b.reads.length := hshorter hi
            omega
          have hrest := goOn_collected ih hpiece hafter (by omega) hlt hgot
          rw [hlooks] at hrest
          rw [hround]
          exact hrest.of_look
        · rw [collect_of_late hmore hlate]
          exact .of_late hlate rfl
      · rw [collect_of_full hfull, Nat.sub_eq_zero_of_le hfull, List.take_zero, List.append_nil,
          Scripted.consume_zero]
        exact .of_complete h got

/-- The port receives what its mirror image has in front, unless a look at the clock is late. -/
theorem receive_collected (h : b.Mirrors s) (count timeout : Nat) :
    Collected (b.look.1 + timeout) (b.looks ++ [b.look.1]) (s.unread.take count) (s.consume count)
      (port.receive count timeout b) := by
  have hlooked : b.look.2.Mirrors s := h.look b.inForce
  have hrounds : count - 0 + b.reads.length < count + (b.reads.length + b.writes.length) + 1 := by
    omega
  exact collectsRest count (b.look.1 + timeout) _ hlooked (Nat.zero_le count) hrounds

end Bench
end Serial
end BadgeLink
