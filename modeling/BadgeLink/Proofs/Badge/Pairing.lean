import BadgeLink.Proofs.Badge.Sequence
import BadgeLink.Proofs.Badge.Validation
import BadgeLink.Proofs.Link.Receiving

/-!
# Requests and responses stay paired

Where frames lie in a link one behind the other, every accepted request takes the next one, and nothing
else, however bad the frame is; a refused request takes none.  So after any sequence of requests the rest
of the bytes still starts at the border of a frame.
-/

namespace BadgeLink

namespace Scripted

/-- The link works, and what can be received from it are these frames. -/
structure Holds (frames : List (List UInt8)) (s : Scripted) : Prop where
  faults : s.faults = []
  stale : s.stale = []
  incoming : s.incoming = frames.flatten

theorem Holds.afterFrame
    {frame : List UInt8} {frames : List (List UInt8)} {s : Scripted} (h : s.Holds (frame :: frames))
    (timeout : Nat) : (s.afterFrame frame timeout).Holds frames := by
  refine ⟨h.faults, ?_, ?_⟩
  · show s.stale.drop frame.length = []
    rw [h.stale, List.drop_nil]
  · show s.incoming.drop (frame.length - s.stale.length) = frames.flatten
    rw [h.stale, h.incoming, List.length_nil, Nat.sub_zero, List.flatten_cons, List.drop_left]

theorem Holds.unread_eq
    {frames : List (List UInt8)} {s : Scripted} (h : s.Holds frames) :
    s.unread = frames.flatten := by
  rw [Scripted.unread, h.stale, h.incoming, List.nil_append]

end Scripted

namespace Request

/-- What a request yields if a frame is the response to it. -/
def answer (request : Request) (frame : List UInt8) : Except Error Reply :=
  Response.verdict frame >>= request.reply

/-- How many requests have arguments in range. -/
def accepted (requests : List Request) : Nat :=
  requests.countP fun request => decide request.InRange

theorem accepted_take_le (requests : List Request) (i : Nat) :
    accepted (requests.take i) ≤ accepted requests :=
  (List.take_sublist i requests).countP_le

/-- A request in range leaves fewer than all requests in range for the others. -/
theorem accepted_take_lt
    {requests : List Request} {i : Nat} (hi : i < requests.length)
    (hrange : requests[i].InRange) :
    accepted (requests.take i) < accepted requests := by
  have hnext := accepted_take_le requests (i + 1)
  rw [List.take_succ_eq_append_getElem hi, accepted, List.countP_append,
    List.countP_singleton, if_pos (decide_eq_true hrange)] at hnext
  exact hnext

end Request

namespace Badge

variable {s : Scripted}

theorem conclude_overLink (request : Request) (payload : List UInt8) :
    ∃ log, (request.conclude payload).run.overLink Scripted.link s =
      (request.reply payload, { s with log }) := by
  unfold Request.conclude
  cases request.remark payload with
  | none => exact ⟨s.log, rfl⟩
  | some record => exact ⟨s.log ++ [record], rfl⟩

theorem await_overLink_of_holds
    {frame : List UInt8} {frames : List (List UInt8)} (h : s.Holds (frame :: frames))
    (hframe : Response.IsFrame frame) (badge : Badge) (request : Request) :
    ∃ after, (badge.await request).run.overLink Scripted.link s = (request.answer frame, after) ∧
      after.Holds frames := by
  have hreceived := Scripted.run_receivePayload_of_frame h.faults hframe h.unread_eq badge.timeout
  have hleft := h.afterFrame badge.timeout
  unfold await Request.answer
  cases hverdict : Response.verdict frame with
  | error e =>
      rw [hverdict] at hreceived
      exact ⟨_, Exchange.overLink_bind_of_error hreceived _, hleft⟩
  | ok payload =>
      rw [hverdict] at hreceived
      rw [Exchange.overLink_bind_of_ok hreceived]
      obtain ⟨log, hconclude⟩ := conclude_overLink request payload
      exact ⟨_, hconclude, hleft.faults, hleft.stale, hleft.incoming⟩

/-- A request in range takes the frame in front, which alone says what the request yields. -/
theorem ask_overLink_of_inRange
    {frame : List UInt8} {frames : List (List UInt8)} (h : s.Holds (frame :: frames))
    (hframe : Response.IsFrame frame) {request : Request} (hrange : request.InRange)
    (badge : Badge) :
    ∃ after, (badge.ask request).run.overLink Scripted.link s = (request.answer frame, after) ∧
      after.Holds frames := by
  obtain ⟨wire, hwire⟩ := Request.exists_wire_iff.mpr hrange
  have hholds : Scripted.Holds (frame :: frames) (s.sending wire) :=
    ⟨h.faults, h.stale, h.incoming⟩
  rw [ask_of_accepted hwire, Scripted.overLink_note_send h.faults]
  exact await_overLink_of_holds hholds hframe badge request

/-! ## Whole sessions -/

def askAll (badge : Badge) (requests : List Request) (s : Scripted) :
    List (Except Error Reply) × Scripted :=
  s.run (badge.performAll (requests.map .request))

/-- After some requests a link has lost a frame for each of them that is in range. -/
theorem askAll_holds
    {requests : List Request} {frames : List (List UInt8)} (h : s.Holds frames)
    (hframes : ∀ frame ∈ frames, Response.IsFrame frame)
    (henough : Request.accepted requests ≤ frames.length) (badge : Badge) :
    (badge.askAll requests s).2.Holds (frames.drop (Request.accepted requests)) := by
  -- What is kept up from request to request is that the link holds the frames that are left.
  induction requests generalizing s frames with
  | nil => exact h
  | cons request rest ih =>
      rw [askAll, List.map_cons, Scripted.run]
      by_cases hrange : request.InRange
      · have haccepted : Request.accepted (request :: rest) = Request.accepted rest + 1 :=
          List.countP_cons_of_pos (decide_eq_true hrange)
        rw [haccepted] at henough ⊢
        cases frames with
        | nil => cases henough
        | cons frame frames =>
            obtain ⟨after, hask, hafter⟩ :=
              ask_overLink_of_inRange h (hframes frame List.mem_cons_self) hrange badge
            rw [performAll_cons_overLink hask, List.drop_succ_cons]
            exact ih hafter (fun f hf => hframes f (List.mem_cons_of_mem frame hf))
              (Nat.le_of_succ_le_succ henough)
      · have haccepted : Request.accepted (request :: rest) = Request.accepted rest :=
          List.countP_cons_of_neg (by simpa using hrange)
        rw [haccepted] at henough ⊢
        obtain ⟨cause, hask⟩ := ask_of_not_inRange hrange badge
        have hrun : (badge.ask request).run.overLink Scripted.link s =
            (.error (.argument cause), s) := by
          rw [hask]
          rfl
        rw [performAll_cons_overLink hrun]
        exact ih h hframes henough

/-- In a session over a link that holds enough frames, the requests in range have the answers to the
frames in their order, whatever the frames say; a request out of range blames its arguments.  After each
part of the session the link has lost exactly one frame for every request in range. -/
theorem askAll_stays_paired
    {requests : List Request} {frames : List (List UInt8)} {s : Scripted} (hs : s.Holds frames)
    (hframes : ∀ frame ∈ frames, Response.IsFrame frame)
    (henough : Request.accepted requests ≤ frames.length) (badge : Badge) :
    (badge.askAll requests s).1.length = requests.length ∧
      (∀ (i : Nat) (hi : i < requests.length),
        (requests[i].InRange → ∃ frame, frames[Request.accepted (requests.take i)]? = some frame ∧
          (badge.askAll requests s).1[i]? = some (requests[i].answer frame)) ∧
        (¬requests[i].InRange → ∃ cause,
          (badge.askAll requests s).1[i]? = some (.error (.argument cause)))) ∧
      ∀ i, (badge.askAll (requests.take i) s).2.Holds
        (frames.drop (Request.accepted (requests.take i))) := by
  have hparts (i : Nat) : (badge.askAll (requests.take i) s).2.Holds
      (frames.drop (Request.accepted (requests.take i))) :=
    askAll_holds hs hframes (Nat.le_trans (Request.accepted_take_le requests i) henough) badge
  refine ⟨?_, ?_, hparts⟩
  · rw [← List.length_map (f := Operation.request)]
    exact length_performAll_overLink badge _ Scripted.link s
  · intro i hi
    have houtcome : (badge.askAll requests s).1[i]? = some
        ((badge.ask requests[i]).run.overLink Scripted.link
          (badge.askAll (requests.take i) s).2).1 := by
      have hget := performAll_overLink_getElem? badge (requests.map .request) Scripted.link s i
      rw [← List.map_take, List.getElem?_map, List.getElem?_eq_getElem hi] at hget
      exact hget
    constructor
    · intro hrange
      have hlt := Nat.lt_of_lt_of_le (Request.accepted_take_lt hi hrange) henough
      have hholds := hparts i
      rw [List.drop_eq_getElem_cons hlt] at hholds
      obtain ⟨after, hask, -⟩ :=
        ask_overLink_of_inRange hholds (hframes _ (List.getElem_mem hlt)) hrange badge
      rw [hask] at houtcome
      exact ⟨_, List.getElem?_eq_getElem hlt, houtcome⟩
    · intro hrange
      obtain ⟨cause, hask⟩ := ask_of_not_inRange hrange badge
      rw [hask] at houtcome
      exact ⟨cause, houtcome⟩

/-- After a payload without buttons, a refused clock, an empty body and a wrong checksum, the answer to the
last request is still found, and the frame behind it is left. -/
theorem askAll_paired_after_failures :
    let requests : List Request := [.buttons, .i2cClock 0, .uart [1], .lcdClear, .uart [2]]
    let frames : List (List UInt8) :=
      [[1, 0x80, 0x80], [0, 7], [1, 0x80, 0x81], [2, 0x80, 0x41, 0xc1], [1, 0x81, 0x81]]
    let session := askAll {} requests { incoming := frames.flatten }
    session.1[4]? = some (.ok (.bytes [0x41])) ∧ session.2.incoming = [1, 0x81, 0x81] := by
  intro requests frames session
  have hframes : ∀ frame ∈ frames, Response.IsFrame frame := by
    intro frame hframe
    simp only [frames, List.mem_cons, List.not_mem_nil, or_false] at hframe
    rcases hframe with rfl | rfl | rfl | rfl | rfl <;> exact ⟨_, _, rfl, rfl⟩
  have henough : Request.accepted requests ≤ frames.length := by decide
  obtain ⟨-, houtcomes, hholds⟩ :=
    askAll_stays_paired (s := { incoming := frames.flatten }) ⟨rfl, rfl, rfl⟩ hframes henough {}
  obtain ⟨frame, hframe, houtcome⟩ := (houtcomes 4 (by decide)).1 (by decide)
  have hframe : [2, 0x80, 0x41, 0xc1] = frame := Option.some.inj hframe
  have hanswer : requests[4].answer frame = .ok (.bytes [0x41]) := by
    rw [← hframe]
    rfl
  have hdrop : (frames.drop (Request.accepted requests)).flatten = [1, 0x81, 0x81] := by decide
  have hleft : session.2.Holds (frames.drop (Request.accepted requests)) := hholds 5
  rw [hanswer] at houtcome
  exact ⟨houtcome, hleft.incoming.trans hdrop⟩

end Badge
end BadgeLink
