import BadgeLink.Proofs.Badge.RoundTrip

/-!
# Acknowledgements that come late

A device acknowledges every reset, and a handshake that had to ask again has sent several.  It takes the
first acknowledgement and nothing behind it, so the others are still to be read when it has succeeded.
Each of them is a frame, and a request takes it for its response: as many requests as there are late
acknowledgements seem to be refused by the device, and the next one gets the response that comes behind.
-/

namespace BadgeLink

namespace Handshake

/-! ## Bytes in groups of three -/

variable {groups : List (List UInt8)}

/-- What is behind the first `k` groups starts with the next one. -/
theorem drop_flatten_append
    (hgroups : ∀ group ∈ groups, group.length = 3) {k : Nat} (hk : k ≤ groups.length)
    (rest : List UInt8) :
    (groups.flatten ++ rest).drop (3 * k) = (groups.drop k).flatten ++ rest := by
  induction groups generalizing k with
  | nil =>
      obtain rfl : k = 0 := Nat.le_zero.mp hk
      rfl
  | cons first others ih =>
      obtain ⟨hfirst, hothers⟩ := List.forall_mem_cons.mp hgroups
      cases k with
      | zero => rfl
      | succ k =>
          have hsum : 3 * (k + 1) = first.length + 3 * k := by omega
          rw [List.flatten_cons, List.append_assoc, hsum, ← List.drop_drop, List.drop_left,
            List.drop_succ_cons]
          exact ih hothers (Nat.le_of_succ_le_succ hk)

/-- The groups that a handshake reads are those that the bytes consist of. -/
theorem group_flatten_append
    (hgroups : ∀ group ∈ groups, group.length = 3) {j : Nat} (hj : j < groups.length)
    (rest : List UInt8) : group (groups.flatten ++ rest) j = groups[j] := by
  have hlength : groups[j].length = 3 := hgroups _ (List.getElem_mem hj)
  rw [group, drop_flatten_append hgroups (Nat.le_of_lt hj), List.drop_eq_getElem_cons hj,
    List.flatten_cons, List.append_assoc, ← hlength, List.take_left]

end Handshake

namespace Badge

variable {s : Scripted}

/-! ## What a handshake leaves -/

/-- The device seems to refuse a request that is answered by an acknowledgement. -/
theorem answer_ack (request : Request) :
    request.answer Handshake.ack = .error (.refused Response.resetStatus []) :=
  rfl

theorem isFrame_ack : Response.IsFrame Handshake.ack :=
  ⟨_, _, rfl, rfl⟩

/-- Late acknowledgements are frames like the response behind them. -/
theorem isFrame_of_mem_late
    {response : List UInt8} (hresponse : Response.IsFrame response) (late : Nat) :
    ∀ frame ∈ List.replicate late Handshake.ack ++ [response], Response.IsFrame frame := by
  intro frame hframe
  rcases List.mem_append.mp hframe with hlate | hlast
  · rw [List.eq_of_mem_replicate hlate]
    exact isFrame_ack
  · rw [List.mem_singleton.mp hlast]
    exact hresponse

/-- Of the acknowledgements that come in a row, a handshake takes the first. -/
theorem init_overLink_of_late_acks
    (hfaults : s.faults = []) {groups : List (List UInt8)} (hcount : groups.length ≤ 255)
    (hgroups : ∀ group ∈ groups, group.length = 3 ∧ group ≠ Handshake.ack)
    {late : Nat} {response : List UInt8}
    (hincoming : s.incoming =
      groups.flatten ++ (List.replicate (late + 1) Handshake.ack).flatten ++ response)
    (badge : Badge) :
    ∃ after, (badge.perform .init).run.overLink Scripted.link s = (.ok .done, after) ∧
      after.Holds (List.replicate late Handshake.ack ++ [response]) := by
  have hsize : ∀ group ∈ groups, group.length = 3 := fun group hgroup => (hgroups group hgroup).1
  let rest := (List.replicate late Handshake.ack ++ [response]).flatten
  have hrest : s.incoming = groups.flatten ++ (Handshake.ack ++ rest) := by
    rw [hincoming, List.append_assoc, List.replicate_succ, List.flatten_cons, List.append_assoc]
    simp only [rest, List.flatten_append, List.flatten_singleton]
  have hbehind : s.incoming.drop (3 * groups.length) = Handshake.ack ++ rest := by
    rw [hrest, Handshake.drop_flatten_append hsize (Nat.le_refl _), List.drop_length]
    rfl
  have hack : Handshake.group s.incoming groups.length = Handshake.ack := by
    rw [Handshake.group, hbehind]
    rfl
  have hmissed : ∀ j < groups.length, Handshake.group s.incoming j ≠ Handshake.ack := by
    intro j hj
    rw [hrest, Handshake.group_flatten_append hsize hj]
    exact (hgroups _ (List.getElem_mem hj)).2
  obtain ⟨after, hinit, hnone, hstale, hleft, -⟩ :=
    init_overLink_of_first_ack hfaults (Nat.lt_succ_of_le hcount) hack hmissed badge
  refine ⟨after, hinit, hnone, hstale, ?_⟩
  rw [hleft, Nat.mul_succ, ← List.drop_drop, hbehind]
  rfl

/-! ## What becomes of it -/

/-- A request in range takes the frame that those before it have left in front. -/
theorem askAll_getElem?_of_holds
    {frames : List (List UInt8)} (h : s.Holds frames)
    (hframes : ∀ frame ∈ frames, Response.IsFrame frame)
    {requests : List Request} {i : Nat} (hi : i < requests.length) (hrange : requests[i].InRange)
    (henough : Request.accepted (requests.take i) < frames.length) (badge : Badge) :
    (badge.askAll requests s).1[i]? =
      some (requests[i].answer frames[Request.accepted (requests.take i)]) := by
  have hholds := askAll_holds h hframes (Nat.le_of_lt henough) badge
  rw [List.drop_eq_getElem_cons henough] at hholds
  obtain ⟨after, hask, -⟩ :=
    ask_overLink_of_inRange hholds (hframes _ (List.getElem_mem henough)) hrange badge
  have hget := performAll_overLink_getElem? badge (requests.map .request) Scripted.link s i
  rw [← List.map_take, List.getElem?_map, List.getElem?_eq_getElem hi] at hget
  rw [askAll, Scripted.run, hget]
  exact congrArg (fun run => some run.1) hask

/-- A handshake succeeds at the first acknowledgement, takes nothing behind it, and leaves those that come
late.  Each of them is the answer to one of the accepted requests that follow, which is taken for refused;
the accepted request after these has the reply that is in the response behind them. -/
theorem init_leaves_late_acks
    {s : Scripted} (hfaults : s.faults = []) {groups : List (List UInt8)}
    (hcount : groups.length ≤ 255)
    (hgroups : ∀ group ∈ groups, group.length = 3 ∧ group ≠ [0x01, 0x81, 0x81])
    {late : Nat} {response payload : List UInt8} (hframe : Response.IsFrame response)
    (hverdict : Response.verdict response = .ok payload)
    (hincoming : s.incoming =
      groups.flatten ++ (List.replicate (late + 1) [0x01, 0x81, 0x81]).flatten ++ response)
    (badge : Badge) (requests : List Request) :
    let ready := (s.run (badge.perform .init).run).2
    let outcomes := (s.run (badge.performAll (.init :: requests.map .request))).1
    outcomes[0]? = some (.ok .done) ∧
      (ready.stale = [] ∧
        ready.incoming = (List.replicate late [0x01, 0x81, 0x81]).flatten ++ response) ∧
      ∀ (i : Nat) (hi : i < requests.length), requests[i].InRange →
        let earlier := Request.accepted (requests.take i)
        (earlier < late → outcomes[i + 1]? = some (.error (.refused 0x81 []))) ∧
          (earlier = late → outcomes[i + 1]? = some (requests[i].reply payload)) := by
  obtain ⟨after, hinit, hholds⟩ :=
    init_overLink_of_late_acks hfaults hcount hgroups hincoming badge
  have hrun := performAll_cons_overLink hinit (requests.map .request)
  have hlength : (List.replicate late Handshake.ack ++ [response]).length = late + 1 := by
    rw [List.length_append, List.length_replicate, List.length_singleton]
  dsimp only
  rw [Scripted.run, Scripted.run, hinit, hrun]
  refine ⟨rfl, ⟨hholds.stale, ?_⟩, ?_⟩
  · rw [hholds.incoming, List.flatten_append, List.flatten_singleton]
    rfl
  · -- What follows the handshake are requests with a frame for each.
    intro i hi hrange
    have hframes := isFrame_of_mem_late hframe late
    dsimp only
    rw [List.getElem?_cons_succ]
    constructor
    · intro hlate
      have hask := askAll_getElem?_of_holds hholds hframes hi hrange (by omega) badge
      rw [List.getElem_append_left (by rwa [List.length_replicate]), List.getElem_replicate] at hask
      rw [answer_ack] at hask
      exact hask
    · intro hlast
      have hask := askAll_getElem?_of_holds hholds hframes hi hrange (by omega) badge
      have hanswer : requests[i].answer response = requests[i].reply payload := by
        rw [Request.answer, hverdict]
        rfl
      rw [List.getElem_append_right (by rw [List.length_replicate, hlast]), List.getElem_singleton,
        hanswer] at hask
      exact hask

/-- One attempt has missed and both resets are acknowledged together: the display is not cleared but seems
to refuse it, a refused clock takes nothing, and the bytes behind the acknowledgements go to the last
request. -/
theorem init_leaves_one_of_two_acks :
    let s : Scripted :=
      { stale := [0x01]
        incoming := [0xde, 0xad, 0xbe, 0x01, 0x81, 0x81, 0x01, 0x81, 0x81, 2, 0x80, 0x41, 0xc1] }
    let requests : List Request := [.lcdClear, .i2cClock 0, .uart [1]]
    let outcomes := (s.run (({} : Badge).performAll (.init :: requests.map .request))).1
    (s.run (({} : Badge).perform .init).run).2.incoming = [0x01, 0x81, 0x81, 2, 0x80, 0x41, 0xc1] ∧
      outcomes[1]? = some (.error (.refused 0x81 [])) ∧
      outcomes[3]? = some (.ok (.bytes [0x41])) := by
  intro s requests outcomes
  have hgroups : ∀ group ∈ [[0xde, 0xad, 0xbe]],
      group.length = 3 ∧ group ≠ ([0x01, 0x81, 0x81] : List UInt8) := by
    decide
  have hframe : Response.IsFrame [2, 0x80, 0x41, 0xc1] := ⟨_, _, rfl, rfl⟩
  have hverdict : Response.verdict [2, 0x80, 0x41, 0xc1] = .ok [0x41] := rfl
  have hincoming : s.incoming = [[0xde, 0xad, 0xbe]].flatten ++
      (List.replicate (1 + 1) [0x01, 0x81, 0x81]).flatten ++ [2, 0x80, 0x41, 0xc1] := rfl
  obtain ⟨-, ⟨-, hleft⟩, hrequests⟩ :=
    init_leaves_late_acks (s := s) rfl (by decide) hgroups hframe hverdict hincoming {} requests
  exact ⟨hleft, (hrequests 0 (by decide) trivial).1 (by decide),
    (hrequests 2 (by decide) (by decide)).2 (by decide)⟩

/-- The same bytes once more: there are no more acknowledgements than resets that were sent, and the
response behind them is in order, but the first request gets the second acknowledgement. -/
theorem late_ack_answers_request :
    let groups : List (List UInt8) := [[0xde, 0xad, 0xbe]]
    let acks : List (List UInt8) := [[0x01, 0x81, 0x81], [0x01, 0x81, 0x81]]
    let response : List UInt8 := [2, 0x80, 0x41, 0xc1]
    let s : Scripted := { incoming := groups.flatten ++ acks.flatten ++ response }
    s.faults = [] ∧ groups.length ≤ 255 ∧
      (∀ group ∈ groups, group.length = 3 ∧ group ≠ [0x01, 0x81, 0x81]) ∧
      1 ≤ acks.length ∧ acks.length ≤ groups.length + 1 ∧
      Response.IsFrame response ∧ Response.verdict response = .ok [0x41] ∧
      (Request.uart [1]).InRange ∧
      (s.run (({} : Badge).performAll [.init, .request (.uart [1])])).1 =
        [.ok .done, .error (.refused 0x81 [])] := by
  intro groups acks response s
  refine ⟨rfl, by decide, by decide, by decide, by decide, ⟨_, _, rfl, rfl⟩, rfl, by decide, ?_⟩
  decide +kernel

end Badge
end BadgeLink
