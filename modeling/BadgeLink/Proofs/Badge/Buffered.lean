import BadgeLink.Proofs.Badge.Pairing

/-!
# Bytes that are in the buffer already

A handshake discards what is in the buffer before it asks for anything, so neither it nor what follows it
depends on these bytes.  A request discards nothing: it takes the bytes in the buffer for the first ones
of its response.  So the response to a request that has timed out, if it comes late, is taken for the
response to the next one, unless there is a handshake in between.
-/

namespace BadgeLink
namespace Badge

variable {s : Scripted}

/-- A session that starts with a handshake starts with the request to discard. -/
theorem performAll_init_eq_clear (badge : Badge) (operations : List Operation) :
    ∃ next, badge.performAll (.init :: operations) = .clear next :=
  ⟨_, rfl⟩

/-- A request never asks to discard anything. -/
theorem obeys_ask (badge : Badge) (request : Request) :
    (badge.ask request).run.Obeys (· ≠ .clear) fun _ => True := by
  cases hwire : request.wire with
  | error e =>
      rw [ask_of_refused hwire]
      exact trivial
  | ok wire =>
      rw [ask_of_accepted hwire]
      refine ⟨nofun, fun answer => ?_⟩
      apply (obeys_afterSending badge request answer).mono
      · rintro ask ⟨count, timeout, rfl⟩
        exact nofun
      · exact fun _ _ => trivial

/-- A request is answered as if all stale bytes were still to come. -/
theorem ask_overLink_of_stale (hfaults : s.faults = []) (badge : Badge) (request : Request) :
    (s.run (badge.ask request).run).1 =
      (({ s with stale := [], incoming := s.stale ++ s.incoming } : Scripted).run
        (badge.ask request).run).1 := by
  have hsame : s.SameUnread { s with stale := [], incoming := s.stale ++ s.incoming } :=
    ⟨hfaults, hfaults, rfl⟩
  exact (hsame.overLink (obeys_ask badge request)).1

/-- A response that lies in front is taken by the next request in range, whether or not it was there
before that request was sent. -/
theorem ask_overLink_of_front
    (hfaults : s.faults = []) {frame rest : List UInt8} (hframe : Response.IsFrame frame)
    (hfront : s.stale ++ s.incoming = frame ++ rest) {request : Request} (hrange : request.InRange)
    (badge : Badge) :
    (s.run (badge.ask request).run).1 = request.answer frame := by
  let queued : Scripted := { s with stale := [], incoming := s.stale ++ s.incoming }
  have hholds : queued.Holds [frame, rest] := by
    refine ⟨hfaults, rfl, ?_⟩
    rw [List.flatten_cons, List.flatten_singleton]
    exact hfront
  obtain ⟨after, hask, -⟩ := ask_overLink_of_inRange hholds hframe hrange badge
  rw [ask_overLink_of_stale hfaults]
  exact congrArg Prod.fst hask

/-- Over a link without faults a handshake, and any session that starts with one, runs as if nothing were
stale.  A request runs as if all stale bytes were still to come, so a response that is already in the
buffer when an accepted request is sent is the one that it takes. -/
theorem only_init_discards (badge : Badge) {s : Scripted} (hfaults : s.faults = []) :
    (∀ operations, s.run (badge.performAll (.init :: operations)) =
      ({ s with stale := [] } : Scripted).run (badge.performAll (.init :: operations))) ∧
      (∀ request, (s.run (badge.ask request).run).1 =
        (({ s with stale := [], incoming := s.stale ++ s.incoming } : Scripted).run
          (badge.ask request).run).1) ∧
      ∀ (request : Request) (frame rest : List UInt8), request.InRange → Response.IsFrame frame →
        s.stale ++ s.incoming = frame ++ rest →
          (s.run (badge.ask request).run).1 = request.answer frame := by
  refine ⟨?_, ask_overLink_of_stale hfaults badge, ?_⟩
  · intro operations
    obtain ⟨next, hnext⟩ := badge.performAll_init_eq_clear operations
    rw [hnext]
    exact (Scripted.overLink_clear_of_stale hfaults [] next).symm
  · intro request frame rest hrange hframe hfront
    exact ask_overLink_of_front hfaults hframe hfront hrange badge

/-- A handshake between two requests protects the second from the late response to the first. -/
theorem init_discards_late_response :
    let badge : Badge := {}
    let late : Scripted :=
      { stale := [2, 0x80, 0x41, 0xc1], incoming := [0x01, 0x81, 0x81, 2, 0x80, 0x42, 0xc2] }
    let operations : List Operation := [.init, .request (.uart [2])]
    (late.run (badge.performAll operations)).1.map Except.toOption =
        [some .done, some (.bytes [0x42])] ∧
      (late.run (badge.ask (.uart [2])).run).1 = .ok (.bytes [0x41]) := by
  intro badge late operations
  have hframe : Response.IsFrame [2, 0x80, 0x41, 0xc1] := ⟨_, _, rfl, rfl⟩
  obtain ⟨hinit, -, hrequest⟩ := only_init_discards badge (s := late) rfl
  constructor
  · rw [hinit]
    decide +kernel
  · exact hrequest (.uart [2]) _ _ (by decide) hframe rfl

/-- The response to a request that has timed out comes late, into the buffer, before the next request is
sent: it is taken for the response to that one, which is still to come. -/
theorem late_response_answers_next_request :
    let badge : Badge := {}
    let first := ({} : Scripted).run (badge.ask (.uart [1])).run
    let late := first.2.feed [2, 0x80, 0x41, 0xc1] [2, 0x80, 0x42, 0xc2] []
    let flushed : Scripted := { late with stale := [] }
    first.1 = .error (.timeout 1 0) ∧ late.faults = [] ∧ (Request.uart [2]).InRange ∧
      (late.run (badge.ask (.uart [2])).run).1 = .ok (.bytes [0x41]) ∧
      (flushed.run (badge.ask (.uart [2])).run).1 = .ok (.bytes [0x42]) := by
  intro badge first late flushed
  have hfirst : first.2 =
      { sent := [[2, 1, 1, 0]], reads := [(1, 500)], log := [.sent [2, 1, 1, 0]] } := by
    decide +kernel
  have hlate : late = first.2.feed [2, 0x80, 0x41, 0xc1] [2, 0x80, 0x42, 0xc2] [] := rfl
  have hflushed : flushed = { late with stale := [] } := rfl
  have hlateFrame : Response.IsFrame [2, 0x80, 0x41, 0xc1] := ⟨_, _, rfl, rfl⟩
  have hownFrame : Response.IsFrame [2, 0x80, 0x42, 0xc2] := ⟨_, _, rfl, rfl⟩
  have hrange : (Request.uart [2]).InRange := by decide
  rw [hflushed, hlate, hfirst]
  refine ⟨rfl, rfl, hrange, ?_, ?_⟩
  · exact ask_overLink_of_front rfl hlateFrame rfl hrange badge
  · exact ask_overLink_of_front rfl hownFrame (List.append_nil _).symm hrange badge

end Badge
end BadgeLink
