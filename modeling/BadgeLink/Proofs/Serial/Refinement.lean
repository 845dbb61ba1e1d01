import BadgeLink.Proofs.Badge.Sequence
import BadgeLink.Proofs.Serial.Receiving
import BadgeLink.Proofs.Serial.Sending

/-!
# Pieces make no difference

A session over a port does not see how the bytes that it receives are cut into pieces, nor the
interruptions between them.  As long as no call to receive is overtaken by its deadline, every request to
the port is answered as a scripted link with the same bytes in one piece answers it, so the two sessions
cannot be told apart.
-/

namespace BadgeLink
namespace Serial
namespace Bench

variable {α : Type} {b : Bench} {s : Scripted}

/-- The link over the port of a bench. -/
def link : Link (StateM Bench) :=
  station.toLink

theorem link_send (bytes : List UInt8) (b : Bench) : link.send bytes b = port.send bytes b :=
  rfl

theorem link_receive (count timeout : Nat) (b : Bench) :
    link.receive count timeout b =
      ((port.receive count timeout b).1.outcome, (port.receive count timeout b).2) :=
  rfl

theorem link_clear (b : Bench) :
    link.clear b = (b.clearInput.1.mapError .serial, b.clearInput.2) :=
  rfl

/-! ## Calls that are in time -/

/-- What the clock shows during a call to receive; the deadline of the call counts from the first look. -/
def looksDuring (count timeout : Nat) (b : Bench) : List Nat :=
  (link.receive count timeout b).2.looks.drop b.looks.length

/-- A request that is not overtaken by its deadline. -/
def Prompt : Ask × Bench → Prop
  | (.receive count timeout, before) =>
    let looks := before.looksDuring count timeout
    ∀ look ∈ looks.tail, look < looks.headD 0 + timeout
  | _ => True

instance : DecidablePred Prompt
  | (.receive .., _) => List.decidableBAll ..
  | (.send _, _) | (.clear, _) => .isTrue trivial

/-- A dialogue of which all requests over a bench are prompt. -/
def InTime (d : Dialogue α) (b : Bench) : Prop :=
  ∀ request ∈ d.asks link b, Prompt request

instance (d : Dialogue α) (b : Bench) : Decidable (b.InTime d) :=
  List.decidableBAll ..

/-! ## One request -/

/-- The same answer, and links that still mirror each other. -/
def Agrees (x : α × Bench) (y : α × Scripted) : Prop :=
  x.1 = y.1 ∧ x.2.Mirrors y.2

theorem Mirrors.agrees_send (h : b.Mirrors s) (bytes : List UInt8) :
    Agrees (link.send bytes b) (Scripted.link.send bytes s) := by
  obtain ⟨after, hsend, hafter⟩ := h.send bytes
  rw [link_send, hsend, Scripted.send_of_no_faults h.faults]
  exact ⟨rfl, hafter⟩

theorem Mirrors.agrees_receive
    (h : b.Mirrors s) {count timeout : Nat} (hprompt : Prompt (.receive count timeout, b)) :
    Agrees (link.receive count timeout b) (Scripted.link.receive count timeout s) := by
  obtain ⟨later, hlater, hdone⟩ := receive_collected h count timeout
  have hlooks : b.looksDuring count timeout = b.look.1 :: later := by
    rw [looksDuring, link_receive, hlater, List.append_assoc, List.drop_left]
    rfl
  have hearly : ∀ look ∈ later, look < b.look.1 + timeout := by
    intro look hlook
    have := hprompt look
    rw [hlooks] at this
    exact this hlook
  obtain ⟨hbytes, hmirrors⟩ := hdone hearly
  rw [link_receive, hbytes, Scripted.receive_of_no_faults h.faults]
  exact ⟨rfl, { hmirrors with }⟩

theorem clearInput_of_no_fault (hfault : b.clearFault = none) :
    b.clearInput = (.ok (), { b with stale := [], clears := b.clears + 1 }) := by
  rw [clearInput, hfault]

theorem Mirrors.agrees_clear (h : b.Mirrors s) :
    Agrees (link.clear b) (Scripted.link.clear s) := by
  rw [link_clear, clearInput_of_no_fault h.clearFault, Scripted.clear_of_no_faults h.faults]
  exact ⟨rfl, { h with stale := rfl, clears := congrArg (· + 1) h.clears }⟩

theorem Mirrors.pause (h : b.Mirrors s) (time : Nat) :
    (link.pause time b).2.Mirrors (Scripted.link.pause time s).2 :=
  { h with }

theorem Mirrors.note (h : b.Mirrors s) (record : Record) :
    (link.note record b).2.Mirrors (Scripted.link.note record s).2 :=
  { h with log := congrArg (· ++ [record]) h.log }

/-! ## Whole dialogues -/

/-- A dialogue that is in time runs over a bench as over its mirror image. -/
theorem agrees_overLink {d : Dialogue α} (h : b.Mirrors s) (htime : b.InTime d) :
    Agrees (d.overLink link b) (d.overLink Scripted.link s) := by
  induction d generalizing b s with
  | done value => exact ⟨rfl, h⟩
  | send bytes next ih =>
      obtain ⟨hanswer, hafter⟩ := h.agrees_send bytes
      rw [Dialogue.overLink_send, Dialogue.overLink_send, ← hanswer]
      exact ih _ hafter (List.forall_mem_cons.mp htime).2
  | receive count timeout next ih =>
      obtain ⟨hanswer, hafter⟩ := h.agrees_receive (htime _ List.mem_cons_self)
      rw [Dialogue.overLink_receive, Dialogue.overLink_receive, ← hanswer]
      exact ih _ hafter (List.forall_mem_cons.mp htime).2
  | clear next ih =>
      obtain ⟨hanswer, hafter⟩ := h.agrees_clear
      rw [Dialogue.overLink_clear, Dialogue.overLink_clear, ← hanswer]
      exact ih _ hafter (List.forall_mem_cons.mp htime).2
  | pause time next ih => exact ih (h.pause time) htime
  | note record next ih => exact ih (h.note record) htime

/-- Over an orderly bench, however its script cuts the bytes, any operations that are in time yield what
they yield over the scripted link with all bytes in one piece.  They send the same, leave the same bytes
unread and write the same log. -/
theorem performAll_refines_unsplit
    (badge : Badge) (operations : List Operation) {b : Bench} (hb : b.Orderly)
    (htime : b.InTime (badge.performAll operations)) :
    let onPort := (badge.performAll operations).overLink station.toLink b
    let onScript := b.unsplit.run (badge.performAll operations)
    onPort.1 = onScript.1 ∧ onPort.2.sent = onScript.2.sent ∧
      onPort.2.unread = onScript.2.unread ∧ onPort.2.log = onScript.2.log := by
  obtain ⟨houtcomes, hafter⟩ := agrees_overLink hb.mirrors_unsplit htime
  exact ⟨houtcomes, hafter.sent, hafter.unread_eq, hafter.log⟩

/-- Pieces that straddle an acknowledgement, a length byte and the end of a frame, with interruptions, a
slow read and a clock that goes on between looks: what is read is what one piece would have brought. -/
theorem performAll_refines_scattered_pieces :
    let b : Bench :=
      { stale := [7, 7]
        reads := [.interrupted, .data [1], .delay 3, .data [0x81, 0x81, 2], .interrupted,
          .data [0x80, 0x41], .data [0xc1, 9], .timedOut]
        writes := [.interrupted, .atMost 2]
        inForce := some 5
        ticks := [0, 1, 0, 2] }
    let badge : Badge := { timeout := 10 }
    let operations : List Operation := [.init, .request (.uart [1, 2, 3])]
    let onPort := (badge.performAll operations).overLink station.toLink b
    onPort.1.map Except.toOption = [some .done, some (.bytes [0x41])] ∧
      onPort.2.sent = [[0], [4, 1, 1, 2, 3, 1]] ∧ onPort.2.unread = [9] := by
  intro b badge operations
  have horderly : b.Orderly := by
    refine ⟨?_, ?_, rfl, rfl, rfl, rfl⟩
    · simp [b, ReadEvent.Orderly, ReadEvent.stream]
    · simp [b, WriteEvent.Takes]
  have htime : b.InTime (badge.performAll operations) := by decide +kernel
  have hrefines := performAll_refines_unsplit badge operations horderly htime
  generalize (badge.performAll operations).overLink station.toLink b = onPort at hrefines ⊢
  obtain ⟨houtcomes, hsent, hunread, -⟩ := hrefines
  dsimp only
  rw [houtcomes, hsent, hunread]
  decide +kernel

end Bench
end Serial
end BadgeLink
