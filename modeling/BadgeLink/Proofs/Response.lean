import BadgeLink.Proofs.Frame.Decoding
import BadgeLink.Response

/-!
# What a response frame says

A response frame is a length byte and one byte more than it says.  Whatever these bytes are, the frame
has a verdict: a payload, or the first thing that is wrong with it.
-/

namespace BadgeLink
namespace Response

/-- A length byte with as many bytes of body as it says and one for the checksum. -/
def IsFrame (bytes : List UInt8) : Prop :=
  ∃ length body, bytes = length :: body ∧ body.length = length.toNat + 1

theorem isFrame_cons_iff {length : UInt8} {body : List UInt8} :
    IsFrame (length :: body) ↔ body.length = length.toNat + 1 := by
  constructor
  · rintro ⟨_, _, ⟨⟩, hbody⟩
    exact hbody
  · intro hbody
    exact ⟨length, body, rfl, hbody⟩

theorem not_isFrame_nil : ¬IsFrame [] := by
  rintro ⟨_, _, ⟨⟩, -⟩

/-- What a frame says.  The status comes after the length byte, the checksum comes last, and the payload
is between them; an empty body lacks even the status, a wrong checksum is noticed before a status other
than success. -/
def verdict (frame : List UInt8) : Except Error (List UInt8) :=
  match frame.tail.dropLast with
  | [] => .error (.frame .missingStatus)
  | status :: payload =>
    let expected := Frame.checksum (status :: payload)
    let received := frame.getLastD 0
    if expected ≠ received then .error (.checksum expected received)
    else if status ≠ okStatus then .error (.refused status payload)
    else .ok payload

/-- A frame with a status has a verdict on its checksum first, and then on its status. -/
theorem verdict_concat (length status received : UInt8) (payload : List UInt8) :
    verdict (length :: status :: (payload ++ [received])) =
      if Frame.checksum (status :: payload) ≠ received then
        .error (.checksum (Frame.checksum (status :: payload)) received)
      else if status ≠ okStatus then .error (.refused status payload)
      else .ok payload := by
  have hlast : (length :: status :: (payload ++ [received])).getLastD 0 = received := by
    rw [← List.cons_append, ← List.cons_append, List.getLastD_concat]
  have hinit : (status :: (payload ++ [received])).dropLast = status :: payload := by
    rw [← List.cons_append, List.dropLast_concat]
  rw [verdict, hlast, List.tail_cons, hinit]

/-- A frame always has a checksum, its last byte. -/
theorem verdict_ne_missingChecksum (frame : List UInt8) :
    verdict frame ≠ .error (.frame .missingChecksum) := by
  unfold verdict
  split
  · simp
  · dsimp only
    split
    · simp
    · split <;> simp

/-- The body of a frame is taken apart according to the verdict. -/
theorem toPayload_ofBody (length : UInt8) {body : List UInt8} (hbody : body ≠ []) :
    ofBody body >>= toPayload = verdict (length :: body) := by
  match body with
  | [] => contradiction
  | [_] => rfl
  | first :: second :: rest =>
      have hlong : 2 ≤ (first :: second :: rest).length := by simp
      obtain ⟨status, payload, received, hparts⟩ := Frame.exists_status_checksum hlong
      rw [hparts, verdict_concat, ofBody, Frame.decodeBody_concat]
      by_cases hsum : Frame.checksum (status :: payload) = received
      · rw [if_pos hsum, if_neg (fun hne => hne hsum)]
        by_cases hstatus : status = okStatus
        · simp [hstatus, toPayload]
        · simp [hstatus, toPayload]
      · simp [hsum]

end Response
end BadgeLink
