import BadgeLink.Proofs.Frame

/-!
# Taking frames apart

What follows the length byte of a frame is taken apart from its two ends: the checksum is the last byte
and the status the first one.  Decoding accepts what encoding writes and nothing else.  The one
difference is the length byte, which bounds what can be written: a longer body has a checksum as well,
but no frame.
-/

namespace BadgeLink
namespace Frame

variable {first status received : UInt8} {data payload body frame : List UInt8}

/-- A body with a status and a checksum is accepted exactly when the checksum is right. -/
theorem decodeBody_concat (status received : UInt8) (payload : List UInt8) :
    decodeBody (status :: (payload ++ [received])) =
      if checksum (status :: payload) = received then .ok (status, payload)
      else .error (.checksum (checksum (status :: payload)) received) := by
  have hinit : (status :: (payload ++ [received])).dropLast = status :: payload := by
    rw [← List.cons_append, List.dropLast_concat]
  have hlast : (status :: (payload ++ [received])).getLast? = some received := by
    rw [← List.cons_append, List.getLast?_concat]
  simp only [decodeBody, hinit, hlast]

/-- A body of at least two bytes has a status in front and a checksum behind. -/
theorem exists_status_checksum (hbody : 2 ≤ body.length) :
    ∃ status payload received, body = status :: (payload ++ [received]) := by
  obtain ⟨status, rest, rfl⟩ := List.exists_cons_of_length_pos (by omega : 0 < body.length)
  have hrest : rest ≠ [] := by
    intro hempty
    simp [hempty] at hbody
  exact ⟨status, rest.dropLast, rest.getLast hrest, by rw [List.dropLast_concat_getLast]⟩

theorem decodeBody_eq_ok_iff :
    decodeBody body = .ok (status, payload) ↔
      body = status :: (payload ++ [checksum (status :: payload)]) := by
  constructor
  · intro hdecode
    by_cases hshort : body.length < 2
    · -- A body without a status or without a checksum is refused.
      match body with
      | [] => simp [decodeBody] at hdecode
      | [_] => simp [decodeBody] at hdecode
    · obtain ⟨status', payload', received, rfl⟩ := exists_status_checksum (Nat.le_of_not_lt hshort)
      rw [decodeBody_concat] at hdecode
      obtain ⟨hsum, hparts⟩ := Except.ite_eq_ok_iff.mp hdecode
      obtain ⟨rfl, rfl⟩ : status' = status ∧ payload' = payload := by simpa using hparts
      rw [hsum]
  · intro hbody
    rw [hbody, decodeBody_concat, if_pos rfl]

theorem exists_encode_iff : (∃ frame, encode first data = .ok frame) ↔ data.length ≤ 254 := by
  constructor
  · intro ⟨frame, hframe⟩
    exact (encode_eq_ok_iff.mp hframe).1
  · intro hfits
    exact ⟨_, encode_eq_ok_iff.mpr ⟨hfits, rfl⟩⟩

/-- A frame is its length byte and a body that is accepted. -/
theorem decodeBody_of_encode (hframe : encode first data = .ok frame) :
    ∃ length body, frame = length :: body ∧ length.toNat + 2 = frame.length ∧
      decodeBody body = .ok (first, data) := by
  obtain ⟨hfits, rfl⟩ := encode_eq_ok_iff.mp hframe
  have hlength : (data.length + 1).toUInt8.toNat = data.length + 1 := toNat_lengthByte (by omega)
  refine ⟨_, _, rfl, ?_, decodeBody_eq_ok_iff.mpr rfl⟩
  rw [hlength]
  simp

/-- A body that is accepted comes from a frame, as long as one length byte can describe it. -/
theorem encode_of_decodeBody
    (hdecode : decodeBody body = .ok (status, payload)) (hfits : body.length ≤ 256) :
    ∃ length : UInt8, length.toNat + 1 = body.length ∧
      encode status payload = .ok (length :: body) := by
  have hbody := decodeBody_eq_ok_iff.mp hdecode
  have hsize : body.length = payload.length + 2 := by
    rw [hbody]
    simp
  have hlength : (payload.length + 1).toUInt8.toNat = payload.length + 1 :=
    toNat_lengthByte (by omega)
  refine ⟨(payload.length + 1).toUInt8, by omega, ?_⟩
  rw [encode_eq_ok_iff]
  exact ⟨by omega, by rw [hbody]⟩

/-- Decoding and encoding are inverse to each other.  Up to 254 bytes of data can be encoded, and a body is
accepted exactly when it ends in the checksum of what comes before; then it is what encoding writes behind
the length byte, unless it is too long for one.  The frame of a bare status is the encoded one. -/
theorem decodeBody_inverts_encode :
    (∀ (first : UInt8) (data : List UInt8),
      ((∃ frame, encode first data = .ok frame) ↔ data.length ≤ 254) ∧
        ∀ frame, encode first data = .ok frame →
          ∃ length body, frame = length :: body ∧ length.toNat + 2 = frame.length ∧
            decodeBody body = .ok (first, data)) ∧
      (∀ (status : UInt8) (payload body : List UInt8),
        (decodeBody body = .ok (status, payload) ↔
            body = status :: (payload ++ [checksum (status :: payload)])) ∧
          (decodeBody body = .ok (status, payload) → body.length ≤ 256 →
            ∃ length : UInt8, length.toNat + 1 = body.length ∧
              encode status payload = .ok (length :: body))) ∧
      ∀ status, encode status [] = .ok (bare status) := by
  refine ⟨?_, ?_, ?_⟩
  · intro first data
    exact ⟨exists_encode_iff, fun frame => decodeBody_of_encode⟩
  · intro status payload body
    exact ⟨decodeBody_eq_ok_iff, encode_of_decodeBody⟩
  · intro status
    rw [encode_eq_ok_iff]
    simp [bare, checksum]

/-- The longest frame: 254 bytes of data and a length byte of 255. -/
theorem decodeBody_inverts_longest_encode :
    ∃ body, encode 0x80 (List.replicate 254 7) = .ok (255 :: body) ∧
      decodeBody body = .ok (0x80, List.replicate 254 7) := by
  have hsize : (List.replicate 254 (7 : UInt8)).length = 254 := List.length_replicate
  generalize List.replicate 254 (7 : UInt8) = data at hsize
  obtain ⟨hencode, hdecode, -⟩ := decodeBody_inverts_encode
  obtain ⟨hfits, hinverse⟩ := hencode 0x80 data
  obtain ⟨frame, hframe⟩ := hfits.mpr (Nat.le_of_eq hsize)
  obtain ⟨length, body, rfl, hlength, hbody⟩ := hinverse frame hframe
  have hparts := (hdecode 0x80 data body).1.mp hbody
  have hlongest : length = 255 := by
    apply UInt8.toNat_inj.mp
    simp only [hparts, List.length_cons, List.length_append, hsize, List.length_nil] at hlength
    simpa using hlength
  exact ⟨body, by rw [← hlongest, hframe], hbody⟩

end Frame
end BadgeLink
