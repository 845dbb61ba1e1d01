import BadgeLink.Proofs.Command.Layout
import Mathlib.Algebra.GroupWithZero.Nat
import Mathlib.Data.List.Forall2

/-!
# The pieces of commands

The parameters of a command are laid out as a list of pieces: bytes that stand for themselves, fields of
varying size, and frequencies.  What a piece looks like on the wire says nothing about how a length or a
frequency is computed; the encoder writes exactly what looks like this.  It can be refused one thing only,
a field that is too long for its own length byte, and the first such field is the one that is named.
-/

namespace Except

variable {ε α β : Type} {f : α → Except ε β}

/-- A fallible step can be taken for all elements of a list exactly when it can be taken for each. -/
theorem mapM_eq_ok_iff {as : List α} {bs : List β} :
    as.mapM f = .ok bs ↔ List.Forall₂ (fun a b => f a = .ok b) as bs := by
  induction as generalizing bs with
  | nil => simp [eq_comm]
  | cons a rest ih =>
      rw [mapM_cons_eq_ok_iff, List.forall₂_cons_left_iff]
      constructor
      · rintro ⟨b, others, ha, hrest, hbs⟩
        exact ⟨b, others, ha, ih.mp hrest, hbs⟩
      · rintro ⟨b, others, ha, hrest, hbs⟩
        exact ⟨b, others, ha, ih.mpr hrest, hbs⟩

theorem mapM_cons_eq_error_iff {a : α} {rest : List α} {e : ε} :
    (a :: rest).mapM f = .error e ↔
      f a = .error e ∨ (∃ b, f a = .ok b) ∧ rest.mapM f = .error e := by
  simp [List.mapM_cons, bind_eq_error_iff]

end Except

namespace BadgeLink
namespace Command

/-! ## The layout of parameters -/

/-- A part of the parameters: bytes that stand for themselves, a field of varying size, a frequency. -/
inductive Piece
  | plain (bytes : List UInt8)
  | field (bytes : List UInt8)
  | frequency (khz : UInt16)
  deriving Repr, DecidableEq

namespace Piece

/-- How a piece looks on the wire: a field follows a byte that is its length, and a frequency is two
bytes, of which the first counts 256 times. -/
inductive Written : Piece → List UInt8 → Prop
  | plain (bytes : List UInt8) : Written (.plain bytes) bytes
  | field (length : UInt8) (bytes : List UInt8) (hlength : length.toNat = bytes.length) :
    Written (.field bytes) (length :: bytes)
  | frequency (khz : UInt16) (high low : UInt8) (hkhz : high.toNat * 256 + low.toNat = khz.toNat) :
    Written (.frequency khz) [high, low]

/-- The number of bytes that a piece takes, with the length byte of a field. -/
def size : Piece → Nat
  | plain bytes => bytes.length
  | field bytes => bytes.length + 1
  | frequency _ => 2

/-- The field that follows a length byte, if the piece has one. -/
def field? : Piece → Option (List UInt8)
  | field bytes => some bytes
  | plain _ | frequency _ => none

def encode : Piece → Except Error (List UInt8)
  | plain bytes => .ok bytes
  | field bytes => counted bytes
  | frequency khz => .ok (bigEndian khz)

end Piece

/-- The parameters of a command, one after the other. -/
def pieces : Command → List Piece
  | reset | lcdClear | lcdRefresh | buttons => []
  | uart data => [.plain data]
  | lcdPixel x y color => [.plain [x, y, color.number]]
  | lcdText row col text => [.plain [row, col], .field (Text.utf8 text)]
  | ledSet led on => [.plain [led.number, if on then 1 else 0]]
  | ledBlink led period => [.plain [led.number, period]]
  | i2cClock khz => [.frequency khz]
  | i2cRead device register length => [.plain [device], .field register, .plain [length]]
  | i2cWrite device register data => [.plain [device], .field register, .field data]
  | spiConfig khz mode => [.frequency khz, .plain [mode.number]]
  | spiTransfer data => [.field data]

/-- The fields of a command that follow length bytes of their own, in their order. -/
def fields (c : Command) : List (List UInt8) :=
  c.pieces.filterMap Piece.field?

/-! ## Writing pieces -/

theorem bigEndian_eq_iff {khz : UInt16} {bytes : List UInt8} :
    bigEndian khz = bytes ↔
      ∃ high low : UInt8, high.toNat * 256 + low.toNat = khz.toNat ∧ bytes = [high, low] := by
  have hbound := khz.toNat_lt
  have hhigh : (khz.toNat / 256).toUInt8.toNat = khz.toNat / 256 :=
    Frame.toNat_lengthByte (by omega)
  have hlow : (khz.toNat % 256).toUInt8.toNat = khz.toNat % 256 :=
    Frame.toNat_lengthByte (by omega)
  rw [bigEndian_eq]
  constructor
  · rintro rfl
    refine ⟨_, _, ?_, rfl⟩
    rw [hhigh, hlow]
    omega
  · rintro ⟨high, low, hkhz, rfl⟩
    have hbelow := low.toNat_lt
    have hfirst : (khz.toNat / 256).toUInt8 = high := by
      apply UInt8.toNat_inj.mp
      rw [hhigh]
      omega
    have hsecond : (khz.toNat % 256).toUInt8 = low := by
      apply UInt8.toNat_inj.mp
      rw [hlow]
      omega
    rw [hfirst, hsecond]

/-- A piece is encoded into what it looks like on the wire, and into nothing else. -/
theorem Piece.encode_eq_ok_iff {piece : Piece} {bytes : List UInt8} :
    piece.encode = .ok bytes ↔ piece.Written bytes := by
  cases piece with
  | plain content =>
      constructor
      · rintro ⟨⟩
        exact .plain _
      · rintro ⟨⟩
        rfl
  | field content =>
      rw [encode, counted_eq_ok_iff]
      constructor
      · rintro ⟨hfits, rfl⟩
        exact .field _ content (Frame.toNat_lengthByte hfits)
      · intro hwritten
        obtain - | ⟨length, _, hlength⟩ := hwritten
        have hbound := length.toNat_lt
        refine ⟨by omega, ?_⟩
        rw [← hlength, Nat.toUInt8_eq, UInt8.ofNat_toNat]
  | frequency khz =>
      rw [encode, Except.ok.injEq, bigEndian_eq_iff]
      constructor
      · rintro ⟨high, low, hkhz, rfl⟩
        exact .frequency khz high low hkhz
      · intro hwritten
        obtain - | - | ⟨_, high, low, hkhz⟩ := hwritten
        exact ⟨high, low, hkhz, rfl⟩

/-- Only a field can be refused, and only because it is too long for its length byte. -/
theorem Piece.encode_eq_error_iff {piece : Piece} {e : Error} :
    piece.encode = .error e ↔
      ∃ field, piece.field? = some field ∧ 255 < field.length ∧
        e = .argument (.fieldLength field.length) := by
  cases piece with
  | plain | frequency => simp [encode, field?]
  | field content =>
      simp [encode, field?, counted, maxField, Except.ite_error_ok_eq_error_iff]

theorem Piece.exists_encode_iff {piece : Piece} :
    (∃ bytes, piece.encode = .ok bytes) ↔
      ∀ field, piece.field? = some field → field.length ≤ 255 := by
  rw [Except.exists_eq_ok_iff]
  constructor
  · intro hok field hfield
    by_contra hlong
    exact hok _ (encode_eq_error_iff.mpr ⟨field, hfield, by omega, rfl⟩)
  · intro hshort e herror
    obtain ⟨field, hfield, hlong, -⟩ := encode_eq_error_iff.mp herror
    have hfits := hshort field hfield
    omega

theorem Piece.size_of_field? {piece : Piece} {field : List UInt8}
    (hfield : piece.field? = some field) : piece.size = field.length + 1 := by
  cases piece with
  | plain | frequency => cases hfield
  | field content =>
      cases hfield
      rfl

theorem Piece.length_of_encode {piece : Piece} {bytes : List UInt8}
    (hbytes : piece.encode = .ok bytes) : bytes.length = piece.size := by
  cases encode_eq_ok_iff.mp hbytes <;> rfl

/-- Pieces are refused exactly when one of their fields is too long; the first such field is named. -/
theorem mapM_encode_eq_error_iff {pieces : List Piece} {e : Error} :
    pieces.mapM Piece.encode = .error e ↔
      ∃ field, (pieces.filterMap Piece.field?).find? (255 < ·.length) = some field ∧
        e = .argument (.fieldLength field.length) := by
  induction pieces with
  | nil => simp
  | cons piece rest ih =>
      rw [Except.mapM_cons_eq_error_iff, Piece.encode_eq_error_iff, Piece.exists_encode_iff, ih]
      cases hfield : piece.field? with
      | none => simp [hfield]
      | some field =>
          rw [List.filterMap_cons_some hfield]
          by_cases hlong : 255 < field.length
          · have hnot : ¬field.length ≤ 255 := by omega
            simp [hlong, hnot]
          · have hfits : field.length ≤ 255 := by omega
            simp [hlong, hfits]

theorem length_flatten_of_mapM
    {pieces : List Piece} {written : List (List UInt8)}
    (hwritten : pieces.mapM Piece.encode = .ok written) :
    written.flatten.length = (pieces.map Piece.size).sum := by
  induction pieces generalizing written with
  | nil =>
      cases hwritten
      rfl
  | cons piece rest ih =>
      obtain ⟨bytes, others, hbytes, hothers, rfl⟩ := Except.mapM_cons_eq_ok_iff.mp hwritten
      rw [List.flatten_cons, List.length_append, Piece.length_of_encode hbytes, ih hothers,
        List.map_cons, List.sum_cons]

/-- The parameters of a command are its pieces, each encoded by itself. -/
theorem parameters_eq (c : Command) :
    c.parameters = (c.pieces.mapM Piece.encode).map List.flatten := by
  cases c with
  | reset | uart | lcdClear | lcdRefresh | lcdPixel | ledSet | ledBlink | buttons | i2cClock
  | spiConfig => simp [parameters, pieces, Piece.encode]
  | lcdText row col text =>
      cases hfield : counted (Text.utf8 text) <;>
        simp [parameters, pieces, Piece.encode, hfield]
  | i2cRead device register length =>
      cases hfield : counted register <;> simp [parameters, pieces, Piece.encode, hfield]
  | i2cWrite device register data =>
      cases haddress : counted register <;> cases hwritten : counted data <;>
        simp [parameters, pieces, Piece.encode, haddress, hwritten]
  | spiTransfer data =>
      cases hfield : counted data <;> simp [parameters, pieces, Piece.encode, hfield]

variable {c : Command}

theorem parameters_eq_error_iff {e : Error} :
    c.parameters = .error e ↔
      ∃ field, c.fields.find? (255 < ·.length) = some field ∧
        e = .argument (.fieldLength field.length) := by
  rw [parameters_eq, Except.map_eq_error_iff, mapM_encode_eq_error_iff, fields]

/-- A command has parameters as soon as each of its fields fits its own length byte. -/
theorem exists_parameters_iff :
    (∃ params, c.parameters = .ok params) ↔ ∀ field ∈ c.fields, field.length ≤ 255 := by
  rw [Except.exists_eq_ok_iff]
  constructor
  · intro hok field hfield
    by_contra hlong
    have hsome : (c.fields.find? (255 < ·.length)).isSome := by
      rw [List.find?_isSome]
      exact ⟨field, hfield, by simpa using hlong⟩
    obtain ⟨first, hfirst⟩ := Option.isSome_iff_exists.mp hsome
    exact hok _ (parameters_eq_error_iff.mpr ⟨first, hfirst, rfl⟩)
  · intro hfits e herror
    obtain ⟨field, hfield, -⟩ := parameters_eq_error_iff.mp herror
    have hlong := List.find?_some hfield
    have hshort := hfits field (List.mem_of_find?_eq_some hfield)
    simp only [decide_eq_true_eq] at hlong
    omega

/-- The size of parameters is the sum of the sizes of their pieces. -/
theorem length_of_parameters {params : List UInt8} (hparams : c.parameters = .ok params) :
    params.length = (c.pieces.map Piece.size).sum := by
  rw [parameters_eq] at hparams
  obtain ⟨written, hwritten, rfl⟩ := Except.map_eq_ok_iff.mp hparams
  exact length_flatten_of_mapM hwritten

end Command
end BadgeLink
