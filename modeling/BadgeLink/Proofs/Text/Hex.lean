import BadgeLink.Proofs.Command.Layout
import BadgeLink.Proofs.Outcome
import BadgeLink.Proofs.Text.Digit
import BadgeLink.Session

/-!
# What hexadecimal text is read as

Separators and leading markers are dropped first, and what is left is read in pairs of digits.  So a text
is read exactly if pairs of digits are left, as the bytes that they stand for.  Where other characters
are left, they are told by their bytes: first that there is an odd number of these, and else the first
one that is no digit.
-/

namespace BadgeLink
namespace Text
namespace Hex

variable {c : Char} {b byte byte' : UInt8} {d i j : Nat} {chars text text' : List Char}
  {data bytes bytes' : List UInt8}

/-! ## Digits as bytes -/

/-- The UTF-8 bytes of characters. -/
def encoded (chars : List Char) : List UInt8 :=
  chars.flatMap String.utf8EncodeChar

theorem utf8_ofList (text : List Char) : utf8 (String.ofList text) = encoded text := by
  rw [utf8, String.toList_ofList, encoded]

theorem encoded_inj (heq : encoded text = encoded text') : text = text' := by
  rw [← utf8_ofList, ← utf8_ofList] at heq
  exact String.ofList_injective (utf8_inj heq)

/-- A byte that is a digit when it is taken for a character. -/
def IsDigitByte (byte : UInt8) : Prop :=
  ∃ d, IsDigit 16 (Char.ofNat byte.toNat) d

theorem digit?_eq (byte : UInt8) :
    digit? byte = (Numeral.digit? 16 (Char.ofNat byte.toNat)).map Nat.toUInt8 := by
  have hall : ∀ n < 256, digit? (UInt8.ofNat n) =
      (Numeral.digit? 16 (Char.ofNat (UInt8.ofNat n).toNat)).map Nat.toUInt8 := by
    decide +kernel
  have hbyte := hall byte.toNat byte.toNat_lt
  rwa [UInt8.ofNat_toNat] at hbyte

theorem digit?_of_isDigit (hd : IsDigit 16 (Char.ofNat byte.toNat) d) :
    digit? byte = some d.toUInt8 := by
  rw [digit?_eq, (Numeral.digit?_eq_some_iff le_rfl).mpr hd, Option.map_some]

theorem isDigit_of_digit? {value : UInt8} (hvalue : digit? byte = some value) :
    ∃ d, IsDigit 16 (Char.ofNat byte.toNat) d ∧ d.toUInt8 = value := by
  rw [digit?_eq] at hvalue
  obtain ⟨d, hd, rfl⟩ := Option.map_eq_some_iff.mp hvalue
  exact ⟨d, (Numeral.digit?_eq_some_iff le_rfl).mp hd, rfl⟩

theorem digit?_eq_none_iff : digit? byte = none ↔ ¬IsDigitByte byte := by
  constructor
  · rintro hnone ⟨d, hd⟩
    rw [digit?_of_isDigit hd] at hnone
    cases hnone
  · intro hother
    apply Option.eq_none_iff_forall_ne_some.mpr
    intro value hvalue
    obtain ⟨d, hd, -⟩ := isDigit_of_digit? hvalue
    exact hother ⟨d, hd⟩

theorem toNat_le_of_isDigit (hd : IsDigit 16 c d) : c.toNat ≤ 127 := by
  obtain ⟨hlt, rfl | rfl⟩ := hd
  · interval_cases d <;> decide
  · interval_cases d <;> decide

theorem toNat_ofNat_byte (byte : UInt8) : (Char.ofNat byte.toNat).toNat = byte.toNat := by
  have hlt := byte.toNat_lt
  have hvalid : byte.toNat.isValidChar := Or.inl (by omega)
  rw [Char.ofNat, dif_pos hvalid]
  rfl

/-- A digit is one byte. -/
theorem utf8EncodeChar_of_isDigit (hd : IsDigit 16 c d) :
    String.utf8EncodeChar c = [UInt8.ofNat c.toNat] ∧
      Char.ofNat (UInt8.ofNat c.toNat).toNat = c := by
  have hascii := toNat_le_of_isDigit hd
  have hbyte : (UInt8.ofNat c.toNat).toNat = c.toNat :=
    UInt8.toNat_ofNat_of_lt' (Nat.lt_of_le_of_lt hascii (by decide))
  constructor
  · rw [String.utf8EncodeChar]
    exact if_pos hascii
  · rw [hbyte, Char.ofNat_toNat]

/-- A byte that is a digit is the whole of it. -/
theorem utf8EncodeChar_of_isDigitByte (hbyte : IsDigitByte byte) :
    String.utf8EncodeChar (Char.ofNat byte.toNat) = [byte] := by
  obtain ⟨d, hd⟩ := hbyte
  rw [(utf8EncodeChar_of_isDigit hd).1, toNat_ofNat_byte, UInt8.ofNat_toNat]

/-! ## Pairs of digits -/

/-- Characters are pairs of digits that stand for bytes, the digit of the high half first. -/
inductive Spells : List Char → List UInt8 → Prop
  | nil : Spells [] []
  | cons {high low : Char} {h l : Nat} {text : List Char} {bytes : List UInt8}
    (hhigh : IsDigit 16 high h) (hlow : IsDigit 16 low l) (hrest : Spells text bytes) :
    Spells (high :: low :: text) (UInt8.ofNat (16 * h + l) :: bytes)

namespace Spells

/-- Every digit is one byte. -/
theorem length_encoded (h : Spells text bytes) : (encoded text).length = 2 * bytes.length := by
  induction h with
  | nil => rfl
  | cons hhigh hlow hrest ih =>
      rw [encoded, List.flatMap_cons, List.flatMap_cons, (utf8EncodeChar_of_isDigit hhigh).1,
        (utf8EncodeChar_of_isDigit hlow).1, ← encoded, List.length_append, List.length_append, ih,
        List.length_singleton, List.length_singleton, List.length_cons]
      omega

theorem exists_isDigit (h : Spells text bytes) (hc : c ∈ text) : ∃ d, IsDigit 16 c d := by
  induction h with
  | nil => cases hc
  | cons hhigh hlow hrest ih =>
      rcases List.mem_cons.mp hc with rfl | hc
      · exact ⟨_, hhigh⟩
      · rcases List.mem_cons.mp hc with rfl | hc
        · exact ⟨_, hlow⟩
        · exact ih hc

theorem isDigitByte (h : Spells text bytes) (hbyte : byte ∈ encoded text) : IsDigitByte byte := by
  obtain ⟨c, hc, hbyte⟩ := List.mem_flatMap.mp hbyte
  obtain ⟨d, hd⟩ := h.exists_isDigit hc
  obtain ⟨hencode, hsame⟩ := utf8EncodeChar_of_isDigit hd
  rw [hencode, List.mem_singleton] at hbyte
  refine ⟨d, ?_⟩
  rwa [hbyte, hsame]

/-- Characters stand for no other bytes. -/
theorem bytes_eq (h : Spells text bytes) (h' : Spells text bytes') : bytes = bytes' := by
  induction h generalizing bytes' with
  | nil =>
      cases h'
      rfl
  | cons hhigh hlow hrest ih =>
      cases h' with
      | cons hhigh' hlow' hrest' =>
          rw [hhigh.value_eq hhigh' le_rfl, hlow.value_eq hlow' le_rfl, ih hrest']

end Spells

/-- Pairs of digits are what is shown for the bytes that they stand for, with letters of either case. -/
theorem spells_iff :
    Spells text bytes ↔ List.Forall₂ (fun c c' => c = c' ∨ c = c'.toUpper) text (digits bytes) := by
  constructor
  · intro h
    induction h with
    | nil => exact .nil
    | cons hhigh hlow hrest ih =>
        rename_i h l text bytes
        have hhalves : (UInt8.ofNat (16 * h + l)).toNat = 16 * h + l := by
          apply UInt8.toNat_ofNat_of_lt'
          have hh := hhigh.1
          have hl := hlow.1
          show 16 * h + l < 256
          omega
        have hh : (16 * h + l) / 16 = h := by
          have hl := hlow.1
          omega
        have hl : (16 * h + l) % 16 = l := by
          have hl := hlow.1
          omega
        show List.Forall₂ _ _ (Nat.digitChar _ :: Nat.digitChar _ :: digits bytes)
        rw [hhalves, hh, hl]
        exact .cons hhigh.2 (.cons hlow.2 ih)
  · intro h
    induction bytes generalizing text with
    | nil =>
        obtain rfl := List.forall₂_nil_right_iff.mp h
        exact .nil
    | cons byte bytes ih =>
        obtain ⟨high, tail, hhigh, htail, rfl⟩ := List.forall₂_cons_right_iff.mp h
        obtain ⟨low, rest, hlow, hrest, rfl⟩ := List.forall₂_cons_right_iff.mp htail
        have hlt := byte.toNat_lt
        have hpair := Spells.cons ⟨by omega, hhigh⟩ ⟨Nat.mod_lt _ (by decide), hlow⟩ (ih hrest)
        rwa [Nat.div_add_mod, UInt8.ofNat_toNat] at hpair

/-! ## Decoding -/

/-- The first byte that is no digit, by its index. -/
def FirstOther (data : List UInt8) (byte : UInt8) (i : Nat) : Prop :=
  data[i]? = some byte ∧ ¬IsDigitByte byte ∧ ∀ j b, j < i → data[j]? = some b → IsDigitByte b

namespace FirstOther

theorem head (hbyte : ¬IsDigitByte byte) (data : List UInt8) : FirstOther (byte :: data) byte 0 :=
  ⟨rfl, hbyte, fun _ _ hj _ => absurd hj (Nat.not_lt_zero _)⟩

theorem cons (hb : IsDigitByte b) (h : FirstOther data byte i) :
    FirstOther (b :: data) byte (i + 1) := by
  obtain ⟨hat, hbyte, hbefore⟩ := h
  refine ⟨hat, hbyte, ?_⟩
  intro j b' hj hb'
  cases j with
  | zero => rwa [← Option.some.inj hb']
  | succ j => exact hbefore j b' (Nat.lt_of_succ_lt_succ hj) hb'

theorem mem (h : FirstOther data byte i) : byte ∈ data :=
  List.mem_of_getElem? h.1

/-- There is one first byte. -/
theorem eq (h : FirstOther data byte i) (h' : FirstOther data byte' j) : byte = byte' ∧ i = j := by
  obtain ⟨hat, hbyte, hbefore⟩ := h
  obtain ⟨hat', hbyte', hbefore'⟩ := h'
  rcases Nat.lt_trichotomy i j with hlt | rfl | hgt
  · exact absurd (hbefore' i byte hlt hat) hbyte
  · rw [hat] at hat'
    exact ⟨Option.some.inj hat', rfl⟩
  · exact absurd (hbefore j byte' hgt hat') hbyte'

end FirstOther

/-- An even number of bytes is pairs of digits, or one of the bytes is the first that is no digit. -/
theorem decodeFrom_cases (heven : data.length % 2 = 0) (index : Nat) :
    (∃ text bytes, encoded text = data ∧ Spells text bytes ∧ decodeFrom index data = .ok bytes) ∨
      ∃ byte i, FirstOther data byte i ∧
        decodeFrom index data = .error (.badByte byte (index + i)) := by
  fun_induction decodeFrom index data with
  | case1 index => exact Or.inl ⟨[], [], rfl, .nil, rfl⟩
  | case2 index byte => cases heven
  | case3 index high low rest hnone =>
      exact Or.inr ⟨high, 0, .head (digit?_eq_none_iff.mp hnone) _, rfl⟩
  | case4 index high low rest h hnone hhigh =>
      obtain ⟨d, hd, -⟩ := isDigit_of_digit? hhigh
      exact Or.inr ⟨low, 1, .cons ⟨d, hd⟩ (.head (digit?_eq_none_iff.mp hnone) rest), rfl⟩
  | case5 index high low rest h l hlow hhigh ih =>
      obtain ⟨d, hd, rfl⟩ := isDigit_of_digit? hhigh
      obtain ⟨e, he, rfl⟩ := isDigit_of_digit? hlow
      have hrest : rest.length % 2 = 0 := by
        rw [List.length_cons, List.length_cons] at heven
        omega
      rcases ih hrest with ⟨text, bytes, rfl, htext, hread⟩ | ⟨byte, i, hfirst, hread⟩
      · have hvalue : UInt8.ofNat (16 * d + e) = d.toUInt8 * 16 + e.toUInt8 := by
          rw [UInt8.ofNat_add, UInt8.ofNat_mul, UInt8.mul_comm]
          rfl
        have hhighByte := utf8EncodeChar_of_isDigitByte ⟨d, hd⟩
        have hlowByte := utf8EncodeChar_of_isDigitByte ⟨e, he⟩
        refine Or.inl ⟨_, _, ?_, .cons hd he htext, ?_⟩
        · rw [encoded, List.flatMap_cons, List.flatMap_cons, hhighByte, hlowByte]
          rfl
        · rw [hread, hvalue]
          rfl
      · refine Or.inr ⟨byte, i + 2, .cons ⟨d, hd⟩ (.cons ⟨e, he⟩ hfirst), ?_⟩
        rw [hread, Nat.add_assoc, Nat.add_comm 2]
        rfl

theorem decode_cases (data : List UInt8) :
    (data.length % 2 = 1 ∧ decode data = .error .oddLength) ∨
      (data.length % 2 = 0 ∧ decode data = decodeFrom 0 data) := by
  rcases Nat.mod_two_eq_zero_or_one data.length with heven | hodd
  · refine Or.inr ⟨heven, if_neg ?_⟩
    rw [heven]
    decide
  · exact Or.inl ⟨hodd, if_pos hodd⟩

/-- Bytes are decoded exactly if they are pairs of digits. -/
theorem decode_eq_ok_iff : decode (encoded text) = .ok bytes ↔ Spells text bytes := by
  rcases decode_cases (encoded text) with ⟨hodd, hread⟩ | ⟨heven, hread⟩
  · rw [hread]
    constructor
    · rintro ⟨⟩
    · intro h
      rw [h.length_encoded, Nat.mul_mod_right] at hodd
      cases hodd
  · rw [hread]
    rcases decodeFrom_cases heven 0 with
      ⟨text', bytes', hsame, htext, hread⟩ | ⟨byte, i, hfirst, hread⟩
    · obtain rfl := encoded_inj hsame
      rw [hread, Except.ok.injEq]
      constructor
      · rintro rfl
        exact htext
      · exact htext.bytes_eq
    · rw [hread]
      constructor
      · rintro ⟨⟩
      · intro h
        exact absurd (h.isDigitByte hfirst.mem) hfirst.2.1

theorem decode_eq_oddLength_iff : decode data = .error .oddLength ↔ data.length % 2 = 1 := by
  rcases decode_cases data with ⟨hodd, hread⟩ | ⟨heven, hread⟩
  · exact iff_of_true hread hodd
  · apply iff_of_false
    · rw [hread]
      rcases decodeFrom_cases heven 0 with ⟨_, _, -, -, hread⟩ | ⟨_, _, -, hread⟩
      · rw [hread]
        nofun
      · rw [hread]
        nofun
    · rw [heven]
      decide

theorem decode_eq_badByte_iff :
    decode data = .error (.badByte byte i) ↔ data.length % 2 = 0 ∧ FirstOther data byte i := by
  rcases decode_cases data with ⟨hodd, hread⟩ | ⟨heven, hread⟩
  · rw [hread, hodd]
    exact iff_of_false nofun nofun
  · rw [hread, and_iff_right heven]
    rcases decodeFrom_cases heven 0 with ⟨text, bytes, rfl, htext, hread⟩ | ⟨byte', j, hfirst, hread⟩
    · rw [hread]
      apply iff_of_false nofun
      intro hother
      exact hother.2.1 (htext.isDigitByte hother.mem)
    · rw [hread, Nat.zero_add]
      constructor
      · rintro ⟨⟩
        exact hfirst
      · intro hother
        obtain ⟨rfl, rfl⟩ := hfirst.eq hother
        rfl

/-! ## Separators and markers -/

/-- The characters of a text that are not dropped as separators. -/
def kept (text : String) : List Char :=
  text.toList.filter fun c => !isSeparator c

/-- The marker `0x`, as often as said. -/
def markers (count : Nat) : List Char :=
  (List.replicate count ['0', 'x']).flatten

theorem markers_succ (count : Nat) : markers (count + 1) = '0' :: 'x' :: markers count := by
  rw [markers, List.replicate_succ, List.flatten_cons]
  rfl

theorem dropMarkers_of_not_prefix (htext : ¬['0', 'x'] <+: text) : dropMarkers text = text := by
  rw [dropMarkers]
  rintro rest rfl
  exact htext (List.prefix_append ['0', 'x'] rest)

/-- All markers that lead are dropped, and nothing else. -/
theorem dropMarkers_eq_iff :
    dropMarkers text = chars ↔ ∃ count, text = markers count ++ chars ∧ ¬['0', 'x'] <+: chars := by
  constructor
  · rintro rfl
    fun_induction dropMarkers text with
    | case1 rest ih =>
        obtain ⟨count, hrest, hnone⟩ := ih
        refine ⟨count + 1, ?_, hnone⟩
        rw [markers_succ, List.cons_append, List.cons_append, ← hrest]
    | case2 text hother =>
        refine ⟨0, rfl, ?_⟩
        rintro ⟨rest, rfl⟩
        exact hother rest rfl
  · rintro ⟨count, rfl, hnone⟩
    induction count with
    | zero => exact dropMarkers_of_not_prefix hnone
    | succ count ih =>
        rw [markers_succ]
        exact ih

/-- A text has separators at any places between characters, in front of them and behind them. -/
inductive Scattered : List Char → List Char → Prop
  | nil : Scattered [] []
  | keep (c : Char) {chars text : List Char} (hrest : Scattered chars text) :
    Scattered (c :: chars) (c :: text)
  | insert {c : Char} {chars text : List Char} (hc : isBlank c ∨ c = ':')
    (hrest : Scattered chars text) : Scattered chars (c :: text)

theorem isSeparator_iff : isSeparator c ↔ isBlank c ∨ c = ':' := by
  rw [isSeparator, Bool.or_eq_true, beq_iff_eq]

theorem Scattered.filter_eq (h : Scattered chars text) (hchars : ∀ c ∈ chars, isSeparator c = false) :
    (text.filter fun c => !isSeparator c) = chars := by
  induction h with
  | nil => rfl
  | keep c hrest ih =>
      rw [List.filter_cons_of_pos, ih fun c hc => hchars c (List.mem_cons_of_mem _ hc)]
      rw [hchars c List.mem_cons_self]
      rfl
  | insert hc hrest ih =>
      rw [List.filter_cons_of_neg, ih hchars]
      rw [isSeparator_iff.mpr hc]
      decide

/-- No digit is a separator or the letter of a marker. -/
theorem isSeparator_of_isDigit (hd : IsDigit 16 c d) : isSeparator c = false ∧ c ≠ 'x' := by
  obtain ⟨hlt, rfl | rfl⟩ := hd
  · interval_cases d <;> decide
  · interval_cases d <;> decide

theorem Spells.not_marked (h : Spells text bytes) : ¬['0', 'x'] <+: text := by
  rintro ⟨rest, rfl⟩
  obtain ⟨d, hd⟩ := h.exists_isDigit (c := 'x') (by simp)
  exact (isSeparator_of_isDigit hd).2 rfl

/-- Digits are found again between separators, with a marker in front of them or without one. -/
theorem cleaned_of_scattered
    {spelling : List Char} {text : String} (hspelling : Spells spelling bytes)
    (htext : Scattered spelling text.toList ∨ Scattered ('0' :: 'x' :: spelling) text.toList) :
    cleaned text = spelling := by
  have hdigits (c : Char) (hc : c ∈ spelling) : isSeparator c = false := by
    obtain ⟨d, hd⟩ := hspelling.exists_isDigit hc
    exact (isSeparator_of_isDigit hd).1
  rw [cleaned]
  rcases htext with hplain | hmarked
  · rw [hplain.filter_eq hdigits]
    exact dropMarkers_of_not_prefix hspelling.not_marked
  · rw [hmarked.filter_eq]
    · exact dropMarkers_of_not_prefix hspelling.not_marked
    · intro c hc
      rcases List.mem_cons.mp hc with rfl | hc
      · decide
      · rcases List.mem_cons.mp hc with rfl | hc
        · decide
        · exact hdigits c hc

end Hex
end Text

/-! ## The data of a command -/

namespace CommandLine

open Text Text.Hex

variable {text : String} {bytes : List UInt8} {fault : Fault}

theorem readData_eq (text : String) :
    readData text = (decode (encoded (cleaned text))).mapError (.hexData text) := by
  rw [readData, Hex.read, utf8_ofList]

theorem readData_eq_ok_iff : readData text = .ok bytes ↔ Spells (cleaned text) bytes := by
  rw [readData_eq, Except.mapError_eq_ok_iff, decode_eq_ok_iff]

theorem readData_eq_error_iff :
    readData text = .error (.hexData text fault) ↔ decode (encoded (cleaned text)) = .error fault := by
  rw [readData_eq, Except.mapError_eq_error_iff]
  constructor
  · rintro ⟨_, hdecode, ⟨⟩⟩
    exact hdecode
  · intro hdecode
    exact ⟨fault, hdecode, rfl⟩

/-- Data are what pairs of digits stand for that are left of a text without its separators and leading
markers; a text that leaves other characters is refused for their odd number, or else for the first byte
that is no digit. -/
theorem readData_by_pairs :
    (∀ text chars, cleaned text = chars ↔
      ∃ count, kept text = markers count ++ chars ∧ ¬['0', 'x'] <+: chars) ∧
    (∀ text bytes, readData text = .ok bytes ↔ Spells (cleaned text) bytes) ∧
    (∀ spelling bytes, Spells spelling bytes ↔
      List.Forall₂ (fun c c' => c = c' ∨ c = c'.toUpper) spelling (encode bytes).toList) ∧
    (∀ spelling bytes text, Spells spelling bytes →
      Scattered spelling text.toList ∨ Scattered ('0' :: 'x' :: spelling) text.toList →
      readData text = .ok bytes) ∧
    (∀ text failure, readData text = .error failure → ∃ fault, failure = .hexData text fault) ∧
    (∀ text, readData text = .error (.hexData text .oddLength) ↔
      (encoded (cleaned text)).length % 2 = 1) ∧
    (∀ text byte i, readData text = .error (.hexData text (.badByte byte i)) ↔
      (encoded (cleaned text)).length % 2 = 0 ∧ FirstOther (encoded (cleaned text)) byte i) ∧
    Fault.oddLength.message = "Odd number of digits" := by
  refine ⟨?_, ?_, ?_, ?_, ?_, ?_, ?_, rfl⟩
  · intro text chars
    exact dropMarkers_eq_iff
  · intro text bytes
    exact readData_eq_ok_iff
  · intro spelling bytes
    rw [encode, String.toList_ofList]
    exact spells_iff
  · intro spelling bytes text hspelling htext
    rw [readData_eq_ok_iff, cleaned_of_scattered hspelling htext]
    exact hspelling
  · intro text failure hfailure
    rw [readData_eq, Except.mapError_eq_error_iff] at hfailure
    obtain ⟨fault, -, rfl⟩ := hfailure
    exact ⟨fault, rfl⟩
  · intro text
    rw [readData_eq_error_iff, decode_eq_oddLength_iff]
  · intro text byte i
    rw [readData_eq_error_iff, decode_eq_badByte_iff]

/-- A marker with a capital letter is not dropped. -/
example : readData "0x 0X:12" = .error (.hexData "0x 0X:12" (.badByte 0x58 1)) :=
  rfl

end CommandLine
end BadgeLink
