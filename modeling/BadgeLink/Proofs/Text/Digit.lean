import Mathlib.Data.List.Forall2
import Mathlib.Data.List.Induction
import Mathlib.Data.Nat.Digits.Defs
import Mathlib.Tactic.IntervalCases
import BadgeLink.Text.Numeral

/-!
# Digits

A digit is a character with a value, and a letter may be of either case.  The characters that numerals
read as digits are these and no others, so a digit has one value.  A sequence of digits stands for a
number by the place of each; hexadecimal text is spelled with the same digits.
-/

namespace BadgeLink
namespace Text

variable {base d e v w : Nat} {c : Char} {text rest : List Char}

/-! ## Single digits -/

/-- A character is the digit of a base with this value; a letter may be of either case. -/
def IsDigit (base : Nat) (c : Char) (d : Nat) : Prop :=
  d < base ∧ (c = Nat.digitChar d ∨ c = (Nat.digitChar d).toUpper)

theorem toNat_digitChar_of_letter (hten : 10 ≤ d) (hlt : d < 16) :
    (Nat.digitChar d).toNat = d + 87 := by
  interval_cases d <;> decide

theorem toNat_toUpper_digitChar_of_letter (hten : 10 ≤ d) (hlt : d < 16) :
    (Nat.digitChar d).toUpper.toNat = d + 55 := by
  interval_cases d <;> decide

/-- Reading a character finds the digit that it is. -/
theorem Numeral.digit?_eq_some_iff (hbase : base ≤ 16) :
    Numeral.digit? base c = some d ↔ IsDigit base c d := by
  rw [Numeral.digit?, Option.filter_eq_some_iff, decide_eq_true_eq, IsDigit, and_comm]
  refine and_congr_right fun hd => ?_
  have hsixteen : d < 16 := Nat.lt_of_lt_of_le hd hbase
  constructor
  · intro hvalue
    split at hvalue
    · next hnumber =>
        obtain rfl := Option.some.inj hvalue
        have hlow : '0'.toNat ≤ c.toNat := hnumber.1
        have hhigh : c.toNat ≤ '9'.toNat := hnumber.2
        left
        apply Char.toNat_inj.mp
        rw [Nat.toNat_digitChar_of_lt_ten]
        · exact (Nat.add_sub_of_le hlow).symm
        · exact Nat.sub_lt_left_of_lt_add hlow (Nat.lt_succ_of_le hhigh)
    · split at hvalue
      · next hletter =>
          obtain rfl := Option.some.inj hvalue
          have hlow : 97 ≤ c.toNat := hletter.1
          have ha : 'a'.toNat = 97 := rfl
          left
          apply Char.toNat_inj.mp
          rw [toNat_digitChar_of_letter (Nat.le_add_left _ _) hsixteen, ha]
          omega
      · split at hvalue
        · next hletter =>
            obtain rfl := Option.some.inj hvalue
            have hlow : 65 ≤ c.toNat := hletter.1
            have ha : 'A'.toNat = 65 := rfl
            right
            apply Char.toNat_inj.mp
            rw [toNat_toUpper_digitChar_of_letter (Nat.le_add_left _ _) hsixteen, ha]
            omega
        · cases hvalue
  · rintro (rfl | rfl)
    · interval_cases d <;> decide
    · interval_cases d <;> decide

theorem IsDigit.value_eq (hd : IsDigit base c d) (he : IsDigit base c e) (hbase : base ≤ 16) :
    d = e := by
  have hread := (Numeral.digit?_eq_some_iff hbase).mpr hd
  rw [(Numeral.digit?_eq_some_iff hbase).mpr he] at hread
  exact (Option.some.inj hread).symm

/-! ## Sequences of digits -/

/-- Digits stand for a number, the last of them for the lowest place. -/
def Denotes (base : Nat) (text : List Char) (v : Nat) : Prop :=
  ∃ digits, List.Forall₂ (IsDigit base) text.reverse digits ∧ v = Nat.ofDigits base digits

theorem denotes_nil : Denotes base [] v ↔ v = 0 := by
  simp [Denotes]

/-- One more digit moves those in front of it up by one place. -/
theorem denotes_concat :
    Denotes base (text ++ [c]) w ↔ ∃ v d, Denotes base text v ∧ IsDigit base c d ∧ w = v * base + d := by
  rw [Denotes, List.reverse_append, List.reverse_singleton, List.singleton_append]
  constructor
  · rintro ⟨digits, hdigits, rfl⟩
    obtain ⟨d, lower, hd, hlower, rfl⟩ := List.forall₂_cons_left_iff.mp hdigits
    refine ⟨Nat.ofDigits base lower, d, ⟨lower, hlower, rfl⟩, hd, ?_⟩
    rw [Nat.ofDigits_cons, Nat.add_comm, Nat.mul_comm]
  · rintro ⟨_, d, ⟨lower, hlower, rfl⟩, hd, rfl⟩
    refine ⟨d :: lower, List.Forall₂.cons hd hlower, ?_⟩
    rw [Nat.ofDigits_cons, Nat.add_comm, Nat.mul_comm]

theorem Denotes.value_eq
    (h : Denotes base text v) (h' : Denotes base text w) (hbase : base ≤ 16) : v = w := by
  obtain ⟨digits, hdigits, rfl⟩ := h
  obtain ⟨digits', hdigits', rfl⟩ := h'
  have hunique : Relator.RightUnique (IsDigit base) := fun _ _ _ hd he => hd.value_eq he hbase
  rw [List.right_unique_forall₂' hunique hdigits hdigits']

theorem Denotes.isDigit_of_mem (h : Denotes base text v) (hc : c ∈ text) : ∃ d, IsDigit base c d := by
  obtain ⟨digits, hdigits, -⟩ := h
  obtain ⟨i, hi, rfl⟩ := List.getElem_of_mem (List.mem_reverse.mpr hc)
  exact ⟨_, hdigits.get hi (hdigits.length_eq ▸ hi)⟩

/-- Zeros in front change nothing. -/
theorem Denotes.zeros (h : Denotes base text v) (hbase : 0 < base) (count : Nat) :
    Denotes base (List.replicate count '0' ++ text) v := by
  have hzero : IsDigit base '0' 0 := ⟨hbase, Or.inl (Nat.zero_eq_digitChar.mpr rfl)⟩
  have hzeros : Denotes base (List.replicate count '0') 0 := by
    induction count with
    | zero => exact denotes_nil.mpr rfl
    | succ count ih =>
        rw [List.replicate_succ']
        exact denotes_concat.mpr ⟨0, 0, ih, hzero, by simp⟩
  induction text using List.reverseRecOn generalizing v with
  | nil =>
      obtain rfl := denotes_nil.mp h
      rwa [List.append_nil]
  | append_singleton text c ih =>
      obtain ⟨v, d, htext, hd, rfl⟩ := denotes_concat.mp h
      rw [← List.append_assoc]
      exact denotes_concat.mpr ⟨v, d, ih htext, hd, rfl⟩

/-- A number is what its own digits stand for. -/
theorem denotes_toDigits (hone : 1 < base) (v : Nat) : Denotes base (Nat.toDigits base v) v := by
  induction v using Nat.strongRecOn with
  | _ v ih =>
      rw [Nat.toDigits_eq_if hone]
      by_cases hv : v < base
      · rw [if_pos hv, ← List.nil_append [_]]
        exact denotes_concat.mpr ⟨0, v, denotes_nil.mpr rfl, ⟨hv, Or.inl rfl⟩, by simp⟩
      · rw [if_neg hv]
        have hpos : 0 < v := by omega
        have hrest := ih (v / base) (Nat.div_lt_self hpos hone)
        have hlast : v % base < base := Nat.mod_lt v (by omega)
        refine denotes_concat.mpr ⟨v / base, v % base, hrest, ⟨hlast, Or.inl rfl⟩, ?_⟩
        exact (Nat.div_add_mod' v base).symm

end Text
end BadgeLink
