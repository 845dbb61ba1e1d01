import BadgeLink.Proofs.Outcome
import BadgeLink.Proofs.Text.Digit

/-!
# What numerals are read as

Digits are read from the left with the value so far, and the first thing that goes wrong decides the
fault.  So a numeral that is read has the value that its digits stand for, however many zeros lead, and
a text that is not read has either a character that is no digit or too large a value in front of
everything else that is wrong with it.
-/

namespace BadgeLink
namespace Text
namespace Numeral

variable {base limit v : Nat} {past fault : Fault} {before rest text : List Char}
  {outcome : Except Fault Nat}

/-! ## Digits from the left -/

/-- Digits of a value within the limit come first, and then a character that is no digit. -/
def StopsAtOther (base limit : Nat) (text : List Char) : Prop :=
  ∃ before c after v, text = before ++ c :: after ∧ Denotes base before v ∧ v ≤ limit ∧
    ∀ d, ¬IsDigit base c d

/-- Digits of a value within the limit come first, and with the next digit the value is past it. -/
def Overflows (base limit : Nat) (text : List Char) : Prop :=
  ∃ before c after v w, text = before ++ c :: after ∧ Denotes base before v ∧ v ≤ limit ∧
    Denotes base (before ++ [c]) w ∧ limit < w

/-- How a text can come out that is read as digits from the left. -/
inductive Scanned (base limit : Nat) (past : Fault) (text : List Char) : Except Fault Nat → Prop
  | value (v : Nat) (htext : Denotes base text v) (hv : v ≤ limit) :
    Scanned base limit past text (.ok v)
  | other (h : StopsAtOther base limit text) : Scanned base limit past text (.error .invalidDigit)
  | over (h : Overflows base limit text) : Scanned base limit past text (.error past)

/-- Digits that are within the limit are read, and reading goes on behind them. -/
theorem digitsFrom_append
    (hbase : base ≤ 16) (hbefore : Denotes base before v) (hv : v ≤ limit) (past : Fault)
    (rest : List Char) :
    digitsFrom base limit past 0 (before ++ rest) = digitsFrom base limit past v rest := by
  induction before using List.reverseRecOn generalizing v rest with
  | nil =>
      obtain rfl := denotes_nil.mp hbefore
      rw [List.nil_append]
  | append_singleton before c ih =>
      obtain ⟨u, d, hfront, hd, rfl⟩ := denotes_concat.mp hbefore
      have hpos : 0 < base := Nat.lt_of_le_of_lt (Nat.zero_le d) hd.1
      have hu : u ≤ limit := by
        have hup := Nat.le_mul_of_pos_right u hpos
        omega
      rw [List.append_assoc, List.singleton_append, ih hfront hu, digitsFrom,
        (digit?_eq_some_iff hbase).mpr hd]
      exact if_pos hv

/-- Whatever text is read as digits, it comes out in one of three ways. -/
theorem scanned_digitsFrom
    (hbase : base ≤ 16) (hbefore : Denotes base before v) (hv : v ≤ limit) (past : Fault)
    (rest : List Char) :
    Scanned base limit past (before ++ rest) (digitsFrom base limit past v rest) := by
  -- What has been read moves from the rest to the digits in front, character by character.
  induction rest generalizing before v with
  | nil =>
      rw [List.append_nil]
      exact .value v hbefore hv
  | cons c rest ih =>
      rw [digitsFrom]
      cases hdigit : digit? base c with
      | none =>
          refine .other ⟨before, c, rest, v, rfl, hbefore, hv, ?_⟩
          intro d hd
          rw [(digit?_eq_some_iff hbase).mpr hd] at hdigit
          cases hdigit
      | some d =>
          have hd := (digit?_eq_some_iff hbase).mp hdigit
          have hnext : Denotes base (before ++ [c]) (v * base + d) :=
            denotes_concat.mpr ⟨v, d, hbefore, hd, rfl⟩
          dsimp only
          by_cases hwithin : v * base + d ≤ limit
          · rw [if_pos hwithin, List.append_cons]
            exact ih hnext hwithin
          · rw [if_neg hwithin]
            exact .over ⟨before, c, rest, v, _, rfl, hbefore, hv, hnext, Nat.lt_of_not_le hwithin⟩

theorem digitsFrom_eq_iff (hbase : base ≤ 16) :
    digitsFrom base limit past 0 text = outcome ↔ Scanned base limit past text outcome := by
  constructor
  · rintro rfl
    exact scanned_digitsFrom hbase (denotes_nil.mpr rfl) (Nat.zero_le limit) past text
  · rintro (⟨v, htext, hv⟩ | ⟨before, c, after, v, rfl, hbefore, hv, hc⟩ |
      ⟨before, c, after, v, w, rfl, hbefore, hv, hnext, hw⟩)
    · have hread := digitsFrom_append hbase htext hv past []
      rwa [List.append_nil, digitsFrom] at hread
    · have hnone : digit? base c = none := by
        apply Option.eq_none_iff_forall_ne_some.mpr
        intro d hd
        exact hc d ((digit?_eq_some_iff hbase).mp hd)
      rw [digitsFrom_append hbase hbefore hv, digitsFrom, hnone]
    · obtain ⟨u, d, hfront, hd, rfl⟩ := denotes_concat.mp hnext
      obtain rfl := hfront.value_eq hbefore hbase
      rw [digitsFrom_append hbase hbefore hv, digitsFrom, (digit?_eq_some_iff hbase).mpr hd]
      exact if_neg (Nat.not_le_of_gt hw)

/-! ## A sign in front -/

/-- What is read as digits: the text without the plus sign that may stand in front. -/
def unsigned : List Char → List Char
  | '+' :: rest => rest
  | text => text

theorem unsigned_of_ne {c : Char} (hc : c ≠ '+') (rest : List Char) :
    unsigned (c :: rest) = c :: rest := by
  rw [unsigned]
  rintro _ ⟨⟩
  exact hc rfl

/-- A value needs digits; if there are none, neither an empty text nor a lone sign is read. -/
theorem natural_cases (base limit : Nat) (text : List Char) :
    (text = [] ∧ natural base limit text = .error .empty) ∨
      (text = ['+'] ∧ natural base limit text = .error .invalidDigit) ∨
      (text ≠ [] ∧ text ≠ ['+'] ∧ unsigned text ≠ [] ∧
        natural base limit text = digitsFrom base limit .tooLarge 0 (unsigned text)) := by
  rcases text with _ | ⟨c, rest⟩
  · exact Or.inl ⟨rfl, rfl⟩
  · by_cases hc : c = '+'
    · subst hc
      rcases rest with _ | ⟨d, rest⟩
      · exact Or.inr (Or.inl ⟨rfl, rfl⟩)
      · refine Or.inr (Or.inr ⟨by simp, by simp, by simp [unsigned], rfl⟩)
    · refine Or.inr (Or.inr ⟨by simp, by simp [hc], ?_, ?_⟩)
      · rw [unsigned_of_ne hc]
        exact List.cons_ne_nil c rest
      · rw [unsigned_of_ne hc, natural]
        · simp
        · simp [hc]
        · simp [hc]

theorem natural_eq_ok_iff (hbase : base ≤ 16) :
    natural base limit text = .ok v ↔
      unsigned text ≠ [] ∧ Denotes base (unsigned text) v ∧ v ≤ limit := by
  rcases natural_cases base limit text with ⟨rfl, hread⟩ | ⟨rfl, hread⟩ | ⟨-, -, hdigits, hread⟩
  · simp [hread, unsigned]
  · simp [hread, unsigned]
  · rw [hread, digitsFrom_eq_iff hbase]
    constructor
    · rintro ⟨_, htext, hv⟩
      exact ⟨hdigits, htext, hv⟩
    · rintro ⟨-, htext, hv⟩
      exact .value v htext hv

theorem not_stopsAtOther_nil (base limit : Nat) : ¬StopsAtOther base limit [] := by
  simp [StopsAtOther]

theorem not_overflows_nil (base limit : Nat) : ¬Overflows base limit [] := by
  simp [Overflows]

/-- There are three faults, and what is first from the left decides between the last two of them. -/
theorem natural_eq_error_iff (hbase : base ≤ 16) :
    natural base limit text = .error fault ↔
      fault = .empty ∧ text = [] ∨
        fault = .invalidDigit ∧ (text = ['+'] ∨ StopsAtOther base limit (unsigned text)) ∨
        fault = .tooLarge ∧ Overflows base limit (unsigned text) := by
  rcases natural_cases base limit text with
    ⟨rfl, hread⟩ | ⟨rfl, hread⟩ | ⟨htext, hsign, hdigits, hread⟩
  · simp [hread, unsigned, not_stopsAtOther_nil, not_overflows_nil, eq_comm]
  · simp [hread, unsigned, not_overflows_nil, eq_comm]
  · rw [hread, digitsFrom_eq_iff hbase]
    constructor
    · rintro (_ | hother | hover)
      · exact Or.inr (Or.inl ⟨rfl, Or.inr hother⟩)
      · exact Or.inr (Or.inr ⟨rfl, hover⟩)
    · rintro (⟨-, hempty⟩ | ⟨rfl, hlone | hother⟩ | ⟨rfl, hover⟩)
      · exact absurd hempty htext
      · exact absurd hlone hsign
      · exact .other hother
      · exact .over hover

/-! ## Addresses -/

/-- The base of an address and what follows the marker of the base, if there is one. -/
def marked : List Char → Nat × List Char
  | '0' :: 'x' :: rest => (16, rest)
  | '0' :: 'X' :: rest => (16, rest)
  | text => (10, text)

theorem marked_base_le (text : List Char) : (marked text).1 ≤ 16 := by
  unfold marked
  split <;> simp

/-- Digits of a number have no marker in front. -/
theorem marked_of_denotes (h : Denotes 10 text v) : marked text = (10, text) := by
  have hletter (c : Char) (hc : c ∈ text) : c ≠ 'x' ∧ c ≠ 'X' := by
    obtain ⟨d, hd⟩ := h.isDigit_of_mem hc
    have hread := (digit?_eq_some_iff (by decide)).mpr hd
    constructor
    · rintro rfl
      cases hread
    · rintro rfl
      cases hread
  rw [marked]
  · rintro rest rfl
    exact (hletter 'x' (by simp)).1 rfl
  · rintro rest rfl
    exact (hletter 'X' (by simp)).2 rfl

theorem unsigned_of_denotes (h : Denotes base text v) (hbase : base ≤ 16) : unsigned text = text := by
  rcases text with _ | ⟨c, rest⟩
  · rfl
  · obtain ⟨d, hd⟩ := h.isDigit_of_mem List.mem_cons_self
    apply unsigned_of_ne
    rintro rfl
    have hread := (digit?_eq_some_iff hbase).mpr hd
    cases hread

theorem address_eq (limit : Nat) (text : String) :
    address limit text =
      natural (marked text.toList).1 largest64 (marked text.toList).2 >>= fun v =>
        if v ≤ limit then .ok v else .error (.outOfRange text) := by
  rw [address]
  generalize text.toList = chars
  fun_cases marked chars with
  | case1 rest => rfl
  | case2 rest => rfl
  | case3 chars hlower hupper =>
      split
      · exact (hlower _ rfl).elim
      · exact (hupper _ rfl).elim
      · rfl

theorem address_eq_ok_iff (limit : Nat) (text : String) (v : Nat) :
    address limit text = .ok v ↔
      natural (marked text.toList).1 largest64 (marked text.toList).2 = .ok v ∧ v ≤ limit := by
  simp only [address_eq, Except.bind_eq_ok_iff, Except.ite_eq_ok_iff, Except.ok.injEq]
  constructor
  · rintro ⟨_, hread, hlimit, rfl⟩
    exact ⟨hread, hlimit⟩
  · rintro ⟨hread, hlimit⟩
    exact ⟨v, hread, hlimit, rfl⟩

theorem address_eq_error_iff (limit : Nat) (text : String) (fault : Fault) :
    address limit text = .error fault ↔
      natural (marked text.toList).1 largest64 (marked text.toList).2 = .error fault ∨
        fault = .outOfRange text ∧
          ∃ v, natural (marked text.toList).1 largest64 (marked text.toList).2 = .ok v ∧
            limit < v := by
  rw [address_eq, Except.bind_eq_error_iff]
  apply or_congr_right
  constructor
  · rintro ⟨v, hread, hcheck⟩
    by_cases hlimit : v ≤ limit
    · rw [if_pos hlimit] at hcheck
      cases hcheck
    · rw [if_neg hlimit] at hcheck
      cases hcheck
      exact ⟨rfl, v, hread, Nat.lt_of_not_le hlimit⟩
  · rintro ⟨rfl, v, hread, hlimit⟩
    exact ⟨v, hread, if_neg (Nat.not_le_of_gt hlimit)⟩

/-- A lone minus sign is no digit. -/
theorem stopsAtOther_minus (hbase : base ≤ 16) : StopsAtOther base limit ['-'] := by
  refine ⟨[], '-', [], 0, rfl, denotes_nil.mpr rfl, Nat.zero_le limit, ?_⟩
  intro d hd
  have hread := (digit?_eq_some_iff hbase).mpr hd
  cases hread

/-- The digits of a number are read as this number, whatever zeros lead. -/
theorem natural_toDigits (hone : 1 < base) (hbase : base ≤ 16) (hv : v ≤ limit) (zeros : Nat) :
    natural base limit (List.replicate zeros '0' ++ Nat.toDigits base v) = .ok v := by
  have hdenotes := (denotes_toDigits hone v).zeros (Nat.zero_lt_of_lt hone) zeros
  rw [natural_eq_ok_iff hbase, unsigned_of_denotes hdenotes hbase]
  exact ⟨List.append_ne_nil_of_right_ne_nil _ Nat.toDigits_ne_nil, hdenotes, hv⟩

/-- The numerals of a number in either base are read as this number. -/
theorem address_numeral (hword : v ≤ largest64) (hlimit : v ≤ limit) (zeros : Nat) :
    let lead := String.ofList (List.replicate zeros '0')
    address limit (lead ++ toString v) = .ok v ∧
      address limit ("0x" ++ lead ++ String.ofList (Nat.toDigits 16 v)) = .ok v := by
  intro lead
  have hdecimal : Denotes 10 (List.replicate zeros '0' ++ Nat.toDigits 10 v) v :=
    (denotes_toDigits (by decide) v).zeros (by decide) zeros
  have hplain : marked (lead ++ toString v).toList =
      (10, List.replicate zeros '0' ++ Nat.toDigits 10 v) := by
    rw [← marked_of_denotes hdecimal]
    simp [lead]
  have hprefixed : marked ("0x" ++ lead ++ String.ofList (Nat.toDigits 16 v)).toList =
      (16, List.replicate zeros '0' ++ Nat.toDigits 16 v) := by
    simp [lead, marked]
  rw [address_eq_ok_iff, address_eq_ok_iff, hplain, hprefixed]
  dsimp only
  constructor
  · exact ⟨natural_toDigits (by decide) (by decide) hword zeros, hlimit⟩
  · exact ⟨natural_toDigits (by decide) (by decide) hword zeros, hlimit⟩

/-- An address is read exactly if it follows its grammar: digits of base ten, or of base sixteen behind a
marker, with one plus sign in front of them or none.  Otherwise the first thing that is wrong from the left
is the fault, and a value past the limit is noticed last.  The numerals of a number in either base are read
as this number, whatever zeros lead. -/
theorem address_follows_grammar (limit : Nat) :
    (∀ text : String,
      let base := (marked text.toList).1
      let rest := (marked text.toList).2
      (∀ v, address limit text = .ok v ↔
        unsigned rest ≠ [] ∧ Denotes base (unsigned rest) v ∧ v ≤ largest64 ∧ v ≤ limit) ∧
      (address limit text = .error .empty ↔ rest = []) ∧
      (address limit text = .error .invalidDigit ↔
        rest = ['+'] ∨ rest = ['-'] ∨ StopsAtOther base largest64 (unsigned rest)) ∧
      (address limit text = .error .tooLarge ↔ Overflows base largest64 (unsigned rest)) ∧
      (address limit text = .error (.outOfRange text) ↔
        ∃ v, unsigned rest ≠ [] ∧ Denotes base (unsigned rest) v ∧ v ≤ largest64 ∧ limit < v) ∧
      (∀ fault, address limit text = .error fault →
        fault ∈ [.empty, .invalidDigit, .tooLarge, .outOfRange text]) ∧
      (Fault.outOfRange text).message = text ++ " is out of range") ∧
    ∀ v zeros, v ≤ largest64 → v ≤ limit →
      let lead := String.ofList (List.replicate zeros '0')
      address limit (lead ++ toString v) = .ok v ∧
        address limit ("0x" ++ lead ++ String.ofList (Nat.toDigits 16 v)) = .ok v := by
  constructor
  · intro text
    have hbase := marked_base_le text.toList
    have hok := address_eq_ok_iff limit text
    have hfault := address_eq_error_iff limit text
    simp only [natural_eq_error_iff hbase, natural_eq_ok_iff hbase] at hok hfault
    generalize marked text.toList = parts at hbase hok hfault
    obtain ⟨base, rest⟩ := parts
    dsimp only at hbase hok hfault ⊢
    have hminus : rest = ['-'] → StopsAtOther base largest64 (unsigned rest) := by
      rintro rfl
      exact stopsAtOther_minus hbase
    refine ⟨?_, ?_, ?_, ?_, ?_, ?_, rfl⟩
    · intro v
      rw [hok, and_assoc, and_assoc]
    · simp [hfault]
    · simp only [hfault, reduceCtorEq, false_and, true_and, or_false, false_or]
      constructor
      · exact Or.imp_right Or.inr
      · exact Or.imp_right (Or.rec hminus id)
    · simp [hfault]
    · simp [hfault, and_assoc]
    · intro fault
      rw [hfault]
      simp only [List.mem_cons, List.not_mem_nil, or_false]
      tauto
  · intro v zeros hword hlimit
    exact address_numeral hword hlimit zeros

end Numeral
end Text
end BadgeLink
