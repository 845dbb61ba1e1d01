import BadgeLink.Proofs.Session.Configuration
import BadgeLink.Proofs.Text.Numeral

/-!
# What configuration documents say

The entries of a document are looked at in their order, each together with those in front of it, and the
first one that is wrong decides the fault.  What a document says is read off its entries without their
order: where none of them is wrong, each names another field and gives its setting.  So neither whether
a document is accepted nor the configuration that it stands for depends on the order.  All this is said
of any mapping, so it does not depend on how much of YAML is read from texts.
-/

namespace BadgeLink

/-! ## Scalars -/

namespace Yaml

/-- Whether a scalar is plain, and its text, without the place where it stands. -/
def Node.scalar? : Node → Option (Bool × String)
  | .scalar _ plain text => some (plain, text)
  | _ => none

namespace Value

variable {plain : Bool} {text : String} {v : Nat} {value : Value}

/-- A value is not null, and if it is a natural number it fits 64 bits. -/
def IsSized (value : Value) : Prop :=
  value ≠ .null ∧ ∀ v, value = .natural v → v < 2 ^ 64

theorem natural?_le {limit : Nat} {text : List Char} (h : natural? limit text = some v) :
    v ≤ limit := by
  have hbased {base : Nat} {digits : List Char} (hbase : base ≤ 16)
      (h : (if startsWithSign digits then none
        else (Text.Numeral.natural base limit digits).toOption) = some v) : v ≤ limit := by
    split at h
    · cases h
    · exact ((Text.Numeral.natural_eq_ok_iff hbase).mp (Except.toOption_eq_some_iff.mp h)).2.2
  unfold natural? at h
  dsimp only at h
  split at h
  · exact hbased (by decide) h
  · exact hbased (by decide) h
  · exact hbased (by decide) h
  · split at h
    · cases h
    · exact hbased (by decide) h

theorem isSized_of_whole? {text : List Char} (h : whole? text = some value) : value.IsSized := by
  rcases Option.or_eq_some_iff.mp h with h | ⟨-, h⟩
  · obtain ⟨v, hv, rfl⟩ := Option.map_eq_some_iff.mp h
    refine ⟨nofun, ?_⟩
    rintro _ ⟨⟩
    exact Nat.lt_of_le_pred (by decide) (natural?_le hv)
  · rcases Option.or_eq_some_iff.mp h with h | ⟨-, h⟩
    · obtain ⟨_, -, rfl⟩ := Option.map_eq_some_iff.mp h
      exact ⟨nofun, nofun⟩
    · rcases Option.or_eq_some_iff.mp h with h | ⟨-, h⟩
      · obtain ⟨_, -, rfl⟩ := Option.map_eq_some_iff.mp h
        exact ⟨nofun, nofun⟩
      · obtain ⟨_, -, rfl⟩ := Option.map_eq_some_iff.mp h
        exact ⟨nofun, nofun⟩

theorem isSized_of_fraction? (h : fraction? text = some value) : value.IsSized := by
  unfold fraction? finite? at h
  dsimp only at h
  split at h
  · cases h
  · split at h
    · cases h
      exact ⟨nofun, nofun⟩
    · split at h
      · cases h
        exact ⟨nofun, nofun⟩
      · split at h
        · cases h
          exact ⟨nofun, nofun⟩
        · obtain ⟨_, -, h⟩ := Option.bind_eq_some_iff.mp h
          obtain ⟨_, -, h⟩ := Option.bind_eq_some_iff.mp h
          cases h
          exact ⟨nofun, nofun⟩

/-- Only a plain scalar that is empty or spells it is null. -/
theorem ofScalar_cases (plain : Bool) (text : String) :
    ((plain && (text.isEmpty || isNull text)) = true ∧ ofScalar plain text = .null) ∨
      ((plain && (text.isEmpty || isNull text)) = false ∧ (ofScalar plain text).IsSized) := by
  cases plain with
  | false => exact Or.inr ⟨rfl, nofun, nofun⟩
  | true =>
      rw [Bool.true_and, ofScalar, if_neg (by decide)]
      cases text.isEmpty || isNull text with
      | true => exact Or.inl ⟨rfl, rfl⟩
      | false =>
          refine Or.inr ⟨rfl, ?_⟩
          rw [if_neg (by decide)]
          cases hread : ((boolean? text).map boolean).or ((whole? text.toList).or (fraction? text)) with
          | none => exact ⟨nofun, nofun⟩
          | some value =>
              rcases Option.or_eq_some_iff.mp hread with h | ⟨-, h⟩
              · obtain ⟨_, -, rfl⟩ := Option.map_eq_some_iff.mp h
                exact ⟨nofun, nofun⟩
              · rcases Option.or_eq_some_iff.mp h with h | ⟨-, h⟩
                · exact isSized_of_whole? h
                · exact isSized_of_fraction? h

end Value
end Yaml

namespace Config

open Yaml (Mark Node Value)

/-! ## Settings -/

/-- The value of a field. -/
inductive Setting
  | port (name : Option String)
  | time (milliseconds : Nat)

def setting (config : Config) : Field → Setting
  | .port => .port config.port
  | .timeout => .time config.timeout
  | .resetInterval => .time config.resetInterval

theorem setting_ext
    {config config' : Config} (h : ∀ field, config.setting field = config'.setting field) :
    config = config' := by
  obtain ⟨port, timeout, resetInterval⟩ := config
  obtain ⟨port', timeout', resetInterval'⟩ := config'
  have hport : port = port' := Setting.port.inj (h .port)
  have htimeout : timeout = timeout' := Setting.time.inj (h .timeout)
  have hresetInterval : resetInterval = resetInterval' := Setting.time.inj (h .resetInterval)
  rw [hport, htimeout, hresetInterval]

/-- A scalar spells a setting of a field.  A port may be any scalar and is none if it is null; a time is a
natural number of 64 bits. -/
inductive Spells : Field → Bool × String → Setting → Prop
  | noPort {scalar : Bool × String} (h : Value.ofScalar scalar.1 scalar.2 = .null) :
    Spells .port scalar (.port none)
  | port {scalar : Bool × String} (h : Value.ofScalar scalar.1 scalar.2 ≠ .null) :
    Spells .port scalar (.port (some scalar.2))
  | time {field : Field} {scalar : Bool × String} {v : Nat} (hfield : field ≠ .port)
    (h : Value.ofScalar scalar.1 scalar.2 = .natural v) (hv : v < 2 ^ 64) :
    Spells field scalar (.time v)

/-- An entry without the places where it stands: its key and its value, where these are scalars. -/
structure Line where
  key : Option (Bool × String)
  value : Option (Bool × String)

variable {field field' : Field} {scalar : Bool × String} {value value' : Setting} {line : Line}
  {earlier lines lines' : List Line} {root : Mark} {entry : Node × Node} {node : Node}
  {entries : List (Node × Node)} {fault : Fault} {config config' : Config} {e e' : Entries}

theorem Spells.unique (h : Spells field scalar value) (h' : Spells field scalar value') :
    value = value' := by
  cases h with
  | noPort hnull =>
      cases h' with
      | noPort => rfl
      | port hother => exact absurd hnull hother
      | time hfield => exact absurd rfl hfield
  | port hother =>
      cases h' with
      | noPort hnull => exact absurd hnull hother
      | port => rfl
      | time hfield => exact absurd rfl hfield
  | time hfield hv =>
      cases h' with
      | noPort => exact absurd rfl hfield
      | port => exact absurd rfl hfield
      | time hfield' hv' =>
          rw [hv] at hv'
          rw [Value.natural.inj hv']

namespace Line

def ofEntry (entry : Node × Node) : Line :=
  ⟨entry.1.scalar?, entry.2.scalar?⟩

/-- An entry has the key of a field. -/
def Names (line : Line) (field : Field) : Prop :=
  ∃ plain, line.key = some (plain, field.key)

/-- An entry gives a setting to a field. -/
def Gives (line : Line) (field : Field) (value : Setting) : Prop :=
  line.Names field ∧ ∃ scalar, line.value = some scalar ∧ Spells field scalar value

theorem Names.unique (h : line.Names field) (h' : line.Names field') : field = field' := by
  obtain ⟨plain, hkey⟩ := h
  obtain ⟨plain', hkey'⟩ := h'
  rw [hkey] at hkey'
  have hsame := congrArg Field.ofKey? (Prod.mk.inj (Option.some.inj hkey')).2
  rw [Field.ofKey?_key, Field.ofKey?_key] at hsame
  exact Option.some.inj hsame

theorem Gives.unique (h : line.Gives field value) (h' : line.Gives field value') :
    value = value' := by
  obtain ⟨-, scalar, hvalue, hspells⟩ := h
  obtain ⟨-, scalar', hvalue', hspells'⟩ := h'
  rw [hvalue] at hvalue'
  obtain rfl := Option.some.inj hvalue'
  exact hspells.unique hspells'

end Line

/-- Entries say that a configuration has the settings that they give, and the default where none is. -/
structure Describes (lines : List Line) (config : Config) : Prop where
  given : ∀ line ∈ lines, ∀ field, line.Names field → line.Gives field (config.setting field)
  absent : ∀ field, (∀ line ∈ lines, ¬line.Names field) →
    config.setting field = Config.default.setting field

/-- Entries describe one configuration. -/
theorem Describes.unique (h : Describes lines config) (h' : Describes lines config') :
    config = config' := by
  apply setting_ext
  intro field
  by_cases hnamed : ∃ line ∈ lines, line.Names field
  · obtain ⟨line, hline, hnames⟩ := hnamed
    exact (h.given line hline field hnames).unique (h'.given line hline field hnames)
  · have hnone (line : Line) (hline : line ∈ lines) : ¬line.Names field :=
      fun hnames => hnamed ⟨line, hline, hnames⟩
    rw [h.absent field hnone, h'.absent field hnone]

/-! ## Wrong entries -/

/-- An entry is wrong behind other entries: its key is not a scalar, names no field or a field that has
been seen, or the value is not of the type of the field. -/
inductive Wrong (root : Mark) (earlier : List Line) (entry : Node × Node) : Fault → Prop
  | key (hkey : entry.1.scalar? = none) : Wrong root earlier entry (.key (.ofNode entry.1) entry.1.mark)
  | unknown {plain : Bool} {text : String} (hkey : entry.1.scalar? = some (plain, text))
    (hfields : ∀ field : Field, field.key ≠ text) :
    Wrong root earlier entry (.unknown text entry.1.mark)
  | duplicate {field : Field} (hnames : (Line.ofEntry entry).Names field)
    (hseen : ∃ line ∈ earlier, line.Names field) : Wrong root earlier entry (.duplicate field root)
  | value {field : Field} (hnames : (Line.ofEntry entry).Names field)
    (hnew : ∀ line ∈ earlier, ¬line.Names field)
    (hvalue : ∀ value, ¬(Line.ofEntry entry).Gives field value) :
    Wrong root earlier entry (.value field (.ofNode entry.2) entry.2.mark)

/-- Every entry is right behind those in front of it. -/
inductive Sound (root : Mark) : List (Node × Node) → Prop
  | nil : Sound root []
  | snoc {before : List (Node × Node)} {entry : Node × Node} (hbefore : Sound root before)
    (hentry : ∀ fault, ¬Wrong root (before.map .ofEntry) entry fault) :
    Sound root (before ++ [entry])

/-- The first entry that is wrong is wrong with this fault. -/
def FirstWrong (root : Mark) (entries : List (Node × Node)) (fault : Fault) : Prop :=
  ∃ before entry after, entries = before ++ entry :: after ∧ Sound root before ∧
    Wrong root (before.map .ofEntry) entry fault

/-- An entry that is right gives a setting to a field that has not been seen. -/
theorem wrong_or_gives (root : Mark) (earlier : List Line) (entry : Node × Node) :
    (∃ fault, Wrong root earlier entry fault) ∨
      ∃ field value, (Line.ofEntry entry).Gives field value ∧ ∀ line ∈ earlier, ¬line.Names field := by
  cases hkey : entry.1.scalar? with
  | none => exact Or.inl ⟨_, .key hkey⟩
  | some scalar =>
      obtain ⟨plain, text⟩ := scalar
      by_cases hfields : ∀ field : Field, field.key ≠ text
      · exact Or.inl ⟨_, .unknown hkey hfields⟩
      · obtain ⟨field, hfield⟩ := not_forall_not.mp hfields
        have hnames : (Line.ofEntry entry).Names field := ⟨plain, by rw [hfield]; exact hkey⟩
        by_cases hseen : ∃ line ∈ earlier, line.Names field
        · exact Or.inl ⟨_, .duplicate hnames hseen⟩
        · have hnew (line : Line) (hline : line ∈ earlier) : ¬line.Names field :=
            fun hnamed => hseen ⟨line, hline, hnamed⟩
          by_cases hvalue : ∃ value, (Line.ofEntry entry).Gives field value
          · obtain ⟨value, hgives⟩ := hvalue
            exact Or.inr ⟨field, value, hgives, hnew⟩
          · exact Or.inl ⟨_, .value hnames hnew (not_exists.mp hvalue)⟩

theorem not_wrong_of_gives
    (hgives : (Line.ofEntry entry).Gives field value) (hnew : ∀ line ∈ earlier, ¬line.Names field) :
    ¬Wrong root earlier entry fault := by
  obtain ⟨plain, hkey⟩ := hgives.1
  intro hwrong
  cases hwrong with
  | key hnone => cases hnone.symm.trans hkey
  | unknown htext hfields =>
      have hsame := Option.some.inj (htext.symm.trans hkey)
      exact hfields field (Prod.mk.inj hsame).2.symm
  | duplicate hnames hseen =>
      obtain ⟨line, hline, hnamed⟩ := hseen
      obtain rfl := hnames.unique hgives.1
      exact hnew line hline hnamed
  | value hnames hnew hvalue =>
      obtain rfl := hnames.unique hgives.1
      exact hvalue value hgives

theorem sound_or_firstWrong (root : Mark) (entries : List (Node × Node)) :
    Sound root entries ∨ ∃ fault, FirstWrong root entries fault := by
  induction entries using List.reverseRecOn with
  | nil => exact Or.inl .nil
  | append_singleton entries entry ih =>
      rcases ih with hsound | ⟨fault, before, other, after, rfl, hbefore, hwrong⟩
      · by_cases hentry : ∃ fault, Wrong root (entries.map .ofEntry) entry fault
        · obtain ⟨fault, hwrong⟩ := hentry
          exact Or.inr ⟨fault, entries, entry, [], rfl, hsound, hwrong⟩
        · exact Or.inl (.snoc hsound (not_exists.mp hentry))
      · refine Or.inr ⟨fault, before, other, after ++ [entry], ?_, hbefore, hwrong⟩
        rw [List.append_assoc, List.cons_append]

/-! ## Entries without their order -/

/-- Entries are right in any order: each gives a setting, and no two name one field. -/
structure Proper (lines : List Line) : Prop where
  gives : ∀ line ∈ lines, ∃ field value, line.Gives field value
  once : lines.Pairwise fun line line' => ∀ field, line.Names field → ¬line'.Names field

theorem sound_iff : Sound root entries ↔ Proper (entries.map .ofEntry) := by
  constructor
  · intro h
    induction h with
    | nil => exact ⟨nofun, .nil⟩
    | @snoc before entry hbefore hentry ih =>
        rw [List.map_append, List.map_singleton]
        rcases wrong_or_gives root (before.map .ofEntry) entry with
          ⟨fault, hwrong⟩ | ⟨field, value, hgives, hnew⟩
        · exact absurd hwrong (hentry fault)
        · refine ⟨?_, List.pairwise_append.mpr ⟨ih.once, List.pairwise_singleton _ _, ?_⟩⟩
          · intro line hline
            rcases List.mem_append.mp hline with hline | hline
            · exact ih.gives line hline
            · rw [List.mem_singleton.mp hline]
              exact ⟨field, value, hgives⟩
          · intro line hline last hlast other hother hlastOther
            rw [List.mem_singleton.mp hlast] at hlastOther
            obtain rfl := hlastOther.unique hgives.1
            exact hnew line hline hother
  · intro h
    induction entries using List.reverseRecOn with
    | nil => exact .nil
    | append_singleton entries entry ih =>
        rw [List.map_append, List.map_singleton] at h
        obtain ⟨honce, -, hacross⟩ := List.pairwise_append.mp h.once
        have hlast := List.mem_singleton_self (Line.ofEntry entry)
        obtain ⟨field, value, hgives⟩ := h.gives _ (List.mem_append_right _ hlast)
        refine .snoc (ih ⟨fun line hline => h.gives line (List.mem_append_left _ hline), honce⟩) ?_
        intro fault
        apply not_wrong_of_gives hgives
        intro line hline hnames
        exact hacross line hline _ hlast field hnames hgives.1

/-- Entries of which one is wrong are not all right. -/
theorem FirstWrong.not_sound (h : FirstWrong root entries fault) : ¬Sound root entries := by
  obtain ⟨before, entry, after, rfl, -, hwrong⟩ := h
  rw [sound_iff, List.map_append, List.map_cons]
  rintro ⟨hgives, honce⟩
  obtain ⟨field, value, hentry⟩ := hgives (.ofEntry entry) (by simp)
  refine not_wrong_of_gives hentry ?_ hwrong
  intro line hline hnames
  exact (List.pairwise_append.mp honce).2.2 line hline _ List.mem_cons_self field hnames hentry.1

theorem Proper.perm (hperm : lines.Perm lines') (h : Proper lines) : Proper lines' := by
  refine ⟨fun line hline => h.gives line (hperm.mem_iff.mpr hline), ?_⟩
  apply (hperm.pairwise_iff _).mp h.once
  intro line line' hother field hnames' hnames
  exact hother field hnames hnames'

theorem Describes.perm (hperm : lines.Perm lines') (h : Describes lines config) :
    Describes lines' config := by
  constructor
  · intro line hline
    exact h.given line (hperm.mem_iff.mpr hline)
  · intro field hnone
    exact h.absent field fun line hline => hnone line (hperm.mem_iff.mp hline)

/-! ## Decoding -/

/-- Entries that have been decoded are changed in one field. -/
structure Entries.Sets (e : Entries) (field : Field) (value : Setting) (e' : Entries) : Prop where
  has_iff : ∀ other, e'.has other ↔ other = field ∨ e.has other
  setting_eq : e'.toConfig.setting field = value
  rest : ∀ other ≠ field, e'.toConfig.setting other = e.toConfig.setting other

theorem decodePort_of_spells
    (hnode : node.scalar? = some scalar) (h : Spells .port scalar value) :
    ∃ port, decodePort node = .ok port ∧ value = .port port := by
  cases node with
  | scalar mark plain text =>
      obtain rfl := Option.some.inj hnode
      rw [decodePort]
      rcases Value.ofScalar_cases plain text with ⟨hnull, hvalue⟩ | ⟨hother, hvalue, -⟩
      · rw [if_pos hnull]
        exact ⟨none, rfl, h.unique (.noPort hvalue)⟩
      · rw [if_neg (ne_true_of_eq_false hother)]
        exact ⟨some text, rfl, h.unique (.port hvalue)⟩
  | sequence mark items => cases hnode
  | mapping mark entries => cases hnode

theorem decodeTime_of_spells
    (hfield : field ≠ .port) (hnode : node.scalar? = some scalar) (h : Spells field scalar value) :
    ∃ v, decodeTime field node = .ok v ∧ value = .time v := by
  cases node with
  | scalar mark plain text =>
      obtain rfl := Option.some.inj hnode
      cases h with
      | noPort => exact absurd rfl hfield
      | port => exact absurd rfl hfield
      | time _ hvalue =>
          refine ⟨_, ?_, rfl⟩
          rw [decodeTime, Found.ofNode, hvalue]
  | sequence mark items => cases hnode
  | mapping mark entries => cases hnode

theorem decodeField_of_spells
    (hnode : node.scalar? = some scalar) (h : Spells field scalar value) (e : Entries) :
    ∃ e', decodeField e field node = .ok e' ∧ e.Sets field value e' := by
  cases field with
  | port =>
      obtain ⟨port, hread, rfl⟩ := decodePort_of_spells hnode h
      refine ⟨{ e with port := some port }, by rw [decodeField, hread]; rfl, ?_, rfl, ?_⟩
      · intro other
        cases other <;> simp [Entries.has]
      · intro other hother
        cases other with
        | port => exact absurd rfl hother
        | timeout => rfl
        | resetInterval => rfl
  | timeout =>
      obtain ⟨v, hread, rfl⟩ := decodeTime_of_spells (by decide) hnode h
      refine ⟨{ e with timeout := some v }, by rw [decodeField, hread]; rfl, ?_, rfl, ?_⟩
      · intro other
        cases other <;> simp [Entries.has]
      · intro other hother
        cases other with
        | port => rfl
        | timeout => exact absurd rfl hother
        | resetInterval => rfl
  | resetInterval =>
      obtain ⟨v, hread, rfl⟩ := decodeTime_of_spells (by decide) hnode h
      refine ⟨{ e with resetInterval := some v }, by rw [decodeField, hread]; rfl, ?_, rfl, ?_⟩
      · intro other
        cases other <;> simp [Entries.has]
      · intro other hother
        cases other with
        | port => rfl
        | timeout => rfl
        | resetInterval => exact absurd rfl hother

theorem decodeTime_of_not_spells
    (hfield : field ≠ .port)
    (h : ∀ scalar value, node.scalar? = some scalar → ¬Spells field scalar value) :
    decodeTime field node = .error (.value field (.ofNode node) node.mark) := by
  cases node with
  | scalar mark plain text =>
      have hother (v : Nat) : Value.ofScalar plain text ≠ .natural v := by
        intro hvalue
        rcases Value.ofScalar_cases plain text with ⟨-, hnull⟩ | ⟨-, -, hsized⟩
        · cases hnull.symm.trans hvalue
        · exact h (plain, text) (.time v) rfl (.time hfield hvalue (hsized v hvalue))
      rw [decodeTime, Found.ofNode]
      split
      · next v hvalue => exact absurd (Found.scalar.inj hvalue) (hother v)
      · rfl
  | sequence mark items => rfl
  | mapping mark entries => rfl

theorem decodeField_of_not_spells
    (h : ∀ scalar value, node.scalar? = some scalar → ¬Spells field scalar value) (e : Entries) :
    decodeField e field node = .error (.value field (.ofNode node) node.mark) := by
  cases field with
  | port =>
      cases node with
      | scalar mark plain text =>
          by_cases hnull : Value.ofScalar plain text = .null
          · exact absurd (.noPort hnull) (h (plain, text) (.port none) rfl)
          · exact absurd (.port hnull) (h (plain, text) (.port (some text)) rfl)
      | sequence mark items => rfl
      | mapping mark entries => rfl
  | timeout => rw [decodeField, decodeTime_of_not_spells (by decide) h, Except.error_map]
  | resetInterval => rw [decodeField, decodeTime_of_not_spells (by decide) h, Except.error_map]

/-- What has been decoded of a document: the fields that its entries name, with what they say of them. -/
structure Holds (lines : List Line) (e : Entries) : Prop where
  has_iff : ∀ field, e.has field ↔ ∃ line ∈ lines, line.Names field
  describes : Describes lines e.toConfig

theorem holds_nil : Holds [] {} := by
  constructor
  · intro field
    cases field <;> simp [Entries.has]
  · constructor
    · nofun
    · intro field _
      cases field <;> rfl

/-- One more entry sets its field and leaves the others as they are. -/
theorem Holds.snoc
    (h : Holds lines e) (hgives : line.Gives field value) (hnew : ∀ line ∈ lines, ¬line.Names field)
    (hsets : e.Sets field value e') : Holds (lines ++ [line]) e' := by
  constructor
  · intro other
    rw [hsets.has_iff, h.has_iff]
    constructor
    · rintro (rfl | ⟨earlier, hearlier, hnames⟩)
      · exact ⟨line, by simp, hgives.1⟩
      · exact ⟨earlier, List.mem_append_left _ hearlier, hnames⟩
    · rintro ⟨earlier, hearlier, hnames⟩
      rcases List.mem_append.mp hearlier with hearlier | hlast
      · exact Or.inr ⟨earlier, hearlier, hnames⟩
      · rw [List.mem_singleton.mp hlast] at hnames
        exact Or.inl (hnames.unique hgives.1)
  · constructor
    · intro earlier hearlier other hnames
      rcases List.mem_append.mp hearlier with hearlier | hlast
      · have hother : other ≠ field := by
          rintro rfl
          exact hnew earlier hearlier hnames
        rw [hsets.rest other hother]
        exact h.describes.given earlier hearlier other hnames
      · rw [List.mem_singleton.mp hlast] at hnames ⊢
        obtain rfl := hnames.unique hgives.1
        rwa [hsets.setting_eq]
    · intro other hnone
      have hother : other ≠ field := by
        rintro rfl
        exact hnone line (by simp) hgives.1
      rw [hsets.rest other hother]
      exact h.describes.absent other fun earlier hearlier => hnone earlier (by simp [hearlier])

/-- The key of an entry is found, so that its field is looked at. -/
theorem decodeEntry_of_names (hnames : (Line.ofEntry entry).Names field) (root : Mark) (e : Entries) :
    decodeEntry root e entry =
      if e.has field then .error (.duplicate field root) else decodeField e field entry.2 := by
  obtain ⟨plain, hkey⟩ := hnames
  obtain ⟨key, node⟩ := entry
  cases key with
  | scalar mark plain' text =>
      obtain ⟨rfl, rfl⟩ := Prod.mk.inj (Option.some.inj hkey)
      rw [decodeEntry]
      dsimp only
      rw [Field.ofKey?_key]
  | sequence mark items => cases hkey
  | mapping mark entries => cases hkey

theorem decodeEntry_of_gives
    (h : Holds lines e) (hgives : (Line.ofEntry entry).Gives field value)
    (hnew : ∀ line ∈ lines, ¬line.Names field) (root : Mark) :
    ∃ e', decodeEntry root e entry = .ok e' ∧ Holds (lines ++ [.ofEntry entry]) e' := by
  obtain ⟨scalar, hnode, hspells⟩ := hgives.2
  have hfree : ¬e.has field := by
    rw [h.has_iff]
    rintro ⟨line, hline, hnames⟩
    exact hnew line hline hnames
  obtain ⟨e', hread, hsets⟩ := decodeField_of_spells hnode hspells e
  refine ⟨e', ?_, h.snoc hgives hnew hsets⟩
  rw [decodeEntry_of_names hgives.1, if_neg hfree, hread]

theorem decodeEntry_of_wrong (h : Holds lines e) (hwrong : Wrong root lines entry fault) :
    decodeEntry root e entry = .error fault := by
  cases hwrong with
  | key hkey =>
      obtain ⟨key, node⟩ := entry
      cases key with
      | scalar mark plain text => cases hkey
      | sequence mark items => rfl
      | mapping mark entries => rfl
  | @unknown plain text hkey hfields =>
      obtain ⟨key, node⟩ := entry
      cases key with
      | scalar mark plain' text' =>
          obtain ⟨rfl, rfl⟩ := Prod.mk.inj (Option.some.inj hkey)
          have hnone : Field.ofKey? text' = none := by
            apply List.find?_eq_none.mpr
            intro field _ heq
            exact hfields field (beq_iff_eq.mp heq)
          rw [decodeEntry]
          dsimp only
          rw [hnone]
          rfl
      | sequence mark items => cases hkey
      | mapping mark entries => cases hkey
  | @duplicate field hnames hseen =>
      rw [decodeEntry_of_names hnames, if_pos ((h.has_iff field).mpr hseen)]
  | @value field hnames hnew hvalue =>
      have hfree : ¬e.has field := by
        rw [h.has_iff]
        rintro ⟨line, hline, hnames⟩
        exact hnew line hline hnames
      rw [decodeEntry_of_names hnames, if_neg hfree]
      apply decodeField_of_not_spells
      intro scalar value hnode hspells
      exact hvalue value ⟨hnames, scalar, hnode, hspells⟩

/-- Entries that are right are decoded to what they say. -/
theorem foldlM_of_sound (h : Sound root entries) :
    ∃ e, entries.foldlM (decodeEntry root) {} = .ok e ∧ Holds (entries.map .ofEntry) e := by
  induction h with
  | nil => exact ⟨{}, rfl, holds_nil⟩
  | @snoc before entry hbefore hentry ih =>
      obtain ⟨e, hread, hholds⟩ := ih
      rcases wrong_or_gives root (before.map .ofEntry) entry with
        ⟨fault, hwrong⟩ | ⟨field, value, hgives, hnew⟩
      · exact absurd hwrong (hentry fault)
      · obtain ⟨e', hentry, hholds'⟩ := decodeEntry_of_gives hholds hgives hnew root
        refine ⟨e', ?_, by rwa [List.map_append, List.map_singleton]⟩
        rw [List.foldlM_append, hread, Except.ok_bind, List.foldlM_cons, hentry]
        rfl

theorem ofNode_of_firstWrong (h : FirstWrong root entries fault) :
    ofNode (.mapping root entries) = .error fault := by
  obtain ⟨before, entry, after, rfl, hbefore, hwrong⟩ := h
  obtain ⟨e, hread, hholds⟩ := foldlM_of_sound hbefore
  rw [ofNode, List.foldlM_append, hread, Except.ok_bind, List.foldlM_cons,
    decodeEntry_of_wrong hholds hwrong, Except.error_bind, Except.error_bind]

theorem ofNode_of_sound (h : Sound root entries) :
    ∃ config, Describes (entries.map .ofEntry) config ∧
      ofNode (.mapping root entries) =
        if config.timeout = 0 then .error .zeroTimeout else .ok config := by
  obtain ⟨e, hread, hholds⟩ := foldlM_of_sound h
  refine ⟨e.toConfig, hholds.describes, ?_⟩
  rw [ofNode, hread, Except.ok_bind, validate]

/-- Which configuration a mapping stands for does not depend on the order of its entries. -/
theorem ofNode_eq_ok_iff :
    ofNode (.mapping root entries) = .ok config ↔
      Proper (entries.map .ofEntry) ∧ Describes (entries.map .ofEntry) config ∧
        config.timeout ≠ 0 := by
  rcases sound_or_firstWrong root entries with hsound | ⟨fault, hfirst⟩
  · obtain ⟨described, hdescribes, hread⟩ := ofNode_of_sound hsound
    rw [hread, Except.ite_error_eq_ok_iff, Except.ok.injEq, and_iff_right (sound_iff.mp hsound)]
    constructor
    · rintro ⟨htimeout, rfl⟩
      exact ⟨hdescribes, htimeout⟩
    · rintro ⟨hdescribes', htimeout⟩
      obtain rfl := hdescribes.unique hdescribes'
      exact ⟨htimeout, rfl⟩
  · rw [ofNode_of_firstWrong hfirst]
    apply iff_of_false nofun
    rintro ⟨hproper, -⟩
    exact hfirst.not_sound (sound_iff.mpr hproper)

/-! ## Documents -/

theorem ofYaml_of_node {text : String} (hdoc : Node.ofString? text = some node) :
    ofYaml text = ofNode node := by
  rw [ofYaml, hdoc]

/-- A configuration waits for responses, whatever it was read from. -/
theorem timeout_pos_of_ofYaml {text : String} (h : ofYaml text = .ok config) : 0 < config.timeout := by
  rw [ofYaml_eq] at h
  obtain ⟨e, -, hvalid⟩ := Except.bind_eq_ok_iff.mp h
  obtain ⟨htimeout, hconfig⟩ := Except.ite_error_eq_ok_iff.mp hvalid
  cases hconfig
  exact Nat.pos_of_ne_zero htimeout

theorem timeout_pos_of_load
    {σ : Type} {place : Workplace (StateM σ)} {path : String} {s s' : σ}
    (h : (Config.load place path).run s = (.ok config, s')) : 0 < config.timeout := by
  obtain ⟨e, -, hvalid⟩ := Session.load_eq_ok h
  obtain ⟨htimeout, hconfig⟩ := Except.ite_error_eq_ok_iff.mp hvalid
  cases hconfig
  exact Nat.pos_of_ne_zero htimeout

/-- A document that is a mapping is refused for its first wrong entry.  Where no entry is wrong, it stands
for the settings that it gives and the defaults of the other fields, and is refused only for a timeout of
zero.  Documents with the same entries in another order stand for the same configuration, and no
configuration that is read or loaded has a timeout of zero. -/
theorem ofYaml_in_order :
    (∀ text node, Node.ofString? text = some node → ofYaml text = ofNode node) ∧
    (∀ root entries fault, FirstWrong root entries fault →
      ofNode (.mapping root entries) = .error fault) ∧
    (∀ root entries, (∀ fault, ¬FirstWrong root entries fault) →
      ∃ config, Describes (entries.map .ofEntry) config ∧
        ofNode (.mapping root entries) =
          if config.timeout = 0 then .error .zeroTimeout else .ok config) ∧
    (∀ root root' entries entries', (entries.map Line.ofEntry).Perm (entries'.map Line.ofEntry) →
      ∀ config, ofNode (.mapping root entries) = .ok config ↔
        ofNode (.mapping root' entries') = .ok config) ∧
    (∀ text config, ofYaml text = .ok config → 0 < config.timeout) ∧
    ∀ (σ : Type) (place : Workplace (StateM σ)) path s config s',
      (Config.load place path).run s = (.ok config, s') → 0 < config.timeout := by
  refine ⟨?_, ?_, ?_, ?_, ?_, ?_⟩
  · intro text node
    exact ofYaml_of_node
  · intro root entries fault
    exact ofNode_of_firstWrong
  · intro root entries hnone
    rcases sound_or_firstWrong root entries with hsound | ⟨fault, hfirst⟩
    · exact ofNode_of_sound hsound
    · exact absurd hfirst (hnone fault)
  · intro root root' entries entries' hperm config
    rw [ofNode_eq_ok_iff, ofNode_eq_ok_iff]
    constructor
    · rintro ⟨hproper, hdescribes, htimeout⟩
      exact ⟨hproper.perm hperm, hdescribes.perm hperm, htimeout⟩
    · rintro ⟨hproper, hdescribes, htimeout⟩
      exact ⟨hproper.perm hperm.symm, hdescribes.perm hperm.symm, htimeout⟩
  · intro text config
    exact timeout_pos_of_ofYaml
  · intro σ place path s config s'
    exact timeout_pos_of_load

/-- A field that comes again is refused for that, also if its value is wrong as well. -/
theorem ofYaml_in_order_repeated :
    ofYaml "timeout_ms: 5\ntimeout_ms: x\n" = .error (.duplicate .timeout {}) := by
  have htokens : (Yaml.Source.ofString? "timeout_ms: 5\ntimeout_ms: x\n" >>= Yaml.Layout.tokens?) =
      some [⟨.openBlockMapping, {}⟩, ⟨.key, {}⟩, ⟨.scalar true "timeout_ms", {}⟩,
        ⟨.value, ⟨10, 0, 10⟩⟩, ⟨.scalar true "5", ⟨12, 0, 12⟩⟩, ⟨.key, ⟨14, 1, 0⟩⟩,
        ⟨.scalar true "timeout_ms", ⟨14, 1, 0⟩⟩, ⟨.value, ⟨24, 1, 10⟩⟩,
        ⟨.scalar true "x", ⟨26, 1, 12⟩⟩, ⟨.closeBlock, ⟨28, 2, 0⟩⟩] := by
    decide +kernel
  have hdoc : Node.ofString? "timeout_ms: 5\ntimeout_ms: x\n" =
      some (.mapping {} [(.scalar {} true "timeout_ms", .scalar ⟨12, 0, 12⟩ true "5"),
        (.scalar ⟨14, 1, 0⟩ true "timeout_ms", .scalar ⟨26, 1, 12⟩ true "x")]) := by
    rw [Node.ofString?, ← bind_assoc, htokens]
    simp [Node.ofTokens?, Node.readRoot, Node.read, Node.readFields, Node.readUnless,
      Node.readValue, Node.closeBlock, Node.leavesOutField]
  have hfirst : Sound {} [(Node.scalar {} true "timeout_ms", Node.scalar ⟨12, 0, 12⟩ true "5")] := by
    have hspells : Spells .timeout (true, "5") (.time 5) := .time (by decide) rfl (by decide)
    apply Sound.snoc .nil
    intro fault
    apply not_wrong_of_gives ⟨⟨true, rfl⟩, _, rfl, hspells⟩
    simp
  obtain ⟨hread, hrefused, -⟩ := ofYaml_in_order
  rw [hread _ _ hdoc]
  apply hrefused
  exact ⟨[_], _, [], rfl, hfirst, .duplicate ⟨true, rfl⟩ ⟨_, List.mem_singleton_self _, true, rfl⟩⟩

end Config
end BadgeLink
