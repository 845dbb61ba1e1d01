import BadgeLink.Log
import BadgeLink.Proofs.Text.Hex

/-!
# Lines of the log

Three kinds of records show bytes of the wire, and they can be told from all others by their lines: what
was sent and what was received by the arrow in front of the bytes, and a read that missed the
acknowledgement by its level.
-/

namespace BadgeLink

namespace Text

/-- Bytes are shown in one way only. -/
theorem Hex.encode_inj {bytes bytes' : List UInt8} (heq : encode bytes = encode bytes') :
    bytes = bytes' := by
  have hdigits : digits bytes = digits bytes' := String.ofList_injective heq
  have hspells (bytes : List UInt8) : Spells (digits bytes) bytes :=
    spells_iff.mpr (List.forall₂_same.mpr fun _ _ => Or.inl rfl)
  have hsame := hspells bytes
  rw [hdigits] at hsame
  exact hsame.bytes_eq (hspells bytes')

theorem head?_append {text rest : String} {c : Char} (hc : text.toList.head? = some c) :
    (text ++ rest).toList.head? = some c := by
  rw [String.toList_append, List.head?_append, hc]
  rfl

end Text

namespace Record

open Text

variable {record : Record} {bytes : List UInt8}

/-! ## Records that show bytes -/

def sent? : Record → Option (List UInt8)
  | sent bytes => some bytes
  | _ => none

def received? : Record → Option (List UInt8)
  | received bytes => some bytes
  | _ => none

/-- What a read found instead of the acknowledgement, and which attempt it was. -/
def missed? : Record → Option (List UInt8 × Nat)
  | missedAck attempt got _ => some (got, attempt)
  | _ => none

/-- The bytes that a record shows as taken from the link. -/
def shown : Record → List UInt8
  | received bytes => bytes
  | missedAck _ got _ => got
  | _ => []

/-- A record that shows no bytes of the wire. -/
def IsRemark (record : Record) : Prop :=
  record.sent? = none ∧ record.received? = none ∧ record.missed? = none

/-- If no acknowledgement was missed, the bytes shown are those of the responses. -/
theorem shown_of_none_missed
    {told : List Record} (hmissed : told.filterMap missed? = []) :
    told.flatMap shown = (told.filterMap received?).flatten := by
  induction told with
  | nil => rfl
  | cons record told ih =>
      obtain ⟨hfirst, hrest⟩ := List.forall_mem_cons.mp (List.filterMap_eq_nil_iff.mp hmissed)
      rw [List.flatMap_cons, ih (List.filterMap_eq_nil_iff.mpr hrest)]
      cases record with
      | received bytes => rfl
      | missedAck attempt got expected => cases hfirst
      | _ => rfl

/-! ## Their lines -/

/-- The character that a text of the log starts with. -/
def initial : Record → Char
  | sent _ => '='
  | received _ => '<'
  | reported _ => 'd'
  | readLength .. => 'i'
  | missedAck .. => 'r'
  | gaveUp _ | noPorts => 'N'
  | ready => 'B'
  | opening .. => 'O'
  | closing _ => 'C'
  | loaded .. => 'L'

theorem head?_text (record : Record) : record.text.toList.head? = some record.initial := by
  cases record with
  | sent bytes => exact head?_append (by decide : "=> ".toList.head? = some '=')
  | received bytes => exact head?_append (by decide : "<= ".toList.head? = some '<')
  | reported response =>
      exact head?_append (by decide : "device reported ".toList.head? = some 'd')
  | readLength requested device got =>
      have hfront : "i2c_read: requested ".toList.head? = some 'i' := by decide
      exact head?_append (head?_append (head?_append (head?_append (head?_append hfront))))
  | missedAck attempt got expected =>
      have hfront : "reset attempt ".toList.head? = some 'r' := by decide
      exact head?_append
        (head?_append (head?_append (head?_append (head?_append (head?_append hfront)))))
  | gaveUp attempts =>
      exact head?_append (head?_append (by decide : "No response after ".toList.head? = some 'N'))
  | ready => decide
  | opening port baud =>
      have hfront : "Opening serial port: \"".toList.head? = some 'O' := by decide
      exact head?_append (head?_append hfront)
  | closing port =>
      have hfront : "Closing serial port: \"".toList.head? = some 'C' := by decide
      exact head?_append (head?_append hfront)
  | noPorts => decide
  | loaded path config =>
      have hfront : "Loaded config from ".toList.head? = some 'L' := by decide
      exact head?_append (head?_append (head?_append hfront))

theorem initial_eq_sent (h : record.initial = '=') : ∃ bytes, record = .sent bytes := by
  cases record with
  | sent bytes => exact ⟨bytes, rfl⟩
  | _ => cases h

theorem initial_eq_received (h : record.initial = '<') : ∃ bytes, record = .received bytes := by
  cases record with
  | received bytes => exact ⟨bytes, rfl⟩
  | _ => cases h

theorem head?_line (record : Record) :
    record.line.toList.head? = record.level.name.toList.head? := by
  obtain ⟨c, hc⟩ : ∃ c, record.level.name.toList.head? = some c := by
    cases record.level <;> exact ⟨_, rfl⟩
  rw [hc]
  exact head?_append (head?_append hc)

theorem head?_name_eq_debug {level : Level} (h : level.name.toList.head? = some 'D') :
    level = .debug := by
  revert h
  cases level <;> decide

/-- The level can be read off the front of a line, and the text off what is behind it. -/
theorem text_eq_of_line {record' : Record} (hdebug : record'.level = .debug)
    (hline : record.line = record'.line) :
    record.text = record'.text ∧ record.initial = record'.initial := by
  have hlevel : record.level = .debug := by
    apply head?_name_eq_debug
    rw [← head?_line, hline, head?_line, hdebug]
    decide
  rw [line, line, hlevel, hdebug] at hline
  have htext := (String.append_right_inj _).mp hline
  have hinitial := record.head?_text
  rw [htext, head?_text] at hinitial
  exact ⟨htext, (Option.some.inj hinitial).symm⟩

theorem line_sent (bytes : List UInt8) : (sent bytes).line = "DEBUG => " ++ Hex.encode bytes := by
  have hfront : "DEBUG" ++ " " ++ "=> " = "DEBUG => " := by decide
  rw [← hfront, String.append_assoc]
  rfl

theorem line_received (bytes : List UInt8) :
    (received bytes).line = "DEBUG <= " ++ Hex.encode bytes := by
  have hfront : "DEBUG" ++ " " ++ "<= " = "DEBUG <= " := by decide
  rw [← hfront, String.append_assoc]
  rfl

/-- A line with the arrow of what is sent, and with bytes behind it, is about these bytes. -/
theorem sent?_eq_some_iff :
    record.sent? = some bytes ↔ record.line = "DEBUG => " ++ Hex.encode bytes := by
  rw [← line_sent]
  constructor
  · intro hsent
    cases record with
    | sent bytes' => rw [Option.some.inj hsent]
    | _ => cases hsent
  · intro hline
    obtain ⟨htext, hinitial⟩ := text_eq_of_line rfl hline
    obtain ⟨bytes', rfl⟩ := initial_eq_sent hinitial
    rw [Hex.encode_inj ((String.append_right_inj _).mp htext), sent?]

theorem received?_eq_some_iff :
    record.received? = some bytes ↔ record.line = "DEBUG <= " ++ Hex.encode bytes := by
  rw [← line_received]
  constructor
  · intro hreceived
    cases record with
    | received bytes' => rw [Option.some.inj hreceived]
    | _ => cases hreceived
  · intro hline
    obtain ⟨htext, hinitial⟩ := text_eq_of_line rfl hline
    obtain ⟨bytes', rfl⟩ := initial_eq_received hinitial
    rw [Hex.encode_inj ((String.append_right_inj _).mp htext), received?]

/-- Only reads that missed the acknowledgement are told at the level of a trace. -/
theorem missed?_isSome_iff : record.missed?.isSome ↔ record.level = .trace := by
  cases record <;> simp [missed?, level]

/-- The line of such a read has its number and its bytes. -/
theorem line_of_missed?
    {attempt : Nat} (hmissed : record.missed? = some (bytes, attempt)) :
    ∃ expected, record.line = "TRACE " ++
      s!"reset attempt {attempt} got [{Hex.encode bytes}], expected [{Hex.encode expected}]" := by
  cases record with
  | missedAck attempt got expected =>
      cases hmissed
      have hfront : "TRACE" ++ " " = "TRACE " := by decide
      rw [← hfront]
      exact ⟨expected, rfl⟩
  | _ => cases hmissed

end Record
end BadgeLink
