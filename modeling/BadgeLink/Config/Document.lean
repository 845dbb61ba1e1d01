import BadgeLink.Config
import BadgeLink.Yaml.Node
import BadgeLink.Yaml.Value

/-!
# Configuration documents

A configuration is written as a YAML mapping from field names to values.  Its entries are decoded in the
order of the document, and the first one that is wrong decides the fault; only when all of them are
right are the values looked at together.  A field that has no entry keeps its default.  A text that uses
what `Yaml.Layout` leaves out of YAML is malformed.
-/

namespace BadgeLink
namespace Config

inductive Field
  | port
  | timeout
  | resetInterval
  deriving Repr, DecidableEq

namespace Field

/-- All fields, in the order in which messages list them. -/
def all : List Field :=
  [port, timeout, resetInterval]

def key : Field → String
  | port => "port"
  | timeout => "timeout_ms"
  | resetInterval => "reset_interval_ms"

def ofKey? (text : String) : Option Field :=
  all.find? fun field => field.key == text

def typeName : Field → String
  | port => "a string"
  | timeout | resetInterval => "u64"

/-- A key names the field it belongs to. -/
theorem ofKey?_key (field : Field) : ofKey? field.key = some field := by
  cases field <;> decide

end Field

/-- What stands in a document where something else is wanted. -/
inductive Found
  | scalar (value : Yaml.Value)
  | sequence
  | mapping
  deriving Repr, DecidableEq

namespace Found

def ofNode : Yaml.Node → Found
  | .scalar _ plain text => scalar (.ofScalar plain text)
  | .sequence .. => sequence
  | .mapping .. => mapping

/-- What was found, in the words of a message. -/
def described : Found → String
  | scalar value => value.described
  | sequence => "sequence"
  | mapping => "map"

end Found

/-- Why a document is no configuration. -/
inductive Fault
  | malformed
  | root (found : Found) (place : Yaml.Mark)
  | key (found : Found) (place : Yaml.Mark)
  | unknown (name : String) (place : Yaml.Mark)
  | duplicate (field : Field) (place : Yaml.Mark)
  | value (field : Field) (found : Found) (place : Yaml.Mark)
  | zeroTimeout
  deriving Repr, DecidableEq

/-- Where something stands, counted from one; the start of the text is not worth telling. -/
def located (place : Yaml.Mark) : String :=
  if place.line = 0 ∧ place.column = 0 then ""
  else s!" at line {place.line + 1} column {place.column + 1}"

def Fault.message : Fault → String
  | malformed => "YAML syntax error"
  | root found place =>
    s!"invalid type: {found.described}, expected struct BadgeConfig{located place}"
  | key found place =>
    s!"invalid type: {found.described}, expected field identifier{located place}"
  | unknown name place =>
    let keys := ", ".intercalate (Field.all.map fun field => s!"`{field.key}`")
    s!"unknown field `{name}`, expected one of {keys}{located place}"
  | duplicate field place => s!"duplicate field `{field.key}`{located place}"
  | value field found place =>
    s!"{field.key}: invalid type: {found.described}, expected {field.typeName}{located place}"
  | zeroTimeout => "timeout_ms must be greater than 0"

/-- The fields that have been decoded so far. -/
structure Entries where
  port : Option (Option String) := none
  timeout : Option Nat := none
  resetInterval : Option Nat := none
  deriving Repr, DecidableEq, Inhabited

namespace Entries

def has (e : Entries) : Field → Bool
  | .port => e.port.isSome
  | .timeout => e.timeout.isSome
  | .resetInterval => e.resetInterval.isSome

def toConfig (e : Entries) : Config :=
  { port := e.port.getD Config.default.port
    timeout := e.timeout.getD Config.default.timeout
    resetInterval := e.resetInterval.getD Config.default.resetInterval }

end Entries

/-- Decodes a port: any scalar as it is written, and none for a plain null. -/
def decodePort (node : Yaml.Node) : Except Fault (Option String) :=
  match node with
  | .scalar _ plain text =>
    if plain && (text.isEmpty || Yaml.isNull text) then .ok none else .ok (some text)
  | _ => .error (.value .port (.ofNode node) node.mark)

/-- Decodes a number of milliseconds: a natural number of 64 bits. -/
def decodeTime (field : Field) (node : Yaml.Node) : Except Fault Nat :=
  match Found.ofNode node with
  | .scalar (.natural value) => .ok value
  | found => .error (.value field found node.mark)

def decodeField (e : Entries) (field : Field) (node : Yaml.Node) : Except Fault Entries :=
  match field with
  | .port => (decodePort node).map fun port => { e with port := some port }
  | .timeout => (decodeTime field node).map fun time => { e with timeout := some time }
  | .resetInterval => (decodeTime field node).map fun time => { e with resetInterval := some time }

/-- Decodes one entry of the mapping at `root`. -/
def decodeEntry (root : Yaml.Mark) (e : Entries) (entry : Yaml.Node × Yaml.Node) :
    Except Fault Entries :=
  match entry.1 with
  | .scalar place _ text =>
    match Field.ofKey? text with
    | none => .error (.unknown text place)
    | some field =>
      if e.has field then .error (.duplicate field root) else decodeField e field entry.2
  | node => .error (.key (.ofNode node) node.mark)

/-- Looks at the values of a configuration together. -/
def validate (config : Config) : Except Fault Config :=
  if config.timeout = 0 then .error .zeroTimeout else .ok config

/-- Decodes a document.  An empty document configures nothing. -/
def ofNode (node : Yaml.Node) : Except Fault Config :=
  match node with
  | .mapping place entries => do
    let decoded ← entries.foldlM (decodeEntry place) {}
    validate decoded.toConfig
  | .scalar _ true "" => .ok default
  | _ => .error (.root (.ofNode node) node.mark)

/-- Reads a configuration from the text of a document. -/
def ofYaml (text : String) : Except Fault Config :=
  match Yaml.Node.ofString? text with
  | none => .error .malformed
  | some node => ofNode node

end Config
end BadgeLink
