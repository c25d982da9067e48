import FilterQuery.Decode.Cardinality
import FilterQuery.Json.Reader
import FilterQuery.Schema.Basic

/-!
Reading a schema description.

Its records are objects, or arrays of their fields in order with any tail missing. Each value is
read in its place, so the first mistake met is the one reported. Members that a record does not know
are skipped without a look at their shape.
-/
namespace FilterQuery.Decode

/-- A record under construction: how to take the field of a name or a position. -/
structure RecordReader (α : Type) where
  expected : Expected
  fields : List (String × (α → Draft → Except ReadError α))

namespace RecordReader

variable {α : Type}

/-- A known member may stand only once. -/
def members (reader : RecordReader α) (seen : List String) (record : α) :
    List (Key × Draft) → Except ReadError α
  | [] => .ok record
  | (.flawed flaw, _) :: _ => .error (.fault flaw.reading)
  | (.name name, draft) :: rest =>
    match reader.fields.lookup name with
    | none => do
      ofFault draft.skip
      members reader seen record rest
    | some take =>
      if seen.contains name then .error (.mismatch (.duplicateField name))
      else do
        let record ← take record draft
        members reader (name :: seen) record rest

def items (fields : List (String × (α → Draft → Except ReadError α))) (record : α) :
    List Draft → Except ReadError (α × List Draft)
  | [] => .ok (record, [])
  | item :: rest =>
    match fields with
    | [] => .ok (record, item :: rest)
    | (_, take) :: fields => do
      let record ← take record item
      items fields record rest

/-- An array with more items than fields is malformed as a text and too long as a value. -/
def read (reader : RecordReader α) (form : Form) (start : α) : Draft → Except ReadError α
  | .object members stop => do
    let record ← reader.members [] start members
    ofFault (Draft.close record stop)
  | .array drafts stop => do
    let (record, beyond) ← items reader.fields start drafts
    if beyond.isEmpty then ofFault (Draft.close record stop)
    else
      match form with
      | .text => .error (.fault .malformed)
      | .value => .error (.mismatch (.invalidLength drafts.length .fewerElements))
  | other => wrongType other reader.expected

end RecordReader

def stringOfDraft : Draft → Except ReadError String
  | .string s => .ok s
  | other => wrongType other .string

def boolOfDraft : Draft → Except ReadError Bool
  | .bool b => .ok b
  | other => wrongType other .boolean

def entriesOf {α : Type} (read : Draft → Except ReadError α) :
    List (Key × Draft) → Except ReadError (List (String × α))
  | [] => .ok []
  | (.flawed flaw, _) :: _ => .error (.fault flaw.reading)
  | (.name name, draft) :: rest => do
    let value ← read draft
    let rest ← entriesOf read rest
    return (name, value) :: rest

def mapOfDraft {α : Type} (read : Draft → Except ReadError α) :
    Draft → Except ReadError (Named α)
  | .object members stop => do
    let entries ← entriesOf read members
    ofFault (Draft.close (Named.ofEntries entries) stop)
  | other => wrongType other .map

def metadataReader (form : Form) : RecordReader AttributeMetadata where
  expected := .attributeMetadata
  fields := [
    ("cardinality", fun m d => return { m with cardinality := ← cardinalityOfDraft form d }),
    ("consistency", fun m d => return { m with consistency := ← boolOfDraft d })]

def metadataOfDraft (form : Form) (d : Draft) : Except ReadError AttributeMetadata :=
  (metadataReader form).read form {} d

def schemaReader (form : Form) : RecordReader SchemaConfig where
  expected := .schemaConfig
  fields := [
    ("attributes", fun c d =>
      return { c with attributes := ← mapOfDraft (metadataOfDraft form) d }),
    ("internal_names", fun c d => return { c with internalNames := ← mapOfDraft stringOfDraft d })]

def schemaOfDraft (form : Form) (d : Draft) : Except ReadError SchemaConfig :=
  (schemaReader form).read form {} d

def schemaOfJson (j : Json) : Except ReadError SchemaConfig :=
  schemaOfDraft .value (Draft.ofValue j)

def schemaOfText (s : String) : Except ReadError SchemaConfig := do
  let (draft, rest) := Json.readDraft s.toList
  let config ← schemaOfDraft .text draft
  ofFault (Json.endFault rest)
  return config

end FilterQuery.Decode
