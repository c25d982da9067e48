import FilterQuery.Decode.Cardinality
import FilterQuery.Filter.Basic
import FilterQuery.Json.Reader

/-!
Reading a filter from its stored form.

A filter is an object whose member `kind` says which other members matter, or an array of the kind
and the fields in their order. The kind is looked at as soon as it is met; the other members are
read to the end first and then taken field by field.
-/
namespace FilterQuery.Decode

def fieldNames : Kind → List String
  | .equality => ["attribute", "value", "alias", "multi_valued"]
  | .greaterOrEqual => ["attribute", "value", "alias", "multi_valued"]
  | .lessOrEqual => ["attribute", "value", "alias", "multi_valued"]
  | .approximateMatch => ["attribute", "value", "alias", "multi_valued"]
  | .substring => ["attribute", "initial", "any", "final", "alias", "multi_valued"]
  | .presence => ["attribute", "alias", "multi_valued"]
  | .lowercase => ["attribute"]
  | .raw => ["filter"]
  | .and => ["filters"]
  | .or => ["filters"]
  | .not => ["filter"]

def stringOf : Json → Except Mismatch String
  | .string s => .ok s
  | other => .error (.invalidType (.ofJson other) .string)

def stringsOf : Json → Except Mismatch (List String)
  | .array items => items.mapM stringOf
  | other => .error (.invalidType (.ofJson other) .sequence)

def optionalStringOf : Json → Except Mismatch (Option String)
  | .null => .ok none
  | other => (stringOf other).map some

/-- An integer becomes the narrowest value that holds it. -/
def assertionValueOf : Json → Except Mismatch AssertionValue
  | .bool b => .ok (.bool b)
  | .string s => .ok (.string s)
  | .number (.int i) =>
    if Number.inHalfRange i then .ok (.int (Int32.ofInt i))
    else if Number.inSignedRange i then .ok (.long (Int64.ofInt i))
    else .error .noAssertionValue
  | _ => .error .noAssertionValue

/-- A value as every field would read it: as it is, as a filter and as a list of filters. -/
structure Reading where
  value : Json
  filter : Except Mismatch Filter
  filters : Except Mismatch (List Filter)

def Reading.aliasFilter (r : Reading) : Except Mismatch (Option Filter) :=
  match r.value with
  | .null => .ok none
  | _ => r.filter.map some

structure Fields where
  name : Option String := none
  value : Option AssertionValue := none
  initial : Option (Option String) := none
  any : Option (List String) := none
  final : Option (Option String) := none
  aliasFilter : Option (Option Filter) := none
  marker : Option Cardinality := none
  text : Option String := none
  operands : Option (List Filter) := none
  operand : Option Filter := none

/-- A field is read once; the second time is an error whatever the value. -/
def fill {α : Type} (name : String) (slot : Option α) (value : Except Mismatch α) :
    Except Mismatch (Option α) :=
  match slot with
  | some _ => .error (.duplicateField name)
  | none => value.map some

/-- Takes one field. Names that the kind does not know are passed over. -/
def takeField (kind : Kind) (fields : Fields) (name : String) (r : Reading) :
    Except Mismatch Fields :=
  if (fieldNames kind).contains name then
    match name with
    | "attribute" => do
      let attributeName ← fill name fields.name (stringOf r.value)
      return { fields with name := attributeName }
    | "value" => do
      let value ← fill name fields.value (assertionValueOf r.value)
      return { fields with value }
    | "initial" => do
      let initial ← fill name fields.initial (optionalStringOf r.value)
      return { fields with initial }
    | "any" => do
      let any ← fill name fields.any (stringsOf r.value)
      return { fields with any }
    | "final" => do
      let final ← fill name fields.final (optionalStringOf r.value)
      return { fields with final }
    | "alias" => do
      let aliasFilter ← fill name fields.aliasFilter r.aliasFilter
      return { fields with aliasFilter }
    | "multi_valued" => do
      let marker ← fill name fields.marker (cardinalityOfContent r.value)
      return { fields with marker }
    | "filters" => do
      let operands ← fill name fields.operands r.filters
      return { fields with operands }
    | _ =>
      if kind = .raw then do
        let text ← fill name fields.text (stringOf r.value)
        return { fields with text }
      else do
        let operand ← fill name fields.operand r.filter
        return { fields with operand }
  else .ok fields

def takeFields (kind : Kind) (fields : Fields) : List (String × Reading) → Except Mismatch Fields
  | [] => .ok fields
  | (name, r) :: rest => do
    let fields ← takeField kind fields name r
    takeFields kind fields rest

/-- The filter of the fields; `missing` says what is wrong when a field that has no default is not
there. -/
def assemble (kind : Kind) (fields : Fields) (missing : String → Mismatch) :
    Except Mismatch Filter :=
  let need {α : Type} (name : String) (slot : Option α) : Except Mismatch α :=
    match slot with
    | some a => .ok a
    | none => .error (missing name)
  let leaf (test : Test) : Filter :=
    .leaf (fields.name.getD "") test (fields.aliasFilter.getD none) (fields.marker.getD .unknown)
  let compare (op : Comparison) : Except Mismatch Filter :=
    (need "value" fields.value).map fun value => leaf (.compare op value)
  match kind with
  | .equality => compare .equality
  | .greaterOrEqual => compare .atLeast
  | .lessOrEqual => compare .atMost
  | .approximateMatch => compare .approximate
  | .substring =>
    .ok (leaf (.substring
      ⟨fields.initial.getD none, fields.any.getD [], fields.final.getD none⟩))
  | .presence => .ok (leaf .presence)
  | .lowercase => (need "attribute" fields.name).map .lowercase
  | .raw => (need "filter" fields.text).map .raw
  | .and => (need "filters" fields.operands).map .and
  | .or => (need "filters" fields.operands).map .or
  | .not => (need "filter" fields.operand).map .not

def fieldOwner : Kind → String
  | .lowercase => "struct Lowercase"
  | .raw => "struct variant Filter::Raw"
  | .and => "struct variant Filter::And"
  | .or => "struct variant Filter::Or"
  | .not => "struct variant Filter::Not"
  | .substring => "struct SubstringAssertion"
  | .presence => "struct Presence"
  | _ => "struct Assertion"

def kindOf : Json → Except Mismatch Kind
  | .string tag =>
    match Kind.ofTag? tag with
    | some kind => .ok kind
    | none => .error (.unknownVariant tag (Kind.all.map (·.tag)))
  | other => .error (.invalidType (.ofJson other) .variantIdentifier)

/-- Inside another filter the number of a kind may stand for its tag. -/
def innerKindOf : Json → Except Mismatch Kind
  | .number n@(.int i) =>
    if i < 0 then .error (.invalidType (.number n) .variantIdentifier)
    else
      match Kind.all[i.toNat]? with
      | some kind => .ok kind
      | none => .error (.invalidValue (.number n) (.variantIndex Kind.all.length))
  | other => kindOf other

def splitKind (kindOf : Json → Except Mismatch Kind) :
    Option Kind → List (String × Reading) → Except Mismatch (Kind × List (String × Reading))
  | some kind, [] => .ok (kind, [])
  | none, [] => .error (.missingField "kind")
  | seen, (name, r) :: rest =>
    if name = "kind" then
      match seen with
      | some _ => .error (.duplicateField "kind")
      | none => do
        let kind ← kindOf r.value
        splitKind kindOf (some kind) rest
    else do
      let (kind, others) ← splitKind kindOf seen rest
      return (kind, (name, r) :: others)

def filterOfMembers (kindOf : Json → Except Mismatch Kind) (members : List (String × Reading)) :
    Except Mismatch Filter := do
  let (kind, members) ← splitKind kindOf none members
  let fields ← takeFields kind {} members
  assemble kind fields .missingField

/-- The fields of an array in their order. One more element than fields is an error of its own. -/
def filterOfItems (kindOf : Json → Except Mismatch Kind) :
    List Reading → Except Mismatch Filter
  | [] => .error (.missingField "kind")
  | tag :: items => do
    let kind ← kindOf tag.value
    let names := fieldNames kind
    let fields ← takeFields kind {} (names.zip items)
    let filter ← assemble kind fields fun name =>
      .invalidLength (names.idxOf name) (.fields (fieldOwner kind) names.length)
    if names.length < items.length then
      .error (.invalidLength items.length (.elements names.length))
    else .ok filter

mutual
/-- Every part of a value is read once, the innermost first. -/
def reading : Json → Reading
  | .array items =>
    let readings := readingItems items
    ⟨.array items, filterOfItems innerKindOf readings, readings.mapM (·.filter)⟩
  | .object members =>
    ⟨.object members, filterOfMembers innerKindOf (readingMembers members),
      .error (.invalidType .map .sequence)⟩
  | .null => ⟨.null, .error (.invalidType .null .filter), .error (.invalidType .null .sequence)⟩
  | .bool b =>
    ⟨.bool b, .error (.invalidType (.bool b) .filter), .error (.invalidType (.bool b) .sequence)⟩
  | .number n =>
    ⟨.number n, .error (.invalidType (.number n) .filter),
      .error (.invalidType (.number n) .sequence)⟩
  | .string s =>
    ⟨.string s, .error (.invalidType (.string s) .filter),
      .error (.invalidType (.string s) .sequence)⟩

def readingItems : List Json → List Reading
  | [] => []
  | item :: rest => reading item :: readingItems rest

def readingMembers : List (String × Json) → List (String × Reading)
  | [] => []
  | (name, value) :: rest => (name, reading value) :: readingMembers rest
end

def filterOfJson : Json → Except Mismatch Filter
  | .array items => filterOfItems kindOf (readingItems items)
  | .object members => filterOfMembers kindOf (readingMembers members)
  | other => .error (.invalidType (.ofJson other) .filter)

/-- The kind in a draft. An array or object there is refused before it is read. -/
def kindValue (levels : Nat) (d : Draft) : Except ReadError Json := do
  let _ ← ofFault (Found.ofDraft d) >>= fun found =>
    match found with
    | .sequence => wrongType (α := Unit) d .variantIdentifier
    | .map => wrongType (α := Unit) d .variantIdentifier
    | _ => .ok ()
  let value ← ofFault (d.value levels)
  let _ ← ofMismatch (kindOf value)
  return value

def checkedMembers (levels : Nat) (seen : Bool) :
    List (Key × Draft) → Except ReadError (List (String × Json))
  | [] => .ok []
  | (.flawed flaw, _) :: _ => .error (.fault flaw.reading)
  | (.name name, draft) :: rest =>
    if name = "kind" then
      if seen then .error (.mismatch (.duplicateField name))
      else do
        let value ← kindValue levels draft
        let rest ← checkedMembers levels true rest
        return (name, value) :: rest
    else do
      let value ← ofFault (draft.value levels)
      let rest ← checkedMembers levels seen rest
      return (name, value) :: rest

def filterOfDraft (levels : Nat) : Draft → Except ReadError Filter
  | .object members stop => do
    let members ← checkedMembers levels false members
    let value ← ofFault (Draft.close (Json.object members) stop)
    ofMismatch (filterOfJson value)
  | .array [] stop => do
    let value ← ofFault (Draft.close (Json.array []) stop)
    ofMismatch (filterOfJson value)
  | .array (tag :: items) stop => do
    let tag ← kindValue levels tag
    let items ← ofFault (Draft.values levels items)
    let value ← ofFault (Draft.close (Json.array (tag :: items)) stop)
    ofMismatch (filterOfJson value)
  | other => wrongType other .filter

def assertionValueOfText (s : String) : Except ReadError AssertionValue := do
  let (draft, rest) := Json.readDraft s.toList
  let json ← ofFault (draft.value Json.textLevels)
  let value ← ofMismatch (assertionValueOf json)
  ofFault (Json.endFault rest)
  return value

def filterOfText (s : String) : Except ReadError Filter := do
  let (draft, rest) := Json.readDraft s.toList
  let filter ← filterOfDraft (Json.textLevels - 1) draft
  ofFault (Json.endFault rest)
  return filter

end FilterQuery.Decode
