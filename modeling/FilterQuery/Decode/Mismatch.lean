import FilterQuery.Double.Shortest
import FilterQuery.Json.Draft
import FilterQuery.Text.Quoted

/-!
Why a well-formed JSON value is not what its reader expects, and the wording of each reason.
-/
namespace FilterQuery.Decode

inductive Found where
  | null
  | bool (value : Bool)
  | number (value : Number)
  | string (text : String)
  | sequence
  | map
deriving DecidableEq, Repr, Inhabited

def Found.ofJson : Json → Found
  | .null => .null
  | .bool b => .bool b
  | .number n => .number n
  | .string s => .string s
  | .array _ => .sequence
  | .object _ => .map

/-- The kind of value that a draft begins, known without reading on when a bracket opens. -/
def Found.ofDraft : Draft → Except Fault Found
  | .null => .ok .null
  | .bool b => .ok (.bool b)
  | .number n => .ok (.number n)
  | .string s => .ok (.string s)
  | .flawed _ flaw => .error flaw.reading
  | .array _ _ => .ok .sequence
  | .object _ _ => .ok .map

def Found.text : Found → String
  | .null => "null"
  | .bool true => "boolean `true`"
  | .bool false => "boolean `false`"
  | .number (.int i) => "integer `" ++ toString i ++ "`"
  | .number (.float d) => "floating point `" ++ d.text ++ "`"
  | .string s => "string " ++ Text.quoted s
  | .sequence => "sequence"
  | .map => "map"

inductive Expected where
  | filter
  | variantIdentifier
  | variantIndex (count : Nat)
  | string
  | boolean
  | sequence
  | map
  | unit
  | stringOrMap
  | singleKeyMap
  | schemaConfig
  | attributeMetadata
  | fields (owner : String) (count : Nat)
  | elements (count : Nat)
  | fewerElements
deriving DecidableEq, Repr, Inhabited

def elementCount (n : Nat) : String :=
  toString n ++ if n = 1 then " element" else " elements"

def Expected.text : Expected → String
  | .filter => "internally tagged enum Filter"
  | .variantIdentifier => "variant identifier"
  | .variantIndex count => "variant index 0 <= i < " ++ toString count
  | .string => "a string"
  | .boolean => "a boolean"
  | .sequence => "a sequence"
  | .map => "a map"
  | .unit => "unit"
  | .stringOrMap => "string or map"
  | .singleKeyMap => "map with a single key"
  | .schemaConfig => "struct SchemaConfig"
  | .attributeMetadata => "struct AttributeMetadata"
  | .fields owner count => owner ++ " with " ++ elementCount count
  | .elements count => elementCount count ++ " in sequence"
  | .fewerElements => "fewer elements in array"

inductive Mismatch where
  | missingField (name : String)
  | duplicateField (name : String)
  | unknownVariant (name : String) (known : List String)
  | invalidType (found : Found) (expected : Expected)
  | invalidValue (found : Found) (expected : Expected)
  | invalidLength (length : Nat) (expected : Expected)
  | noAssertionValue
deriving DecidableEq, Repr, Inhabited

def ticked (s : String) : String := "`" ++ s ++ "`"

def Mismatch.message : Mismatch → String
  | .missingField name => "missing field " ++ ticked name
  | .duplicateField name => "duplicate field " ++ ticked name
  | .unknownVariant name known =>
    "unknown variant " ++ ticked name ++ ", expected one of " ++
      String.intercalate ", " (known.map ticked)
  | .invalidType found expected =>
    "invalid type: " ++ found.text ++ ", expected " ++ expected.text
  | .invalidValue found expected =>
    "invalid value: " ++ found.text ++ ", expected " ++ expected.text
  | .invalidLength length expected =>
    "invalid length " ++ toString length ++ ", expected " ++ expected.text
  | .noAssertionValue => "data did not match any variant of untagged enum AssertionValue"

inductive ReadError where
  | fault (fault : Fault)
  | mismatch (mismatch : Mismatch)
deriving DecidableEq, Repr, Inhabited

def ofFault {α : Type} : Except Fault α → Except ReadError α
  | .ok a => .ok a
  | .error fault => .error (.fault fault)

def ofMismatch {α : Type} : Except Mismatch α → Except ReadError α
  | .ok a => .ok a
  | .error mismatch => .error (.mismatch mismatch)

def wrongType {α : Type} (d : Draft) (expected : Expected) : Except ReadError α :=
  match Found.ofDraft d with
  | .ok found => .error (.mismatch (.invalidType found expected))
  | .error fault => .error (.fault fault)

end FilterQuery.Decode
