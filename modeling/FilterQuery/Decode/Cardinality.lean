import FilterQuery.Cardinality
import FilterQuery.Decode.Mismatch

/-!
Reading a cardinality: its name, or an object with the name as its only key and nothing as value.
-/
namespace FilterQuery.Decode

inductive Form where
  | text
  | value
deriving DecidableEq, Repr, Inhabited

def cardinalityNamed (name : String) : Except Mismatch Cardinality :=
  match Cardinality.ofName? name with
  | some c => .ok c
  | none => .error (.unknownVariant name (Cardinality.all.map (·.name)))

/-- A cardinality inside a filter. The value beside the name may also be an empty object. -/
def cardinalityOfContent : Json → Except Mismatch Cardinality
  | .string name => cardinalityNamed name
  | .object [(name, value)] => do
    let c ← cardinalityNamed name
    match value with
    | .null => .ok c
    | .object [] => .ok c
    | other => .error (.invalidType (.ofJson other) .unit)
  | .object _ => .error (.invalidValue .map .singleKeyMap)
  | other => .error (.invalidType (.ofJson other) .stringOrMap)

def unitOfDraft : Draft → Except ReadError Unit
  | .null => .ok ()
  | other => wrongType other .unit

/-- A cardinality that stands by itself. A text goes wrong where its characters do: anything but a
string or an object is malformed, and so is whatever follows the first member. -/
def cardinalityOfDraft (form : Form) : Draft → Except ReadError Cardinality
  | .string name => ofMismatch (cardinalityNamed name)
  | .object [] stop =>
    match form with
    | .text => .error (.fault (stop.getD .malformed))
    | .value => .error (.mismatch (.invalidValue .map .singleKeyMap))
  | .object ((.flawed flaw, _) :: _) _ => .error (.fault flaw.reading)
  | .object ((.name name, value) :: rest) stop =>
    match form with
    | .text => do
      let c ← ofMismatch (cardinalityNamed name)
      unitOfDraft value
      if rest.isEmpty then ofFault (Draft.close c stop) else .error (.fault .malformed)
    | .value =>
      if rest.isEmpty then do
        let c ← ofMismatch (cardinalityNamed name)
        unitOfDraft value
        return c
      else .error (.mismatch (.invalidValue .map .singleKeyMap))
  | .flawed .other _ => .error (.fault .malformed)
  | .flawed _ flaw => .error (.fault flaw.reading)
  | other =>
    match form with
    | .text => .error (.fault .malformed)
    | .value => wrongType other .stringOrMap

def cardinalityOfJson (j : Json) : Except ReadError Cardinality :=
  cardinalityOfDraft .value (Draft.ofValue j)

end FilterQuery.Decode
