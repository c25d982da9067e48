import FilterQuery.Directory.Basic
import FilterQuery.Json.Basic

/-!
The stored form of directory queries: an object whose one member names the kind of node.
-/
namespace FilterQuery

def Comparison.tag : Comparison → String
  | .equality => "Equality"
  | .atLeast => "GreaterOrEqual"
  | .atMost => "LessOrEqual"
  | .approximate => "Approximate"

def Comparison.ofTag? (s : String) : Option Comparison :=
  [Comparison.equality, .atLeast, .atMost, .approximate].find? (·.tag = s)

def Junction.tag : Junction → String
  | .and => "And"
  | .or => "Or"

def Junction.ofTag? (s : String) : Option Junction :=
  [Junction.and, .or].find? (·.tag = s)

namespace DirectoryQuery

def storedOption : Option String → Json
  | some s => .string s
  | none => .null

mutual
def stored : DirectoryQuery → Json
  | .compare op name value =>
    .object [(op.tag, .object [("attribute", .string name), ("value", .string value)])]
  | .presence name => .object [("Presence", .object [("attribute", .string name)])]
  | .substring name components =>
    .object [("Substring", .object [("attribute", .string name),
      ("initial", storedOption components.initial), ("any", .array (components.any.map .string)),
      ("final_", storedOption components.final)])]
  | .junction op operands => .object [(op.tag, .array (allStored operands))]
  | .not operand => .object [("Not", operand.stored)]

def allStored : List DirectoryQuery → List Json
  | [] => []
  | operand :: rest => operand.stored :: allStored rest
end

/-- Nothing and an absent member both stand for an absent string. -/
def optionOfStored? : Option Json → Option (Option String)
  | none => some none
  | some .null => some none
  | some (.string s) => some (some s)
  | some _ => none

def ofStoredWithin? : Nat → Json → Option DirectoryQuery
  | 0, _ => none
  | levels + 1, j =>
    match j with
    | .object [("Not", operand)] => (ofStoredWithin? levels operand).map .not
    | .object [("Presence", body)] => do
      let name ← (body.field? "attribute").bind Json.string?
      return .presence name
    | .object [("Substring", body)] => do
      let name ← (body.field? "attribute").bind Json.string?
      let initial ← optionOfStored? (body.field? "initial")
      let .array any ← body.field? "any" | none
      let any ← any.mapM Json.string?
      let final ← optionOfStored? (body.field? "final_")
      return .substring name ⟨initial, any, final⟩
    | .object [(tag, .array operands)] => do
      let op ← Junction.ofTag? tag
      let operands ← operands.mapM (ofStoredWithin? levels)
      return .junction op operands
    | .object [(tag, body)] => do
      let op ← Comparison.ofTag? tag
      let name ← (body.field? "attribute").bind Json.string?
      let value ← (body.field? "value").bind Json.string?
      return .compare op name value
    | _ => none

def ofStored? (j : Json) : Option DirectoryQuery := ofStoredWithin? j.depth j

end DirectoryQuery

end FilterQuery
