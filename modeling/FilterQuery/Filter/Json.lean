import FilterQuery.Filter.Basic
import FilterQuery.Json.Text

/-!
The stored form of a filter: its kind first, then its fields in order. Absent parts are left out.
-/
namespace FilterQuery

def AssertionValue.toJson : AssertionValue → Json
  | .bool b => .bool b
  | .int n => .int n.toInt
  | .long n => .int n.toInt
  | .string text => .string text

/-- A member that is left out when there is no value. -/
def optionalMember (name : String) (value : Option Json) : List (String × Json) :=
  match value with
  | some value => [(name, value)]
  | none => []

def Test.members : Test → List (String × Json)
  | .compare _ value => [("value", value.toJson)]
  | .substring components =>
    optionalMember "initial" (components.initial.map .string) ++
      (if components.any.isEmpty then [] else [("any", .array (components.any.map .string))]) ++
      optionalMember "final" (components.final.map .string)
  | .presence => []

namespace Filter

mutual
def toJson : Filter → Json
  | .leaf name test aliasFilter marker =>
    .object ([("kind", .string test.kind.tag), ("attribute", .string name)] ++ test.members ++
      aliasMember aliasFilter ++ [("multi_valued", .string marker.name)])
  | .lowercase name =>
    .object [("kind", .string Kind.lowercase.tag), ("attribute", .string name)]
  | .raw text => .object [("kind", .string Kind.raw.tag), ("filter", .string text)]
  | .junction op operands =>
    .object [("kind", .string op.kind.tag), ("filters", .array (allToJson operands))]
  | .not operand => .object [("kind", .string Kind.not.tag), ("filter", operand.toJson)]

def aliasMember : Option Filter → List (String × Json)
  | none => []
  | some aliasFilter => [("alias", aliasFilter.toJson)]

def allToJson : List Filter → List Json
  | [] => []
  | operand :: rest => operand.toJson :: allToJson rest
end

def jsonText (f : Filter) : String := f.toJson.text

end Filter

end FilterQuery
