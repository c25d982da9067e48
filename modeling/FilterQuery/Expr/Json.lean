import FilterQuery.Expr.Basic
import FilterQuery.Json.Basic

/-!
The stored form of expressions: an object whose one member names the kind of node.
-/
namespace FilterQuery

def Literal.stored : Literal → Json
  | .bool b => .object [("Boolean", .bool b)]
  | .number n => .object [("Number", .int n.toInt)]
  | .string text => .object [("String", .string text)]

def Literal.ofStored? : Json → Option Literal
  | .object [("Boolean", .bool b)] => some (.bool b)
  | .object [("Number", .number (.int i))] =>
    if Number.inSignedRange i then some (.number (Int64.ofInt i)) else none
  | .object [("String", .string text)] => some (.string text)
  | _ => none

def BinaryOp.tag : BinaryOp → String
  | .eq => "Eq"
  | .atMost => "LtEq"
  | .atLeast => "GtEq"
  | .like => "Like"
  | .isIn => "In"
  | .and => "And"
  | .or => "Or"

def BinaryOp.ofTag? (s : String) : Option BinaryOp :=
  [BinaryOp.eq, .atMost, .atLeast, .like, .isIn, .and, .or].find? (·.tag = s)

namespace Expr

mutual
def stored : Expr → Json
  | .path name => .object [("Path", .string name)]
  | .literal value => .object [("Literal", value.stored)]
  | .array items => .object [("Array", .array (items.map Literal.stored))]
  | .binary left op right =>
    .object [("BinaryOp",
      .object [("left", left.stored), ("op", .string op.tag), ("right", right.stored)])]
  | .not operand => .object [("Not", operand.stored)]
  | .isNotMissing operand => .object [("IsNotMissing", operand.stored)]
  | .any element source condition =>
    .object [("Any", .object [("variable", .string element), ("source", source.stored),
      ("satisfies", condition.stored)])]
  | .call name args =>
    .object [("FunctionCall", .object [("name", .string name), ("args", .array (allStored args))])]
  | .grouped inner => .object [("Grouped", inner.stored)]

def allStored : List Expr → List Json
  | [] => []
  | arg :: rest => arg.stored :: allStored rest
end

def ofStoredWithin? : Nat → Json → Option Expr
  | 0, _ => none
  | levels + 1, j =>
    let sub (body : Json) (name : String) : Option Expr := do
      let part ← body.field? name
      ofStoredWithin? levels part
    match j with
    | .object [("Path", .string name)] => some (.path name)
    | .object [("Literal", value)] => (Literal.ofStored? value).map .literal
    | .object [("Array", .array items)] => (items.mapM Literal.ofStored?).map .array
    | .object [("BinaryOp", body)] => do
      let left ← sub body "left"
      let tag ← (body.field? "op").bind Json.string?
      let op ← BinaryOp.ofTag? tag
      let right ← sub body "right"
      return .binary left op right
    | .object [("Not", operand)] => (ofStoredWithin? levels operand).map .not
    | .object [("IsNotMissing", operand)] => (ofStoredWithin? levels operand).map .isNotMissing
    | .object [("Any", body)] => do
      let element ← (body.field? "variable").bind Json.string?
      let source ← sub body "source"
      let condition ← sub body "satisfies"
      return .any element source condition
    | .object [("FunctionCall", body)] => do
      let name ← (body.field? "name").bind Json.string?
      let .array args ← body.field? "args" | none
      let args ← args.mapM (ofStoredWithin? levels)
      return .call name args
    | .object [("Grouped", inner)] => (ofStoredWithin? levels inner).map .grouped
    | _ => none

def ofStored? (j : Json) : Option Expr := ofStoredWithin? j.depth j

end Expr

end FilterQuery
