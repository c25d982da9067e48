import FilterQuery.Expr.Basic
import FilterQuery.Json.Basic
import FilterQuery.Like
import FilterQuery.Unicode.LowerCase

/-!
Evaluation of expressions on a document.

A result is a JSON value or, as `none`, missing. Missing operands make a comparison missing, and
values of the wrong type make it null. A document matches when the result is true, so both reject.
-/
namespace FilterQuery

def Literal.toJson : Literal → Json
  | .bool b => .bool b
  | .number n => .int n.toInt
  | .string text => .string text

namespace Expr

variable [Like.PatternRoom]

/-- Names bound by `any`, the innermost first. -/
abbrev Scope := List (String × Json)

/-- Equality of two results. Numbers are equal when they denote the same number; inside arrays and
objects an integer and a double always differ. -/
def equalValues : Json → Json → Bool
  | .number a, .number b => a.order b == .eq
  | a, b => a.same b

def orderOfBools (a b : Bool) : Ordering := compare a.toNat b.toNat

def orderOfStrings (a b : String) : Ordering :=
  if a < b then .lt else if a = b then .eq else .gt

def orderOfValues : Json → Json → Option Ordering
  | .number a, .number b => some (a.order b)
  | .string a, .string b => some (orderOfStrings a b)
  | .bool a, .bool b => some (orderOfBools a b)
  | _, _ => none

def ofBool? : Option Bool → Json
  | some b => .bool b
  | none => .null

def truth : Option Json → Option Bool
  | some (.bool b) => some b
  | _ => none

def both : Option Bool → Option Bool → Option Bool
  | some false, _ => some false
  | _, some false => some false
  | some true, some true => some true
  | _, _ => none

def either : Option Bool → Option Bool → Option Bool
  | some true, _ => some true
  | _, some true => some true
  | some false, some false => some false
  | _, _ => none

def compareValues (op : BinaryOp) (left right : Json) : Json :=
  match op with
  | .eq => .bool (equalValues left right)
  | .atMost => ofBool? ((orderOfValues left right).map (· != .gt))
  | .atLeast => ofBool? ((orderOfValues left right).map (· != .lt))
  | .like =>
    match left, right with
    | .string text, .string pattern => ofBool? (Like.matches? pattern text)
    | _, _ => .null
  | .isIn =>
    match right with
    | .array items => .bool (items.any (equalValues left))
    | _ => .null
  | .and => .null
  | .or => .null

/-- The connectives look at truth alone, so a missing side does not make them missing. -/
def combine (op : BinaryOp) (left right : Option Json) : Option Json :=
  match op with
  | .and => some (ofBool? (both (truth left) (truth right)))
  | .or => some (ofBool? (either (truth left) (truth right)))
  | comparison =>
    match left, right with
    | some left, some right => some (compareValues comparison left right)
    | _, _ => none

def negate : Option Json → Option Json
  | none => none
  | some (.bool b) => some (.bool !b)
  | some _ => some .null

def lowerValue : Json → Json
  | .string text => .string (Unicode.lower text)
  | _ => .null

mutual
def eval (doc : Json) : Scope → Expr → Option Json
  | scope, .path name => (scope.lookup name).or (doc.field? name)
  | _, .literal value => some value.toJson
  | _, .array items => some (.array (items.map Literal.toJson))
  | scope, .binary left op right => combine op (eval doc scope left) (eval doc scope right)
  | scope, .not operand => negate (eval doc scope operand)
  | scope, .isNotMissing operand => some (.bool (eval doc scope operand).isSome)
  | scope, .any element source condition =>
    match eval doc scope source with
    | some (.array values) =>
      some (.bool (values.any fun value =>
        truth (eval doc ((element, value) :: scope) condition) == some true))
    | _ => some .null
  | scope, .call name args =>
    if name = lowerName then (evalFirst doc scope args).map lowerValue else some .null
  | scope, .grouped inner => eval doc scope inner

/-- Functions look at their first argument only. -/
def evalFirst (doc : Json) : Scope → List Expr → Option Json
  | _, [] => none
  | scope, arg :: _ => eval doc scope arg
end

def accepts (e : Expr) (doc : Json) : Bool := truth (eval doc [] e) == some true

end Expr

end FilterQuery
