import FilterQuery.Filter.Value

/-!
Expressions of a document store: conditions over the fields of a document.
-/
namespace FilterQuery

inductive Literal where
  | bool (value : Bool)
  | number (value : Int64)
  | string (text : String)
deriving DecidableEq, Repr, Inhabited

inductive BinaryOp where
  | eq
  | atMost
  | atLeast
  | like
  | isIn
  | and
  | or
deriving DecidableEq, Repr, Inhabited

/-- `any` holds when some element of the source array, bound to a name, satisfies the condition. -/
inductive Expr where
  | path (name : String)
  | literal (value : Literal)
  | array (items : List Literal)
  | binary (left : Expr) (op : BinaryOp) (right : Expr)
  | not (operand : Expr)
  | isNotMissing (operand : Expr)
  | any (element : String) (source : Expr) (condition : Expr)
  | call (name : String) (args : List Expr)
  | grouped (inner : Expr)
deriving Repr, BEq, Inhabited

/-- The literal of an asserted value. Integers of both widths are one kind of number. -/
def Literal.ofValue : AssertionValue → Literal
  | .bool b => .bool b
  | .int n => .number n.toInt64
  | .long n => .number n
  | .string text => .string text

namespace Expr

def ofValue (value : AssertionValue) : Expr := .literal (.ofValue value)

def eq (left right : Expr) : Expr := .binary left .eq right

def lowerName : String := "LOWER"

def lower (e : Expr) : Expr := .call lowerName [e]

def join (op : BinaryOp) (first : Expr) (rest : List Expr) : Expr :=
  rest.foldl (fun left right => .binary left op right) first

end Expr

end FilterQuery
