import FilterQuery.Expr.Basic
import FilterQuery.Json.Text

/-!
The query text of an expression. Names stand between ticks and strings between quotes; the text has
the parentheses of the expression and no others.
-/
namespace FilterQuery

def BinaryOp.symbol : BinaryOp → String
  | .eq => "="
  | .atMost => "<="
  | .atLeast => ">="
  | .like => "LIKE"
  | .isIn => "IN"
  | .and => "AND"
  | .or => "OR"

def tick : Char := '\x60'

/-- A tick inside a name is written twice. -/
def writeName (name : String) : List Char :=
  tick :: (name.toList.flatMap (fun c => if c = tick then [tick, tick] else [c]) ++ [tick])

def Literal.write : Literal → List Char
  | .bool true => "TRUE".toList
  | .bool false => "FALSE".toList
  | .number n => (toString n.toInt).toList
  | .string text => Json.quote text

def commaSeparated : List (List Char) → List Char
  | [] => []
  | [part] => part
  | part :: rest => part ++ ',' :: ' ' :: commaSeparated rest

namespace Expr

mutual
def write : Expr → List Char
  | .path name => writeName name
  | .literal value => value.write
  | .array items => '[' :: (commaSeparated (items.map Literal.write) ++ [']'])
  | .binary left op right => left.write ++ ' ' :: (op.symbol.toList ++ ' ' :: right.write)
  | .not operand => "NOT ".toList ++ operand.write
  | .isNotMissing operand => operand.write ++ " IS NOT MISSING".toList
  | .any element source condition =>
    "ANY ".toList ++ writeName element ++ " IN ".toList ++ source.write ++
      " SATISFIES ".toList ++ condition.write ++ " END".toList
  | .call name args => name.toList ++ '(' :: (commaSeparated (writeAll args) ++ [')'])
  | .grouped inner => '(' :: (inner.write ++ [')'])

def writeAll : List Expr → List (List Char)
  | [] => []
  | arg :: rest => arg.write :: writeAll rest
end

def text (e : Expr) : String := String.ofList e.write

end Expr

end FilterQuery
