/-!
The value that a filter asserts against an attribute.

Numbers keep their width and stay apart from strings that look like numbers, so the two never lead
to the same literal.
-/
namespace FilterQuery

inductive AssertionValue where
  | bool (value : Bool)
  | int (value : Int32)
  | long (value : Int64)
  | string (text : String)
deriving DecidableEq, Repr, Inhabited

namespace AssertionValue

def display : AssertionValue → String
  | .bool true => "true"
  | .bool false => "false"
  | .int n => toString n.toInt
  | .long n => toString n.toInt
  | .string text => text

def directoryText : AssertionValue → String
  | .bool true => "TRUE"
  | .bool false => "FALSE"
  | .int n => toString n.toInt
  | .long n => toString n.toInt
  | .string text => text

end AssertionValue

end FilterQuery
