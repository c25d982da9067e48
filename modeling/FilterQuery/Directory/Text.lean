import FilterQuery.Directory.Basic

/-!
The text of directory queries.

In a value the characters that structure a query are written as a backslash and two hexadecimal
digits. Names are written as they are.
-/
namespace FilterQuery

def Comparison.symbol : Comparison → String
  | .equality => "="
  | .atLeast => ">="
  | .atMost => "<="
  | .approximate => "~="

def Junction.symbol : Junction → Char
  | .and => '&'
  | .or => '|'

namespace DirectoryQuery

def escapeChar (c : Char) : List Char :=
  if c = '*' then ['\\', '2', 'a']
  else if c = '(' then ['\\', '2', '8']
  else if c = ')' then ['\\', '2', '9']
  else if c = '\\' then ['\\', '5', 'c']
  else if c = '\x00' then ['\\', '0', '0']
  else [c]

def escape (s : String) : List Char := s.toList.flatMap escapeChar

def escapeText (s : String) : String := String.ofList (escape s)

/-- Components with stars between them. One that is empty would put two stars side by side, which is
no valid query, so it is left out. -/
def writeComponents (c : Components) : List Char :=
  escape (c.initial.getD "") ++ '*' ::
    ((c.any.filter (· ≠ "")).flatMap (fun part => escape part ++ ['*']) ++
      escape (c.final.getD ""))

mutual
def write : DirectoryQuery → List Char
  | .compare op name value =>
    '(' :: (name.toList ++ op.symbol.toList ++ escape value ++ [')'])
  | .presence name => '(' :: (name.toList ++ "=*)".toList)
  | .substring name components =>
    '(' :: (name.toList ++ '=' :: (writeComponents components ++ [')']))
  | .junction op operands => '(' :: op.symbol :: (writeAll operands ++ [')'])
  | .not operand => '(' :: '!' :: (operand.write ++ [')'])

def writeAll : List DirectoryQuery → List Char
  | [] => []
  | operand :: rest => operand.write ++ writeAll rest
end

def text (q : DirectoryQuery) : String := String.ofList q.write

end DirectoryQuery

end FilterQuery
