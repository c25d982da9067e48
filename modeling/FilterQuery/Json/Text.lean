import FilterQuery.Double.Shortest
import FilterQuery.Json.Basic

/-!
JSON text. Inside a string the quote, the backslash and the control characters are escaped; every
other character stands for itself.
-/
namespace FilterQuery

namespace Json

def hexPair (n : Nat) : List Char := [Nat.digitChar (n / 16), Nat.digitChar (n % 16)]

def escapeChar (c : Char) : List Char :=
  if c = '"' then ['\\', '"']
  else if c = '\\' then ['\\', '\\']
  else if c = '\x08' then ['\\', 'b']
  else if c = '\x0c' then ['\\', 'f']
  else if c = '\n' then ['\\', 'n']
  else if c = '\r' then ['\\', 'r']
  else if c = '\t' then ['\\', 't']
  else if c < ' ' then '\\' :: 'u' :: '0' :: '0' :: hexPair c.toNat
  else [c]

def escape (cs : List Char) : List Char := cs.flatMap escapeChar

def quote (s : String) : List Char := '"' :: (escape s.toList ++ ['"'])

def writeNumber : Number → List Char
  | .int i => (toString i).toList
  | .float d => d.text.toList

def writeBool (b : Bool) : List Char := (if b then "true" else "false").toList

mutual
/-- The compact text in front of what follows it: no blanks, members in the order they are kept.
What follows is passed along, so that nothing is copied however deep a value is. -/
def write : Json → List Char → List Char
  | .null, rest => "null".toList ++ rest
  | .bool value, rest => writeBool value ++ rest
  | .number value, rest => writeNumber value ++ rest
  | .string text, rest => quote text ++ rest
  | .array [], rest => '[' :: ']' :: rest
  | .array (item :: items), rest => '[' :: item.write (writeItems items rest)
  | .object [], rest => '\x7b' :: '\x7d' :: rest
  | .object ((name, value) :: members), rest =>
    '\x7b' :: (quote name ++ ':' :: value.write (writeMembers members rest))

def writeItems : List Json → List Char → List Char
  | [], rest => ']' :: rest
  | item :: items, rest => ',' :: item.write (writeItems items rest)

def writeMembers : List (String × Json) → List Char → List Char
  | [], rest => '\x7d' :: rest
  | (name, value) :: members, rest =>
    ',' :: (quote name ++ ':' :: value.write (writeMembers members rest))
end

def text (j : Json) : String := String.ofList (j.write [])

def newline (level : Nat) : List Char := '\n' :: List.replicate (2 * level) ' '

mutual
def writeIndented (level : Nat) : Json → List Char
  | .array (item :: rest) =>
    '[' :: (newline (level + 1) ++ item.writeIndented (level + 1) ++ indentItems level rest)
  | .object ((name, value) :: rest) =>
    '\x7b' :: (newline (level + 1) ++ quote name ++ ':' :: ' ' ::
      (value.writeIndented (level + 1) ++ indentMembers level rest))
  | .null => "null".toList
  | .bool value => writeBool value
  | .number value => writeNumber value
  | .string text => quote text
  | .array [] => ['[', ']']
  | .object [] => ['\x7b', '\x7d']

def indentItems (level : Nat) : List Json → List Char
  | [] => newline level ++ [']']
  | item :: rest =>
    ',' :: (newline (level + 1) ++ item.writeIndented (level + 1) ++ indentItems level rest)

def indentMembers (level : Nat) : List (String × Json) → List Char
  | [] => newline level ++ ['\x7d']
  | (name, value) :: rest =>
    ',' :: (newline (level + 1) ++ quote name ++ ':' :: ' ' ::
      (value.writeIndented (level + 1) ++ indentMembers level rest))
end

def indentedText (j : Json) : String := String.ofList (j.writeIndented 0)

end Json

end FilterQuery
