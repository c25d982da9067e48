import FilterQuery.Unicode.HiddenSpans

/-!
Text in quotes for messages. What the reader of a message could not see is written as an escape.
-/
namespace FilterQuery.Text

def isHidden (c : Char) : Bool :=
  Unicode.hiddenSpans.any fun (first, last) => first ≤ c.toNat && c.toNat ≤ last

def codePointEscape (c : Char) : List Char :=
  '\\' :: 'u' :: '\x7b' :: (Nat.toDigits 16 c.toNat ++ ['\x7d'])

def quotedChar (c : Char) : List Char :=
  if c = '\x00' then ['\\', '0']
  else if c = '\t' then ['\\', 't']
  else if c = '\r' then ['\\', 'r']
  else if c = '\n' then ['\\', 'n']
  else if c = '"' then ['\\', '"']
  else if c = '\\' then ['\\', '\\']
  else if isHidden c then codePointEscape c
  else [c]

def quoted (s : String) : String :=
  String.ofList ('"' :: (s.toList.flatMap quotedChar ++ ['"']))

end FilterQuery.Text
