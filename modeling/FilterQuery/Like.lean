import FilterQuery.Filter.Basic

/-!
Patterns of the `LIKE` operator.

`%` stands for any run of characters, `_` for one character, and a backslash takes the character
after it literally. A pattern matches the whole of a text or not at all.
-/
namespace FilterQuery.Like

def wildcard : Char := '%'

def singleChar : Char := '_'

def escapeMark : Char := '\\'

def isSpecial (c : Char) : Bool := c = wildcard || c = singleChar || c = escapeMark

def escape (cs : List Char) : List Char :=
  cs.flatMap fun c => if isSpecial c then [escapeMark, c] else [c]

/-- The pattern of substring components: wildcards stand wherever something may be left open. -/
def ofComponents (c : Components) : List Char :=
  escape (c.initial.getD "").toList ++ wildcard ::
    (c.any.flatMap (fun part => escape part.toList ++ [wildcard]) ++
      escape (c.final.getD "").toList)

def patternText (c : Components) : String := String.ofList (ofComponents c)

inductive Piece where
  | any
  | one
  | char (c : Char)
deriving DecidableEq, Repr, Inhabited

/-- The pieces of a pattern. A backslash at the very end stands for nothing. -/
def pieces : List Char → List Piece
  | [] => []
  | ['\\'] => []
  | '\\' :: c :: rest => .char c :: pieces rest
  | c :: rest =>
    (if c = wildcard then .any else if c = singleChar then .one else .char c) :: pieces rest

/-- From which suffixes of a text a match is possible, the whole text first. -/
abbrev Suffixes := List Bool

def atEnd : List Char → Suffixes
  | [] => [true]
  | _ :: rest => false :: atEnd rest

def stepChar (test : Char → Bool) : List Char → Suffixes → Suffixes
  | c :: rest, _ :: after =>
    (test c && after.headD false) :: stepChar test rest after
  | _, _ => [false]

def stepAny : Suffixes → Suffixes
  | [] => []
  | here :: after =>
    let later := stepAny after
    (here || later.headD false) :: later

def step (text : List Char) : Piece → Suffixes → Suffixes
  | .char c, after => stepChar (· = c) text after
  | .one, after => stepChar (fun _ => true) text after
  | .any, after => stepAny after

def suffixes (text : List Char) (pieces : List Piece) : Suffixes :=
  pieces.foldr (step text) (atEnd text)

def matchPieces (pieces : List Piece) (text : List Char) : Bool :=
  (suffixes text pieces).headD false

/-- How the matcher bounds the room that a compiled pattern takes: so many bytes, and the patterns
that need more. What a piece takes is left open. -/
class PatternRoom where
  limit : Nat
  tooLarge : List Piece → Bool

def matches? [PatternRoom] (pattern text : String) : Option Bool :=
  let pieces := pieces pattern.toList
  if PatternRoom.tooLarge pieces then none else some (matchPieces pieces text.toList)

end FilterQuery.Like
