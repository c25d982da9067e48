import FilterQuery.Proofs.LikeMatching

/-!
Patterns as regular expressions. Each piece of a pattern has a text of its own in the syntax of
regular expressions, and the text of a pattern is anchored at both ends and lets a dot stand for a
line break too. A reader of that syntax finds in it one item for each piece, whatever characters the
pattern holds, and the items match a text exactly when the pieces do.
-/
namespace FilterQuery

namespace Regex

def signs : List Char :=
  ['\\', '.', '+', '*', '?', '(', ')', '|', '[', ']', '\x7b', '\x7d', '^', '$', '#', '&', '-', '~']

def escapeChar (c : Char) : List Char := if c ∈ signs then ['\\', c] else [c]

inductive Item where
  | start
  | finish
  | one
  | run
  | char (c : Char)
deriving DecidableEq, Repr

inductive Token where
  | sign (c : Char)
  | letter (c : Char)
deriving DecidableEq, Repr

/-- A backslash makes a letter of the sign behind it; in front of anything else it is an error here,
since it would begin a class of characters. -/
def tokens : List Char → Option (List Token)
  | [] => some []
  | '\\' :: c :: cs => if c ∈ signs then (tokens cs).map (.letter c :: ·) else none
  | c :: cs =>
    if c = '\\' then none
    else (tokens cs).map ((if c ∈ signs then .sign c else .letter c) :: ·)

def readItems : List Token → Option (List Item)
  | [] => some []
  | .sign '^' :: ts => (readItems ts).map (.start :: ·)
  | .sign '$' :: ts => (readItems ts).map (.finish :: ·)
  | .sign '.' :: .sign '*' :: ts => (readItems ts).map (.run :: ·)
  | .sign '.' :: ts => (readItems ts).map (.one :: ·)
  | .letter c :: ts => (readItems ts).map (.char c :: ·)
  | .sign _ :: _ => none

end Regex

/-- Items in a row. With `dotAll`, a dot stands for a line break as well. -/
structure Regex where
  dotAll : Bool
  items : List Regex.Item
deriving DecidableEq, Repr

namespace Regex

def read? : List Char → Option Regex
  | '(' :: '?' :: 's' :: ')' :: cs => ((tokens cs).bind readItems).map (⟨true, ·⟩)
  | cs => ((tokens cs).bind readItems).map (⟨false, ·⟩)

def MatchesAt (dotAll : Bool) : List Item → List Char → List Char → Prop
  | [], _, _ => True
  | .start :: items, behind, ahead => behind = [] ∧ MatchesAt dotAll items behind ahead
  | .finish :: items, behind, ahead => ahead = [] ∧ MatchesAt dotAll items behind ahead
  | .one :: items, behind, ahead =>
    ∃ c rest, ahead = c :: rest ∧ (dotAll ∨ c ≠ '\n') ∧ MatchesAt dotAll items (behind ++ [c]) rest
  | .run :: items, behind, ahead =>
    ∃ skipped rest, ahead = skipped ++ rest ∧ (dotAll ∨ '\n' ∉ skipped) ∧
      MatchesAt dotAll items (behind ++ skipped) rest
  | .char c :: items, behind, ahead =>
    ∃ rest, ahead = c :: rest ∧ MatchesAt dotAll items (behind ++ [c]) rest

/-- A match may begin and end anywhere; only anchors tie it to the ends of the text. -/
def Matches (r : Regex) (text : List Char) : Prop :=
  ∃ behind ahead, text = behind ++ ahead ∧ MatchesAt r.dotAll r.items behind ahead

end Regex

namespace Like

def Piece.regexText : Piece → List Char
  | .any => ['.', '*']
  | .one => ['.']
  | .char c => Regex.escapeChar c

def regexText (pattern : List Char) : List Char :=
  "(?s)^".toList ++ ((pieces pattern).flatMap Piece.regexText ++ ['$'])

def Piece.item : Piece → Regex.Item
  | .any => .run
  | .one => .one
  | .char c => .char c

def Piece.tokens : Piece → List Regex.Token
  | .any => [.sign '.', .sign '*']
  | .one => [.sign '.']
  | .char c => [.letter c]

open Regex in
theorem tokens_escape (c : Char) (cs : List Char) :
    Regex.tokens (escapeChar c ++ cs) = (Regex.tokens cs).map (.letter c :: ·) := by
  by_cases sign : c ∈ signs
  · simp [escapeChar, Regex.tokens, sign]
  · have plain : c ≠ '\\' := by
      rintro rfl
      exact sign (by decide)
    rw [escapeChar, if_neg sign, List.singleton_append, Regex.tokens.eq_def]
    split
    · rename_i none
      cases none
    · rename_i same
      exact absurd (List.cons.inj same).1 plain
    · rename_i same
      obtain ⟨rfl, rfl⟩ := List.cons.inj same
      simp [plain, sign]

theorem tokens_piece (piece : Piece) (cs : List Char) :
    Regex.tokens (piece.regexText ++ cs) = (Regex.tokens cs).map (piece.tokens ++ ·) := by
  cases piece with
  | char c => exact tokens_escape c cs
  | one => simp [Piece.regexText, Regex.tokens, Regex.signs, Piece.tokens]
  | any =>
      simp [Piece.regexText, Regex.tokens, Regex.signs, Piece.tokens, Function.comp_def]

theorem tokens_pieces (pieces : List Piece) :
    Regex.tokens (pieces.flatMap Piece.regexText ++ ['$']) =
      some (pieces.flatMap Piece.tokens ++ [.sign '$']) := by
  induction pieces with
  | nil => rfl
  | cons piece rest ih =>
      rw [List.flatMap_cons, List.append_assoc, tokens_piece, ih, Option.map_some,
        List.flatMap_cons, List.append_assoc]

-- A star only ever stands behind the dot of its own piece, so no piece changes the one before it.
theorem items_pieces (pieces : List Piece) :
    Regex.readItems (pieces.flatMap Piece.tokens ++ [.sign '$']) =
      some (pieces.map Piece.item ++ [.finish]) := by
  induction pieces with
  | nil => rfl
  | cons piece rest ih =>
      rw [List.flatMap_cons, List.append_assoc]
      cases piece with
      | char c => simp [Piece.tokens, Piece.item, Regex.readItems, ih]
      | any => simp [Piece.tokens, Piece.item, Regex.readItems, ih]
      | one =>
          have starless : ∀ ts, rest.flatMap Piece.tokens ++ [.sign '$'] ≠ .sign '*' :: ts := by
            intro ts
            cases rest with
            | nil => simp
            | cons next later => cases next <;> simp [Piece.tokens]
          simp only [Piece.tokens, List.singleton_append]
          rw [Regex.readItems, ih]
          · rfl
          · exact starless

theorem read_regex (pattern : List Char) :
    Regex.read? (regexText pattern) =
      some ⟨true, .start :: ((pieces pattern).map Piece.item ++ [.finish])⟩ := by
  have read : Regex.tokens ('^' :: ((pieces pattern).flatMap Piece.regexText ++ ['$'])) =
      some (.sign '^' :: ((pieces pattern).flatMap Piece.tokens ++ [.sign '$'])) := by
    rw [Regex.tokens, tokens_pieces]
    · rfl
    · intro c cs same
      cases same
  change Option.map (Regex.mk true) ((Regex.tokens
    ('^' :: ((pieces pattern).flatMap Piece.regexText ++ ['$']))).bind Regex.readItems) = _
  rw [read, Option.bind_some, Regex.readItems, items_pieces]
  rfl

theorem tails_any_iff (text : List Char) (holds : List Char → Bool) :
    text.tails.any holds = true ↔ ∃ skipped rest, text = skipped ++ rest ∧ holds rest = true := by
  simp only [List.any_eq_true, List.mem_tails]
  constructor
  · rintro ⟨rest, ⟨skipped, rfl⟩, holds⟩
    exact ⟨skipped, rest, rfl, holds⟩
  · rintro ⟨skipped, rest, rfl, holds⟩
    exact ⟨rest, ⟨skipped, rfl⟩, holds⟩

-- Behind the first item nothing looks back, so what is behind may be anything.
theorem pieces_match_at (pieces : List Piece) (behind ahead : List Char) :
    Regex.MatchesAt true (pieces.map Piece.item ++ [.finish]) behind ahead ↔
      matchPieces pieces ahead = true := by
  induction pieces generalizing behind ahead with
  | nil => simp [Regex.MatchesAt, match_nil]
  | cons piece rest ih =>
      rw [List.map_cons, List.cons_append]
      cases piece with
      | any => simp only [Piece.item, Regex.MatchesAt, ih, match_any, tails_any_iff, true_or, true_and]
      | one =>
          simp only [Piece.item, Regex.MatchesAt, ih, match_one]
          cases ahead <;> simp
      | char c =>
          simp only [Piece.item, Regex.MatchesAt, ih, match_char]
          cases ahead with
          | nil => simp
          | cons d ahead => simp [List.isPrefixOf, @eq_comm _ d c]

theorem regex_matches_iff (pattern text : List Char) :
    ∃ r, Regex.read? (regexText pattern) = some r ∧
      (r.Matches text ↔ matchPieces (pieces pattern) text = true) := by
  refine ⟨_, read_regex pattern, ?_⟩
  constructor
  · rintro ⟨behind, ahead, rfl, rfl, matched⟩
    exact (pieces_match_at _ _ _).mp matched
  · intro matched
    exact ⟨[], text, rfl, rfl, (pieces_match_at _ _ _).mpr matched⟩

end Like

end FilterQuery
