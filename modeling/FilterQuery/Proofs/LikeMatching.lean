import FilterQuery.Like
import Mathlib.Data.List.Infix

/-!
What the patterns of substring tests match. The matcher keeps, for every suffix of a text, whether
the pieces that are left match it; read at the whole text, each piece takes its part off the front
and a wildcard tries every suffix. So the pattern of some components matches a text exactly when
the text begins with the first component, holds the middle ones in order and without overlap, and
ends with the last one behind them.
-/
namespace FilterQuery

/-- The parts stand in a text in order, and the text ends with the last component behind them. -/
def inOrder : List (List Char) → List Char → List Char → Bool
  | [], final, text => final.isSuffixOf text
  | part :: rest, final, text => text.tails.any fun tail =>
      part.isPrefixOf tail && inOrder rest final (tail.drop part.length)

def Components.holdIn (c : Components) (text : List Char) : Bool :=
  let initial := (c.initial.getD "").toList
  initial.isPrefixOf text && inOrder (c.any.map String.toList) (c.final.getD "").toList
    (text.drop initial.length)

namespace Like

theorem suffixes_nil (pieces : List Piece) : suffixes [] pieces = [matchPieces pieces []] := by
  -- The answers of a step are as many as those it was given, one for each suffix.
  have one : (suffixes [] pieces).length = 1 := by
    induction pieces with
    | nil => rfl
    | cons piece rest ih =>
        obtain ⟨here, kept⟩ := List.length_eq_one_iff.mp ih
        have unfolded : suffixes [] (piece :: rest) = step [] piece [here] := by
          rw [← kept]; rfl
        rw [unfolded]
        cases piece <;> simp [step, stepChar, stepAny]
  obtain ⟨here, kept⟩ := List.length_eq_one_iff.mp one
  simp [matchPieces, kept]

theorem suffixes_cons (pieces : List Piece) (c : Char) (text : List Char) :
    suffixes (c :: text) pieces = matchPieces pieces (c :: text) :: suffixes text pieces := by
  induction pieces with
  | nil => rfl
  | cons piece rest ih =>
      have unfolded : suffixes (c :: text) (piece :: rest) =
          step (c :: text) piece (suffixes (c :: text) rest) := rfl
      have later : suffixes text (piece :: rest) = step text piece (suffixes text rest) := rfl
      -- Every step leaves the answers for the shorter suffixes to those suffixes.
      unfold matchPieces
      rw [unfolded, ih, later]
      cases piece <;> simp [step, stepChar, stepAny]

theorem match_nil (text : List Char) : matchPieces [] text = text.isEmpty := by
  cases text <;> rfl

theorem match_char (c : Char) (pieces : List Piece) (text : List Char) :
    matchPieces (.char c :: pieces) text =
      ([c].isPrefixOf text && matchPieces pieces (text.drop 1)) := by
  cases text with
  | nil => simp [matchPieces, suffixes, step, stepChar]
  | cons d text =>
      have unfolded : suffixes (d :: text) (.char c :: pieces) =
          step (d :: text) (.char c) (suffixes (d :: text) pieces) := rfl
      have head : (suffixes text pieces).headD false = matchPieces pieces text := rfl
      rw [matchPieces, unfolded, suffixes_cons, step, stepChar, head]
      simp [List.isPrefixOf, eq_comm, Bool.beq_eq_decide_eq]

theorem match_one (pieces : List Piece) (text : List Char) :
    matchPieces (.one :: pieces) text = (!text.isEmpty && matchPieces pieces (text.drop 1)) := by
  cases text with
  | nil => simp [matchPieces, suffixes, step, stepChar]
  | cons d text =>
      have unfolded : suffixes (d :: text) (.one :: pieces) =
          step (d :: text) .one (suffixes (d :: text) pieces) := rfl
      have head : (suffixes text pieces).headD false = matchPieces pieces text := rfl
      rw [matchPieces, unfolded, suffixes_cons, step, stepChar, head]
      simp

theorem match_any (pieces : List Piece) (text : List Char) :
    matchPieces (.any :: pieces) text = text.tails.any (matchPieces pieces) := by
  induction text with
  | nil =>
      have unfolded : suffixes [] (.any :: pieces) = stepAny (suffixes [] pieces) := rfl
      rw [matchPieces, unfolded, suffixes_nil]
      simp [stepAny]
  | cons c text ih =>
      have unfolded : suffixes (c :: text) (.any :: pieces) =
          stepAny (suffixes (c :: text) pieces) := rfl
      have later : (stepAny (suffixes text pieces)).headD false =
          matchPieces (.any :: pieces) text := rfl
      rw [matchPieces, unfolded, suffixes_cons, stepAny, List.headD_cons, later, ih]
      simp

theorem match_part (part : List Char) (pieces : List Piece) (text : List Char) :
    matchPieces (part.map .char ++ pieces) text =
      (part.isPrefixOf text && matchPieces pieces (text.drop part.length)) := by
  induction part generalizing text with
  | nil => simp
  | cons c rest ih =>
      rw [List.map_cons, List.cons_append, match_char, ih]
      cases text with
      | nil => simp
      | cons d text => simp [List.isPrefixOf, Bool.and_assoc]

theorem match_last (final text : List Char) :
    matchPieces (final.map .char) text = (text == final) := by
  have whole := match_part final [] text
  rw [List.append_nil] at whole
  -- A prefix behind which nothing is left is the whole text.
  rw [whole, match_nil, Bool.eq_iff_iff]
  simp only [Bool.and_eq_true, List.isPrefixOf_iff_prefix, List.isEmpty_iff,
    List.drop_eq_nil_iff, beq_iff_eq]
  constructor
  · rintro ⟨front, short⟩
    exact (front.eq_of_length_le short).symm
  · rintro rfl
    exact ⟨List.prefix_refl _, Nat.le_refl _⟩

theorem tails_any_eq (final text : List Char) :
    text.tails.any (· == final) = final.isSuffixOf text := by
  rw [Bool.eq_iff_iff, List.any_eq_true, List.isSuffixOf_iff_suffix]
  constructor
  · rintro ⟨tail, member, same⟩
    rw [← beq_iff_eq.mp same]
    exact (List.mem_tails _ _).mp member
  · intro ending
    exact ⟨final, (List.mem_tails _ _).mpr ending, beq_self_eq_true final⟩

theorem match_in_order (parts : List (List Char)) (final text : List Char) :
    matchPieces (.any :: (parts.flatMap (fun part => part.map .char ++ [.any]) ++
      final.map .char)) text = inOrder parts final text := by
  induction parts generalizing text with
  | nil =>
      rw [List.flatMap_nil, List.nil_append, match_any, inOrder, ← tails_any_eq]
      exact congrArg text.tails.any (funext (match_last final))
  | cons part rest ih =>
      rw [match_any, inOrder]
      apply congrArg text.tails.any
      funext tail
      rw [List.flatMap_cons, List.append_assoc, List.append_assoc, match_part,
        List.singleton_append, ih]

theorem pieces_wildcard (pattern : List Char) :
    pieces (wildcard :: pattern) = .any :: pieces pattern := by
  rw [pieces] <;> simp [wildcard]

theorem pieces_escape (part pattern : List Char) :
    pieces (escape part ++ pattern) = part.map .char ++ pieces pattern := by
  induction part with
  | nil => rfl
  | cons c rest ih =>
      by_cases special : isSpecial c
      · have written : escape (c :: rest) = '\\' :: c :: escape rest := by
          simp [escape, special, escapeMark]
        rw [written, List.cons_append, List.cons_append, pieces, ih]
        rfl
      · have written : escape (c :: rest) = c :: escape rest := by
          simp [escape, special]
        simp only [isSpecial, Bool.or_eq_true, decide_eq_true_eq, not_or] at special
        obtain ⟨⟨notAny, notOne⟩, notMark⟩ := special
        rw [written, List.cons_append, pieces, ih]
        -- What is left is that the character starts no wildcard and no escape.
        · simp [notAny, notOne]
        · intro mark; exact absurd mark notMark
        · intro d tail mark; exact absurd mark notMark

theorem pieces_components (c : Components) :
    pieces (ofComponents c) = (c.initial.getD "").toList.map .char ++
      .any :: ((c.any.map String.toList).flatMap (fun part => part.map .char ++ [.any]) ++
        (c.final.getD "").toList.map .char) := by
  have middle : ∀ parts : List String, ∀ final : List Char,
      pieces (parts.flatMap (fun part => escape part.toList ++ [wildcard]) ++ escape final) =
        (parts.map String.toList).flatMap (fun part => part.map .char ++ [.any]) ++
          final.map .char := by
    intro parts final
    induction parts with
    | nil =>
        have last := pieces_escape final []
        simpa [pieces] using last
    | cons part rest ih =>
        rw [List.flatMap_cons, List.append_assoc, List.append_assoc, pieces_escape,
          List.singleton_append, pieces_wildcard, ih]
        simp
  rw [ofComponents, pieces_escape, pieces_wildcard, middle]

theorem match_components (c : Components) (text : List Char) :
    matchPieces (pieces (ofComponents c)) text = c.holdIn text := by
  rw [pieces_components, match_part, match_in_order]
  rfl

end Like

end FilterQuery
