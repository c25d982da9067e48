import FilterQuery.Like.Weights
import FilterQuery.Proofs.PatternRegex

/-!
What the pattern of a substring test matches: the texts that are its components in order, with
something or nothing in front of, between and behind the middle ones. The escapes of the pattern and
those of its regular expression undo each other, so a component means its own characters, whatever
they are.
-/
namespace FilterQuery

/-- The text is made of the components: the initial one, a gap, each middle one with a gap behind
it, and the final one. A component that is absent takes no room. -/
def Components.Compose (c : Components) (text : String) : Prop :=
  ∃ (first : String) (gaps : List String), gaps.length = c.any.length ∧
    text = c.initial.getD "" ++ first ++ String.join (List.zipWith (· ++ ·) c.any gaps) ++
      c.final.getD ""

theorem in_order_iff (parts : List (List Char)) (final text : List Char) :
    inOrder parts final text = true ↔ ∃ (first : List Char) (gaps : List (List Char)),
      gaps.length = parts.length ∧
        text = first ++ (List.zipWith (· ++ ·) parts gaps).flatten ++ final := by
  induction parts generalizing text with
  | nil =>
      rw [inOrder, List.isSuffixOf_iff_suffix]
      constructor
      · rintro ⟨first, rfl⟩
        exact ⟨first, [], rfl, by simp⟩
      · rintro ⟨first, gaps, _, rfl⟩
        exact ⟨first, by simp⟩
  | cons part rest ih =>
      rw [inOrder, Like.tails_any_iff]
      simp only [Bool.and_eq_true, List.isPrefixOf_iff_prefix, ih]
      constructor
      -- What is skipped in front of a part is its gap; the gap behind it is the next one.
      · rintro ⟨first, _, rfl, ⟨behind, rfl⟩, gap, gaps, same, split⟩
        rw [List.drop_left] at split
        subst split
        exact ⟨first, gap :: gaps, by simp [same], by simp⟩
      · rintro ⟨first, gaps, same, rfl⟩
        obtain ⟨gap, gaps, rfl⟩ := List.exists_cons_of_length_eq_add_one same
        refine ⟨first, part ++ (gap ++ (List.zipWith (· ++ ·) rest gaps).flatten ++ final),
          by simp, List.prefix_append _ _, gap, gaps, by simpa using same, ?_⟩
        rw [List.drop_left]

theorem hold_in_iff (c : Components) (text : List Char) :
    c.holdIn text = true ↔ ∃ (first : List Char) (gaps : List (List Char)),
      gaps.length = c.any.length ∧
        text = (c.initial.getD "").toList ++ first ++
          (List.zipWith (· ++ ·) (c.any.map String.toList) gaps).flatten ++
            (c.final.getD "").toList := by
  simp only [Components.holdIn, Bool.and_eq_true, List.isPrefixOf_iff_prefix, in_order_iff,
    List.length_map]
  constructor
  · rintro ⟨⟨behind, rfl⟩, first, gaps, same, split⟩
    rw [List.drop_left] at split
    subst split
    exact ⟨first, gaps, same, by simp⟩
  · rintro ⟨first, gaps, same, rfl⟩
    simp only [List.append_assoc, List.drop_left]
    exact ⟨List.prefix_append _ _, first, gaps, same, rfl⟩

theorem filled_to_list (parts gaps : List String) :
    (String.join (List.zipWith (· ++ ·) parts gaps)).toList =
      (List.zipWith (· ++ ·) (parts.map String.toList) (gaps.map String.toList)).flatten := by
  rw [String.toList_join, List.flatMap_def, List.map_zipWith, List.zipWith_map]
  simp only [String.toList_append]

theorem compose_iff (c : Components) (text : String) :
    c.Compose text ↔ c.holdIn text.toList = true := by
  rw [hold_in_iff]
  constructor
  · rintro ⟨first, gaps, same, rfl⟩
    exact ⟨first.toList, gaps.map String.toList, by simpa using same,
      by simp only [String.toList_append, filled_to_list]⟩
  · rintro ⟨first, gaps, same, split⟩
    refine ⟨String.ofList first, gaps.map String.ofList, by simpa using same, ?_⟩
    have back : (gaps.map String.ofList).map String.toList = gaps := by
      simp [Function.comp_def]
    apply String.toList_injective
    simp only [String.toList_append, filled_to_list, back, String.toList_ofList, split]

/-- The regular expression of a pattern is matched by what the components compose and by nothing
else; and so is the pattern itself, unless it is too large. -/
theorem pattern_matches_composed [Like.PatternRoom] (c : Components) (text : String) :
    (∃ r, Regex.read? (Like.regexText (Like.patternText c).toList) = some r ∧
      (r.Matches text.toList ↔ c.Compose text)) ∧
    (Like.PatternRoom.tooLarge (Like.pieces (Like.ofComponents c)) = false →
      ∃ matched, Like.matches? (Like.patternText c) text = some matched ∧
        (matched = true ↔ c.Compose text)) := by
  have pattern : (Like.patternText c).toList = Like.ofComponents c := String.toList_ofList
  simp only [compose_iff, ← Like.match_components]
  constructor
  · rw [pattern]
    exact Like.regex_matches_iff _ _
  · intro fits
    refine ⟨_, ?_, Iff.rfl⟩
    simp [Like.matches?, pattern, fits]

def literalSigns : Components := ⟨some "50%", ["", "a_.*\n"], some "\\$"⟩

theorem literal_signs_compose :
    Like.PatternRoom.tooLarge (Like.pieces (Like.ofComponents literalSigns)) = false ∧
      Like.patternText literalSigns = "50\\%%%a\\_.*\n%\\\\$" ∧
      Like.matches? (Like.patternText literalSigns) "50%\na_.*\n\\\\$" = some true ∧
      ¬ literalSigns.Compose "50%aX.*\n\\$" := by
  have fits : Like.PatternRoom.tooLarge (Like.pieces (Like.ofComponents literalSigns)) = false := by
    decide
  obtain ⟨matched, found, composed⟩ :=
    (pattern_matches_composed literalSigns "50%\na_.*\n\\\\$").2 fits
  have holds : matched = true := composed.mpr ⟨"\n", ["", "\\"], rfl, by decide⟩
  obtain ⟨other, sought, refused⟩ :=
    (pattern_matches_composed literalSigns "50%aX.*\n\\$").2 fits
  have fails : Like.matches? (Like.patternText literalSigns) "50%aX.*\n\\$" = some false := by
    decide
  refine ⟨fits, by decide, holds ▸ found, ?_⟩
  rw [← refused]
  rw [fails] at sought
  cases sought
  exact Bool.false_ne_true

end FilterQuery
