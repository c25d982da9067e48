import FilterQuery.Like.Weights
import FilterQuery.Proofs.RangeCoherence

/-!
Comparisons of stored integers with literals, which are signed words. A stored integer may also be a
word that only fits without a sign. It is then compared as a double, and so is the literal; they
keep their order, unless both lie so close to `2 ^ 63` that they merge. A pair that merges counts as
equal, and that is all that is not exact.
-/
namespace FilterQuery.Document

open FilterQuery.Expr (equalValues orderOfValues)
open FilterQuery.Number (IsWord)

/-- What counts as equal to a literal. -/
def EqualOrMerged (x : Int) (n : Int64) : Prop := x = n.toInt ∨ Number.Merge x n.toInt

section Order

variable {x : Int} {word : IsWord x} {n : Int64} {value : AssertionValue}

theorem literal_value (literal : Literal.ofValue value = .number n) :
    value.toJson =
      .number (@Number.int n.toInt (Number.word_of_signed (Number.signed_range n))) := by
  rw [← literal_json, literal, Literal.toJson, Json.int_of_word]

theorem merged_greater (merged : Number.Merge x n.toInt) : n.toInt < x :=
  Int.lt_of_lt_of_le n.toInt_lt merged.1

theorem order_of_word (literal : Literal.ofValue value = .number n) :
    orderOf? (some (.number (@Number.int x word))) value =
      some (if Number.Merge x n.toInt then .eq else compare x n.toInt) := by
  rw [orderOf?, Option.bind_some, literal_value literal, orderOfValues,
    Number.order_words (Number.signed_range n)]

theorem order_eq_iff_merged (literal : Literal.ofValue value = .number n) :
    orderOf? (some (.number (@Number.int x word))) value = some .eq ↔ EqualOrMerged x n := by
  rw [order_of_word literal, Option.some.injEq, EqualOrMerged]
  split
  · rename_i merged
    simp [merged]
  · rename_i apart
    simp [apart]

theorem order_at_most_iff (literal : Literal.ofValue value = .number n) :
    orderOf? (some (.number (@Number.int x word))) value = some .lt ∨
        orderOf? (some (.number (@Number.int x word))) value = some .eq ↔
      x ≤ n.toInt ∨ Number.Merge x n.toInt := by
  rw [order_of_word literal]
  split
  · rename_i merged
    simp [merged]
  · rename_i apart
    simp [apart, compare_lt_iff_lt, le_iff_lt_or_eq]

theorem order_at_least_iff (literal : Literal.ofValue value = .number n) :
    orderOf? (some (.number (@Number.int x word))) value = some .eq ∨
        orderOf? (some (.number (@Number.int x word))) value = some .gt ↔
      n.toInt ≤ x := by
  rw [order_of_word literal]
  split
  · rename_i merged
    simp [(merged_greater merged).le]
  · simp only [Option.some.injEq, compare_eq_iff_eq, compare_gt_iff_gt]
    omega

theorem word_equals_iff :
    equalValues (.number (@Number.int x word)) value.toJson ↔
      ∃ n, Literal.ofValue value = .number n ∧ EqualOrMerged x n := by
  rw [equal_values_iff]
  cases literal : Literal.ofValue value with
  | number n =>
      rw [← order_eq_iff_equal]
      have order := @order_eq_iff_merged x word n value literal
      simpa [orderOf?] using order
  | _ => cases value <;> simp_all [Literal.ofValue, EqualTo, AssertionValue.toJson]

end Order

section Compiled

variable {ctx : CompileContext} {doc : Json} {name : String} {marker : Cardinality} {x : Int}
  (single : SingleValued ctx name marker)
  (stored : (doc.field? (ctx.resolve name)).bind Json.int? = some x)

include single in
theorem equalities_gathered {values : List AssertionValue} (nonempty : values ≠ [])
    (deep : 2 ≤ ctx.maxDepth) :
    ∃ c, (compile ctx (.or (values.map (comparing name marker .equality)))).result = .ok c ∧
      c.expression = membership (ctx.resolve name) values := by
  have members : memberValues? ctx (values.map (comparing name marker .equality)) =
      some (name, values) := by
    apply member_values_of_all nonempty
    rw [List.forall₂_map_left_iff, List.forall₂_same]
    intro value _
    exact member_value_iff.mpr ⟨⟨marker, rfl⟩, single.cardinality _⟩
  have tests : values.map (comparing name marker .equality) =
      (values.map (Test.compare .equality)).map (plain name marker) := by
    rw [List.map_map]; rfl
  have compiles : (compile ctx (.or (values.map (comparing name marker .equality)))).failure? =
      none := by
    rw [Filter.or, tests]
    apply single.junction_compiles _ _ _ deep
    · simpa using nonempty
    · simp [condition?]
  obtain ⟨c, compiled⟩ := (Compilation.succeeds_iff_no_failure _).mpr compiles
  exact ⟨c, compiled, membership_compiled members compiled⟩

include stored

theorem stored_word :
    ∃ word, doc.field? (ctx.resolve name) = some (.number (@Number.int x word)) := by
  obtain ⟨found, held, read⟩ := Option.bind_eq_some_iff.mp stored
  obtain ⟨word, rfl⟩ := Json.int?_eq_some_iff.mp read
  exact ⟨word, held⟩

variable [Like.PatternRoom]

include single in
theorem word_comparisons {value : AssertionValue} {n : Int64}
    (literal : Literal.ofValue value = .number n) (deep : 1 ≤ ctx.maxDepth) :
    MatchesIff ctx doc (comparing name marker .equality value) (EqualOrMerged x n) ∧
    MatchesIff ctx doc (comparing name marker .atMost value)
      (x ≤ n.toInt ∨ Number.Merge x n.toInt) ∧
    MatchesIff ctx doc (comparing name marker .atLeast value) (n.toInt ≤ x) := by
  obtain ⟨word, held⟩ := stored_word stored
  refine ⟨single.matchesIff rfl deep ?_, single.matchesIff rfl deep ?_,
    single.matchesIff rfl deep ?_⟩
  · rw [equality_holds_iff, held, order_eq_iff_merged literal]
  · rw [at_most_holds_iff, held, order_at_most_iff literal]
  · rw [at_least_holds_iff, held, order_at_least_iff literal]

theorem membership_accepts_iff (values : List AssertionValue) :
    (membership (ctx.resolve name) values).accepts doc ↔
      ∃ n, Literal.number n ∈ values.map Literal.ofValue ∧ EqualOrMerged x n := by
  obtain ⟨word, held⟩ := stored_word stored
  have found : Expr.eval doc [] (.path (ctx.resolve name)) =
      some (.number (@Number.int x word)) := by
    simpa [Expr.eval] using held
  have searched : (membership (ctx.resolve name) values).accepts doc =
      values.any fun value => equalValues (.number (@Number.int x word)) value.toJson := by
    rw [Expr.accepts, eval_membership, found]
    simp
  simp only [searched, List.any_eq_true, word_equals_iff, List.mem_map]
  constructor
  · rintro ⟨value, inside, n, literal, equal⟩
    exact ⟨n, ⟨value, inside, literal⟩, equal⟩
  · rintro ⟨n, ⟨value, inside, literal⟩, equal⟩
    exact ⟨value, inside, n, literal, equal⟩

end Compiled

/-- Comparisons of a stored integer with literals are exact, but for pairs that merge: these count
as equal. A disjunction needs one level more than a comparison. -/
theorem integers_exact_unless_merged [Like.PatternRoom] (ctx : CompileContext) (doc : Json)
    {name : String} {marker : Cardinality} {x : Int} (single : SingleValued ctx name marker)
    (stored : (doc.field? (ctx.resolve name)).bind Json.int? = some x) :
    (1 ≤ ctx.maxDepth → ∀ value n, Literal.ofValue value = .number n →
      MatchesIff ctx doc (comparing name marker .equality value) (EqualOrMerged x n) ∧
      MatchesIff ctx doc (comparing name marker .atMost value)
        (x ≤ n.toInt ∨ Number.Merge x n.toInt) ∧
      MatchesIff ctx doc (comparing name marker .atLeast value) (n.toInt ≤ x)) ∧
    (2 ≤ ctx.maxDepth → ∀ values, values ≠ [] →
      ∃ c, (compile ctx (.or (values.map (comparing name marker .equality)))).result = .ok c ∧
        c.expression = membership (ctx.resolve name) values ∧
        (c.expression.accepts doc ↔
          ∃ n, Literal.number n ∈ values.map Literal.ofValue ∧ EqualOrMerged x n)) := by
  constructor
  · intro deep value n literal
    exact word_comparisons single stored literal deep
  · intro deep values nonempty
    obtain ⟨c, compiled, gathered⟩ := equalities_gathered single nonempty deep
    exact ⟨c, compiled, gathered, gathered ▸ membership_accepts_iff stored values⟩

theorem last_merged_instant :
    SingleValued clock "exp" .unknown ∧ 2 ≤ clock.maxDepth ∧
    ((expiring (.int 9223372036854775808)).field? (clock.resolve "exp")).bind Json.int? =
      some 9223372036854775808 ∧
    Matches clock (expiring (.int 9223372036854775808))
      (comparing "exp" .unknown .atMost (.long 9223372036854775296)) ∧
    ¬ Matches clock (expiring (.int 9223372036854775808))
      (comparing "exp" .unknown .atMost (.long 9223372036854775295)) ∧
    Matches clock (expiring (.int 9223372036854775808))
      (.or ([.int 0, .long 9223372036854775296].map (comparing "exp" .unknown .equality))) := by
  have deep : 2 ≤ clock.maxDepth := by decide
  have stored : ((expiring (.int 9223372036854775808)).field? (clock.resolve "exp")).bind
      Json.int? = some 9223372036854775808 := rfl
  obtain ⟨exact, gathered⟩ := integers_exact_unless_merged clock _ clock_single stored
  have comparisons := exact (Nat.le_of_succ_le deep)
  obtain ⟨_, merged, _⟩ := comparisons (.long 9223372036854775296) 9223372036854775296 rfl
  obtain ⟨_, apart, _⟩ := comparisons (.long 9223372036854775295) 9223372036854775295 rfl
  obtain ⟨c, compiled, _, accepted⟩ := gathered deep
    [.int 0, .long 9223372036854775296] (List.cons_ne_nil _ _)
  refine ⟨clock_single, deep, stored, ?_, ?_, c, compiled, ?_⟩
  · exact merged.matches_iff.mpr (by decide)
  · exact apart.matches_iff.not.mpr (by decide)
  · exact accepted.mpr ⟨9223372036854775296, by decide, .inr (by decide)⟩

/-- An entry that expires after the last instant counts as expiring at it, and no later. -/
theorem merged_words_count_as_equal :
    SingleValued clock "exp" .unknown ∧ (9223372036854775807 : Int) < 9223372036854775808 ∧
    Matches clock (expiring (.int 9223372036854775808))
      (comparing "exp" .unknown .equality (.long 9223372036854775807)) ∧
    Matches clock (expiring (.int 9223372036854775808))
      (comparing "exp" .unknown .atMost (.long 9223372036854775807)) ∧
    Matches clock (expiring (.int 9223372036854775808))
      (.or ([.int 0, .long 9223372036854775807].map (comparing "exp" .unknown .equality))) :=
  ⟨clock_single, by decide, ⟨_, rfl, by decide +kernel⟩, ⟨_, rfl, by decide +kernel⟩,
    ⟨_, rfl, by decide +kernel⟩⟩

end FilterQuery.Document
