import FilterQuery.Like.Weights
import FilterQuery.Proofs.DoubleOrder
import FilterQuery.Proofs.SingleValued

/-!
The three comparisons of a single value agree with one another. A stored value and an asserted one
have an order exactly when they are of one type, and they are equal exactly when that order says
so. From there on the laws are those of a total order: at least and at most together are equality,
one of the two always holds, and what is not at least is at most and differs. Values of two types
have no order, which leaves the range tests open while equality is false.
-/
namespace FilterQuery.Document

open FilterQuery.Expr (equalValues orderOfValues)

/-- Both are Booleans, both are numbers, or both are strings. -/
def SameType (stored : Json) (value : AssertionValue) : Prop :=
  match stored, value.toJson with
  | .bool _, .bool _ => True
  | .number _, .number _ => True
  | .string _, .string _ => True
  | _, _ => False

/-- Numbers are equal as numbers, all other values only as the same value. -/
def EqualTo (stored : Json) (value : AssertionValue) : Prop :=
  match stored, value.toJson with
  | .number a, .number b => a.Equal b
  | stored, asserted => stored = asserted

section Order

variable (stored : Json) (value : AssertionValue)

theorem order_of_bools_eq_iff (a b : Bool) : Expr.orderOfBools a b = .eq ↔ a = b := by
  cases a <;> cases b <;> decide

theorem order_of_strings_eq_iff (a b : String) : Expr.orderOfStrings a b = .eq ↔ a = b := by
  unfold Expr.orderOfStrings
  split
  · rename_i less
    exact iff_of_false Ordering.noConfusion fun same => String.lt_irrefl b (same ▸ less)
  · split <;> simp_all

theorem has_order_iff :
    (∃ order, orderOfValues stored value.toJson = some order) ↔ SameType stored value := by
  cases stored <;> cases value <;> simp [orderOfValues, SameType, AssertionValue.toJson, Json.int]

theorem equal_values_iff : equalValues stored value.toJson ↔ EqualTo stored value := by
  cases stored <;> cases value <;>
    simp [equalValues, EqualTo, AssertionValue.toJson, Json.int, Json.same, Number.order_eq_iff]

theorem order_eq_iff_equal :
    orderOfValues stored value.toJson = some .eq ↔ EqualTo stored value := by
  cases stored <;> cases value <;>
    simp [orderOfValues, EqualTo, AssertionValue.toJson, Json.int, Number.order_eq_iff,
      order_of_bools_eq_iff, order_of_strings_eq_iff]

end Order

section Tests

open Meaning

variable (found : Option Json) (value : AssertionValue)

def orderOf? : Option Ordering := found.bind (orderOfValues · value.toJson)

theorem ordered_iff :
    (∃ order, orderOf? found value = some order) ↔
      ∃ stored, found = some stored ∧ SameType stored value := by
  cases found with
  | none => simp [orderOf?]
  | some stored => simp [orderOf?, has_order_iff]

variable [Like.PatternRoom]

theorem equality_holds_iff :
    judge found (.compare .equality value) = some true ↔ orderOf? found value = some .eq := by
  cases found with
  | none => simp [judge, orderOf?]
  | some stored =>
      rw [orderOf?, Option.bind_some, order_eq_iff_equal, ← equal_values_iff]
      simp [judge]

theorem at_least_holds_iff :
    judge found (.compare .atLeast value) = some true ↔
      orderOf? found value = some .eq ∨ orderOf? found value = some .gt := by
  change (orderOf? found value).map (· != .lt) = some true ↔ _
  rcases orderOf? found value with _ | _ | _ | _ <;> simp

theorem at_least_fails_iff :
    judge found (.compare .atLeast value) = some false ↔ orderOf? found value = some .lt := by
  change (orderOf? found value).map (· != .lt) = some false ↔ _
  rcases orderOf? found value with _ | _ | _ | _ <;> simp

theorem at_most_holds_iff :
    judge found (.compare .atMost value) = some true ↔
      orderOf? found value = some .lt ∨ orderOf? found value = some .eq := by
  change (orderOf? found value).map (· != .gt) = some true ↔ _
  rcases orderOf? found value with _ | _ | _ | _ <;> simp

end Tests

section Compiled

theorem ranges_compile (value : AssertionValue) :
    ∀ test ∈ [Test.compare .atLeast value, .compare .atMost value], condition? test ≠ none := by
  simp [condition?]

variable [Like.PatternRoom] {ctx : CompileContext} {doc : Json} {name : String}
  {marker : Cardinality}
  (single : SingleValued ctx name marker) (value : AssertionValue) (deep : 2 ≤ ctx.maxDepth)

include single deep

theorem equality_matches_iff :
    Matches ctx doc (comparing name marker .equality value) ↔
      orderOf? (doc.field? (ctx.resolve name)) value = some .eq :=
  (single.matches_iff rfl (Nat.le_of_succ_le deep)).trans (equality_holds_iff _ _)

theorem at_most_matches_iff :
    Matches ctx doc (comparing name marker .atMost value) ↔
      orderOf? (doc.field? (ctx.resolve name)) value = some .lt ∨
        orderOf? (doc.field? (ctx.resolve name)) value = some .eq :=
  (single.matches_iff rfl (Nat.le_of_succ_le deep)).trans (at_most_holds_iff _ _)

theorem both_ranges :
    MatchesIff ctx doc
      (.and [comparing name marker .atLeast value, comparing name marker .atMost value])
      (Matches ctx doc (comparing name marker .equality value)) := by
  apply single.junction_matchesIff (List.cons_ne_nil _ _) (ranges_compile value) deep
  rw [equality_matches_iff single value deep]
  have all := Junction.verdict_opposite_iff .and
    [Meaning.judge (doc.field? (ctx.resolve name)) (.compare .atLeast value),
      Meaning.judge (doc.field? (ctx.resolve name)) (.compare .atMost value)]
  refine all.trans ?_
  simp only [List.forall_mem_cons, List.not_mem_nil, false_imp_iff, implies_true, and_true,
    Junction.decisive, Bool.not_false, at_least_holds_iff, at_most_holds_iff]
  constructor
  · rintro ⟨eq | gt, lt | eq⟩ <;> simp_all
  · intro eq
    exact ⟨.inl eq, .inr eq⟩

theorem either_range :
    MatchesIff ctx doc
      (.or [comparing name marker .atLeast value, comparing name marker .atMost value])
      (∃ stored, doc.field? (ctx.resolve name) = some stored ∧ SameType stored value) := by
  apply single.junction_matchesIff (List.cons_ne_nil _ _) (ranges_compile value) deep
  have one := Junction.verdict_decisive_iff .or
    [Meaning.judge (doc.field? (ctx.resolve name)) (.compare .atLeast value),
      Meaning.judge (doc.field? (ctx.resolve name)) (.compare .atMost value)]
  refine one.trans ?_
  simp only [List.mem_cons, List.not_mem_nil, or_false, Junction.decisive,
    eq_comm (a := some true), at_least_holds_iff, at_most_holds_iff]
  rw [← ordered_iff]
  constructor
  · rintro ((eq | gt) | lt | eq)
    all_goals exact ⟨_, by assumption⟩
  · rintro ⟨_ | _ | _, same⟩ <;> simp [same]

/-- What is not at least the value is at most it and differs. Where there is no order, a missing
value and one of another type among them, neither side holds. -/
theorem not_at_least :
    MatchesIff ctx doc (.not (comparing name marker .atLeast value))
      (Matches ctx doc (comparing name marker .atMost value) ∧
        ¬ Matches ctx doc (comparing name marker .equality value)) := by
  apply single.not_matchesIff rfl deep
  rw [at_least_fails_iff, at_most_matches_iff single value deep,
    equality_matches_iff single value deep]
  constructor
  · intro lt
    simp [lt]
  · rintro ⟨lt | eq, differs⟩
    · exact lt
    · exact absurd eq differs

theorem equality_stored :
    MatchesIff ctx doc (comparing name marker .equality value)
      (∃ stored, doc.field? (ctx.resolve name) = some stored ∧ EqualTo stored value) := by
  apply single.matchesIff rfl (Nat.le_of_succ_le deep)
  rw [equality_holds_iff, orderOf?, Option.bind_eq_some_iff]
  simp only [order_eq_iff_equal]

end Compiled

/-- The tests of an attribute that is taken to hold a single value cohere, whatever a document
stores under its name. -/
theorem range_tests_cohere [Like.PatternRoom] (ctx : CompileContext) (doc : Json)
    (value : AssertionValue) {name : String} {marker : Cardinality}
    (single : SingleValued ctx name marker) (deep : 2 ≤ ctx.maxDepth) :
    MatchesIff ctx doc (comparing name marker .equality value)
      (∃ stored, doc.field? (ctx.resolve name) = some stored ∧ EqualTo stored value) ∧
    MatchesIff ctx doc
      (.and [comparing name marker .atLeast value, comparing name marker .atMost value])
      (Matches ctx doc (comparing name marker .equality value)) ∧
    MatchesIff ctx doc
      (.or [comparing name marker .atLeast value, comparing name marker .atMost value])
      (∃ stored, doc.field? (ctx.resolve name) = some stored ∧ SameType stored value) ∧
    MatchesIff ctx doc (.not (comparing name marker .atLeast value))
      (Matches ctx doc (comparing name marker .atMost value) ∧
        ¬ Matches ctx doc (comparing name marker .equality value)) :=
  ⟨equality_stored single value deep, both_ranges single value deep,
    either_range single value deep, not_at_least single value deep⟩

def lastInstant : AssertionValue := .long 9223372036854775807

def clock : CompileContext := ⟨.ofNamed [("exp", ⟨.single, true⟩)], .suffixed "_s", .none, 2⟩

def expiring (instant : Json) : Json := .object [("exp_s", instant)]

theorem clock_single : SingleValued clock "exp" .unknown := ⟨by decide, by decide⟩

-- The next instant needs an unsigned word and is rounded to the same double; a text is no instant.
theorem rounded_instants_cohere :
    SingleValued clock "exp" .unknown ∧ 2 ≤ clock.maxDepth ∧
    Matches clock (expiring (.int 9223372036854775808))
      (.and [comparing "exp" .unknown .atLeast lastInstant,
        comparing "exp" .unknown .atMost lastInstant]) ∧
    ¬ Matches clock (expiring (.string "9223372036854775808"))
      (.or [comparing "exp" .unknown .atLeast lastInstant,
        comparing "exp" .unknown .atMost lastInstant]) := by
  have deep : 2 ≤ clock.maxDepth := by decide
  refine ⟨clock_single, deep, ?_, ?_⟩
  · obtain ⟨_, both, _⟩ := range_tests_cohere clock (expiring (.int 9223372036854775808))
      lastInstant clock_single deep
    exact both.matches_iff.mpr ⟨_, rfl, by decide +kernel⟩
  · obtain ⟨_, _, either, _⟩ := range_tests_cohere clock
      (expiring (.string "9223372036854775808")) lastInstant clock_single deep
    rw [either.matches_iff]
    rintro ⟨stored, found, same⟩
    cases found
    exact same

end FilterQuery.Document
