import FilterQuery.Proofs.BooleanAlgebra

/-!
Plain tests of an attribute that is taken to hold a single value. They always compile, and what
they say of a document is what they say of the one value that it stores; so a filter that is put
together from them accepts a document by its own truth.
-/
namespace FilterQuery.Document

open Meaning

/-- A name, with the marker of the leaves under it, for which a leaf assumes a single value. -/
structure SingleValued (ctx : CompileContext) (name : String) (marker : Cardinality) : Prop where
  proper : name ≠ ""
  shape : marker.orElse (ctx.schema.detect name) = .single

def plain (name : String) (marker : Cardinality) (test : Test) : Filter :=
  .leaf name test none marker

def comparing (name : String) (marker : Cardinality) (op : Comparison) (value : AssertionValue) :
    Filter :=
  plain name marker (.compare op value)

variable {ctx : CompileContext} {doc : Json} {f : Filter} {name : String} {marker : Cardinality}
  {test : Test}

namespace SingleValued

variable {tests : List Test}

theorem named (single : SingleValued ctx name marker) (test : Test) :
    (plain name marker test).effectiveName? = some name :=
  own_name_iff.mpr ⟨single.proper, rfl⟩

theorem cardinality (single : SingleValued ctx name marker) (test : Test) :
    ctx.cardinality (plain name marker test) = .single := by
  have own : (plain name marker test).properName? = some name := by
    simp [plain, Filter.properName?, Filter.name?, Option.filter, single.proper]
  rw [CompileContext.cardinality, own]
  exact single.shape

theorem compiles (single : SingleValued ctx name marker) {condition : Expr → Expr}
    (can : condition? test = some condition) (levels depth : Nat) :
    (compileAt ctx (levels + 1) depth (plain name marker test)).failure? = none := by
  have known : ctx.cardinality (plain name marker test) ≠ .unknown := by
    simp [single.cardinality]
  rw [← Compilation.succeeds_iff_no_failure]
  exact ⟨_, test_compiles_at can (single.named test) (fun _ => ⟨rfl, known⟩) levels depth⟩

theorem compiles_first (single : SingleValued ctx name marker) {condition : Expr → Expr}
    (can : condition? test = some condition) (deep : 1 ≤ ctx.maxDepth) :
    (compile ctx (plain name marker test)).failure? = none := by
  obtain ⟨levels, limit⟩ := Nat.exists_eq_add_of_le' deep
  rw [compile, limit]
  exact single.compiles can levels 0

theorem junction_compiles (single : SingleValued ctx name marker) (op : Junction)
    (nonempty : tests ≠ []) (can : ∀ test ∈ tests, condition? test ≠ none)
    (deep : 2 ≤ ctx.maxDepth) :
    (compile ctx (.junction op (tests.map (plain name marker)))).failure? = none := by
  obtain ⟨levels, limit⟩ := Nat.exists_eq_add_of_le' deep
  rw [compile, limit, junction_failure_at _ _ _ (by simpa using nonempty),
    List.findSome?_eq_none_iff]
  intro leaf inside
  obtain ⟨test, member, rfl⟩ := List.mem_map.mp inside
  obtain ⟨condition, found⟩ := Option.ne_none_iff_exists'.mp (can test member)
  exact single.compiles found levels 1

end SingleValued

variable [Like.PatternRoom]

def Matches (ctx : CompileContext) (doc : Json) (f : Filter) : Prop :=
  ∃ c, (compile ctx f).result = .ok c ∧ c.expression.accepts doc

/-- The filter compiles, and its expression accepts the document exactly under a condition. -/
def MatchesIff (ctx : CompileContext) (doc : Json) (f : Filter) (condition : Prop) : Prop :=
  ∃ c, (compile ctx f).result = .ok c ∧ (c.expression.accepts doc ↔ condition)

def truthIn (ctx : CompileContext) (doc : Json) (f : Filter) : Option Bool :=
  meaningAt ctx ctx.maxDepth (Record.ofDocument doc) f

theorem accepts_compiled {c : Compiled Expr} (compiled : (compile ctx f).result = .ok c) :
    c.expression.accepts doc ↔ truthIn ctx doc f = some true := by
  rw [Expr.accepts, beq_iff_eq, truth_compile_at compiled (Nat.le_refl _), truthIn]

theorem matches_iff_truth (compiles : (compile ctx f).failure? = none) :
    Matches ctx doc f ↔ truthIn ctx doc f = some true := by
  obtain ⟨c, compiled⟩ := (Compilation.succeeds_iff_no_failure _).mpr compiles
  constructor
  · rintro ⟨d, done, accepted⟩
    exact (accepts_compiled done).mp accepted
  · intro holds
    exact ⟨c, compiled, (accepts_compiled compiled).mpr holds⟩

theorem matchesIff_of_truth {condition : Prop} (compiles : (compile ctx f).failure? = none)
    (holds : truthIn ctx doc f = some true ↔ condition) : MatchesIff ctx doc f condition := by
  obtain ⟨c, compiled⟩ := (Compilation.succeeds_iff_no_failure _).mpr compiles
  exact ⟨c, compiled, (accepts_compiled compiled).trans holds⟩

theorem MatchesIff.matches_iff {condition : Prop} (accepted : MatchesIff ctx doc f condition) :
    Matches ctx doc f ↔ condition := by
  obtain ⟨c, compiled, holds⟩ := accepted
  constructor
  · rintro ⟨d, done, accepted⟩
    cases compiled.symm.trans done
    exact holds.mp accepted
  · intro condition
    exact ⟨c, compiled, holds.mpr condition⟩

namespace SingleValued

theorem meaning (single : SingleValued ctx name marker) (test : Test) (levels : Nat)
    (r : Record) :
    meaningAt ctx (levels + 1) r (plain name marker test) = judge (r (ctx.resolve name)) test := by
  have judged : meaningAt ctx (levels + 1) r (plain name marker test) =
      judgeLeaf (valueAt ctx levels) r (ctx.resolve name) test none .single := by
    change (plain name marker test).effectiveName?.bind _ = _
    rw [single.named, Option.bind_some, single.cardinality]
  rw [judged]
  cases test with
  | compare op value => cases op <;> rfl
  | _ => rfl

variable {tests : List Test} {accepted : Prop}

theorem truth (single : SingleValued ctx name marker) (test : Test) (deep : 1 ≤ ctx.maxDepth) :
    truthIn ctx doc (plain name marker test) = judge (doc.field? (ctx.resolve name)) test := by
  obtain ⟨levels, limit⟩ := Nat.exists_eq_add_of_le' deep
  rw [truthIn, limit, single.meaning]
  rfl

theorem matches_iff (single : SingleValued ctx name marker) {condition : Expr → Expr}
    (can : condition? test = some condition) (deep : 1 ≤ ctx.maxDepth) :
    Matches ctx doc (plain name marker test) ↔
      judge (doc.field? (ctx.resolve name)) test = some true := by
  rw [matches_iff_truth (single.compiles_first can deep), single.truth test deep]

theorem matchesIff (single : SingleValued ctx name marker) {condition : Expr → Expr}
    (can : condition? test = some condition) (deep : 1 ≤ ctx.maxDepth)
    (holds : judge (doc.field? (ctx.resolve name)) test = some true ↔ accepted) :
    MatchesIff ctx doc (plain name marker test) accepted := by
  apply matchesIff_of_truth (single.compiles_first can deep)
  rwa [single.truth test deep]

theorem not_matchesIff (single : SingleValued ctx name marker) {condition : Expr → Expr}
    (can : condition? test = some condition) (deep : 2 ≤ ctx.maxDepth)
    (fails : judge (doc.field? (ctx.resolve name)) test = some false ↔ accepted) :
    MatchesIff ctx doc (.not (plain name marker test)) accepted := by
  obtain ⟨levels, limit⟩ := Nat.exists_eq_add_of_le' deep
  apply matchesIff_of_truth
  · rw [compile, limit, not_failure]
    exact single.compiles can levels 1
  · rw [truthIn, limit, meaning_not, single.meaning, ← fails]
    simp [Record.ofDocument]

theorem junction_matchesIff (single : SingleValued ctx name marker) {op : Junction}
    (nonempty : tests ≠ []) (can : ∀ test ∈ tests, condition? test ≠ none)
    (deep : 2 ≤ ctx.maxDepth)
    (holds : op.verdict (tests.map (judge (doc.field? (ctx.resolve name)))) = some true ↔
      accepted) :
    MatchesIff ctx doc (.junction op (tests.map (plain name marker))) accepted := by
  obtain ⟨levels, limit⟩ := Nat.exists_eq_add_of_le' deep
  apply matchesIff_of_truth (single.junction_compiles op nonempty can deep)
  have each : (tests.map (plain name marker)).map
      (meaningAt ctx (levels + 1) (Record.ofDocument doc)) =
      tests.map (judge (doc.field? (ctx.resolve name))) := by
    rw [List.map_map]
    exact List.map_congr_left fun test _ => single.meaning test levels _
  rw [truthIn, limit, meaning_junction, each]
  exact holds

end SingleValued

end FilterQuery.Document
