import FilterQuery.Proofs.DirectorySteps
import FilterQuery.Proofs.DocumentSteps

/-!
A leaf that takes its name from its alias, beside the same leaf with that name of its own. Both ask
about one stored attribute, but only under a name of its own does a leaf learn from the schema that
the attribute is an array or that its reads have to be consistent. So the two differ exactly on the
attributes of which the schema says so.
-/
namespace FilterQuery

def Filter.borrowing (test : Test) (aliasFilter : Filter) : Filter :=
  .leaf "" test (some aliasFilter) .unknown

section Leaves

variable {ctx : CompileContext} {own name : String} {test : Test} {aliasFilter : Option Filter}
  {marker : Cardinality}

theorem Document.test_compiles {condition : Expr → Expr} (can : condition? test = some condition)
    (other : test.kind ≠ .equality) (deep : 0 < ctx.maxDepth)
    (named : (Filter.leaf own test aliasFilter marker).effectiveName? = some name) :
    (compile ctx (.leaf own test aliasFilter marker)).result =
      .ok ⟨onAttribute (ctx.cardinality (.leaf own test aliasFilter marker)) (ctx.resolve name)
        condition, ctx.contributes (.leaf own test aliasFilter marker)⟩ := by
  obtain ⟨levels, limit⟩ := Nat.exists_eq_succ_of_ne_zero (Nat.ne_of_gt deep)
  rw [compile, limit]
  exact test_compiles_at can named (fun same => absurd same other) levels 0

theorem Directory.leaf_compiles (deep : 0 < ctx.maxDepth)
    (named : (Filter.leaf own test aliasFilter marker).effectiveName? = some name) :
    (compile ctx (.leaf own test aliasFilter marker)).result =
      .ok ⟨question test (ctx.resolve name),
        ctx.contributes (.leaf own test aliasFilter marker)⟩ := by
  obtain ⟨levels, limit⟩ := Nat.exists_eq_succ_of_ne_zero (Nat.ne_of_gt deep)
  rw [compile, limit, compileAt, ctx.enter_bind_result 0 rfl, leaf_compiles_at named]

end Leaves

section Names

variable {ctx : CompileContext} {name : String} {test : Test} {aliasFilter : Filter}

theorem borrowed_effective_name (test : Test) (lent : aliasFilter.name? = some name)
    (proper : name ≠ "") : (Filter.borrowing test aliasFilter).effectiveName? = some name := by
  have own : (Filter.borrowing test aliasFilter).properName? = none := rfl
  have found : aliasFilter.properName? = some name := by
    simp [Filter.properName?, lent, Option.filter, proper]
  rw [Filter.effectiveName?, own, Option.none_or]
  simp [Filter.borrowing, Filter.children, found]

-- The schema is asked about names that leaves have themselves.
theorem borrowed_cardinality : ctx.cardinality (.borrowing test aliasFilter) = .unknown := rfl

theorem borrowed_contributes : ctx.contributes (.borrowing test aliasFilter) = false := rfl

theorem own_contributes (proper : name ≠ "") :
    ctx.contributes (.test name test) = ctx.schema.requiresConsistency name :=
  ctx.leaf_contributes test none .unknown proper

theorem on_attribute_alike_iff {condition : Expr → Expr}
    (can : Document.condition? test = some condition) (shape : Cardinality) (internal : String) :
    condition (.path internal) = Document.onAttribute shape internal condition ↔
      shape ≠ .multi := by
  have comparison : ∀ element source inner,
      condition (.path internal) ≠ .any element source inner := by
    intro element source inner
    cases test with
    | presence => cases can; exact Expr.noConfusion
    | substring components => cases can; exact Expr.noConfusion
    | compare op value => cases op <;> cases can <;> exact Expr.noConfusion
  cases shape with
  | multi => simpa [Document.onAttribute, Cardinality.isMulti] using comparison _ _ _
  | _ => simp [Document.onAttribute, Cardinality.isMulti]

end Names

/-- A leaf named by its alias compiles like one with that name, but for two things: the attribute is
not searched where the schema calls it an array, and what the schema asks for in reading it is not
passed on. -/
theorem borrowed_name_alike_iff (ctx : CompileContext) (test : Test) (aliasFilter : Filter)
    {name : String} (deep : 1 ≤ ctx.maxDepth)
    (kind : test.kind ∈ [.greaterOrEqual, .lessOrEqual, .presence, .substring])
    (lent : aliasFilter.name? = some name) (proper : name ≠ "") :
    (∃ c d, (Document.compile ctx (.borrowing test aliasFilter)).result = .ok c ∧
      (Document.compile ctx (.test name test)).result = .ok d ∧
      (c.expression = d.expression ↔ ctx.schema.detect name ≠ .multi) ∧
      (c.consistency = d.consistency ↔ ctx.schema.requiresConsistency name = false)) ∧
    ∃ c d, (Directory.compile ctx (.borrowing test aliasFilter)).result = .ok c ∧
      (Directory.compile ctx (.test name test)).result = .ok d ∧
      c.expression = d.expression ∧
      (c.consistency = d.consistency ↔ ctx.schema.requiresConsistency name = false) := by
  have borrowed := borrowed_effective_name test lent proper
  have own : (Filter.test name test).effectiveName? = some name := by
    simp [Filter.effectiveName?, Filter.test, Filter.properName?, Filter.name?, Option.filter,
      proper]
  have flags : ctx.contributes (.borrowing test aliasFilter) = ctx.contributes (.test name test) ↔
      ctx.schema.requiresConsistency name = false := by
    rw [borrowed_contributes, own_contributes proper, eq_comm]
  constructor
  · obtain ⟨condition, can⟩ : ∃ condition, Document.condition? test = some condition := by
      rcases test with ⟨op, value⟩ | _ | _
      · cases op <;> first | exact ⟨_, rfl⟩ | simp [Test.kind, Comparison.kind] at kind
      · exact ⟨_, rfl⟩
      · exact ⟨_, rfl⟩
    have other : test.kind ≠ .equality := by
      rintro same
      simp [same] at kind
    refine ⟨_, _, Document.test_compiles can other deep borrowed,
      Document.test_compiles can other deep own, ?_, flags⟩
    change Document.onAttribute (ctx.cardinality (.borrowing test aliasFilter)) _ condition =
      Document.onAttribute (ctx.cardinality (.test name test)) _ condition ↔ _
    rw [borrowed_cardinality, ctx.own_cardinality test proper]
    exact on_attribute_alike_iff can _ _
  · exact ⟨_, _, Directory.leaf_compiles deep borrowed, Directory.leaf_compiles deep own, rfl, flags⟩

def listedMail : CompileContext :=
  ⟨.ofNamed [("mail", ⟨.multi, true⟩), ("exp", ⟨.single, true⟩)], .suffixed "_s", .none, 1⟩

-- Of a single value only the flag is lost.
theorem borrowed_substring_loses_flag :
    ∃ c d, (Document.compile listedMail (.borrowing (.substring ⟨some "a", [], none⟩)
        (.leaf "exp" .presence (some (.raw "")) .multi))).result = .ok c ∧
      (Document.compile listedMail (.test "exp" (.substring ⟨some "a", [], none⟩))).result = .ok d ∧
      c.expression = d.expression ∧ c.consistency ≠ d.consistency := by
  obtain ⟨⟨c, d, borrowed, own, expressions, flags⟩, _⟩ :=
    borrowed_name_alike_iff listedMail (.substring ⟨some "a", [], none⟩)
      (.leaf "exp" .presence (some (.raw "")) .multi) (Nat.le_refl 1) (by decide) rfl (by decide)
  refine ⟨c, d, borrowed, own, expressions.mpr (by decide), fun same => ?_⟩
  exact absurd (flags.mp same) (by decide)

theorem borrowed_presence_differs :
    (∃ c d, (Document.compile listedMail (.borrowing .presence (.lowercase "mail"))).result =
        .ok c ∧
      (Document.compile listedMail (.presence "mail")).result = .ok d ∧
      c.expression ≠ d.expression ∧ c.consistency ≠ d.consistency) ∧
    ∃ c d, (Directory.compile listedMail (.borrowing .presence (.lowercase "mail"))).result =
        .ok c ∧
      (Directory.compile listedMail (.presence "mail")).result = .ok d ∧
      c.expression = d.expression ∧ c.consistency ≠ d.consistency :=
  ⟨⟨_, _, rfl, rfl, Expr.noConfusion, by decide⟩, _, _, rfl, rfl, rfl, by decide⟩

end FilterQuery
