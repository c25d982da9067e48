import FilterQuery.Compile.Document
import FilterQuery.Proofs.Results
import FilterQuery.Proofs.Truth

/-!
What one node contributes to a compiled document expression. A successful compilation looks at one
node, compiles some of its parts and puts their expressions together in one of the ways of `Step`;
everything that holds of all compiled expressions is proved by cases on the step and by induction
on the levels that are left.
-/
namespace FilterQuery.Document

/-- The condition that a test puts on a value. There is none for an approximate match. -/
def condition? : Test → Option (Expr → Expr)
  | .compare .equality value => some (.eq · (.ofValue value))
  | .compare .atMost value => some (.binary · .atMost (.ofValue value))
  | .compare .atLeast value => some (.binary · .atLeast (.ofValue value))
  | .compare .approximate _ => none
  | .presence => some .isNotMissing
  | .substring components =>
      some (.binary · .like (.literal (.string (Like.patternText components))))

def Step.flag (ctx : CompileContext) (node : Filter) (tested : Compiled Expr) : Bool :=
  if ctx.cardinality node = .unknown then tested.consistency || ctx.contributes node
  else ctx.contributes node

/-- The ways of compiling a node from the compiled forms of its parts. -/
inductive Step (ctx : CompileContext) (child : Filter → Compiled Expr → Prop) :
    Filter → Compiled Expr → Prop where
  | not {operand compiled} (done : child operand compiled) :
      Step ctx child (.not operand) ⟨.grouped (.not compiled.expression), compiled.consistency⟩
  | membership {operands compiled name values} (done : List.Forall₂ child operands compiled)
      (members : memberValues? ctx operands = some (name, values)) :
      Step ctx child (.junction .or operands)
        ⟨membership (ctx.resolve name) values, Compiled.anyConsistency compiled⟩
  | joined {op operands first rest} (done : List.Forall₂ child operands (first :: rest))
      (plain : op = .or → memberValues? ctx operands = none) :
      Step ctx child (.junction op operands)
        ⟨.grouped (.join op.binary first.expression (rest.map (·.expression))),
          Compiled.anyConsistency (first :: rest)⟩
  | eachElement {node own value aliasFilter marker name tested}
      (leaf : node = .leaf own (.compare .equality value) (some aliasFilter) marker)
      (named : node.effectiveName? = some name) (shape : ctx.cardinality node = .multi)
      (done : child (aliasFilter.withName (elementName (ctx.resolve name))) tested) :
      Step ctx child node
        ⟨.any (elementName (ctx.resolve name)) (.path (ctx.resolve name))
          (.eq tested.expression (.ofValue value)), ctx.contributes node⟩
  | aliased {node own value aliasFilter marker name tested}
      (leaf : node = .leaf own (.compare .equality value) (some aliasFilter) marker)
      (named : node.effectiveName? = some name) (shape : ctx.cardinality node ≠ .multi)
      (done : child aliasFilter tested) :
      Step ctx child node
        ⟨.eq tested.expression (.ofValue value), Step.flag ctx node tested⟩
  | bothShapes {node own value marker name}
      (leaf : node = .leaf own (.compare .equality value) none marker)
      (named : node.effectiveName? = some name) (shape : ctx.cardinality node = .unknown) :
      Step ctx child node
        ⟨matchBothShapes (ctx.resolve name) (.ofValue value), ctx.contributes node⟩
  | tested {node own test aliasFilter marker name condition}
      (leaf : node = .leaf own test aliasFilter marker)
      (named : node.effectiveName? = some name) (can : condition? test = some condition)
      (settled : test.kind = .equality → aliasFilter = none ∧ ctx.cardinality node ≠ .unknown) :
      Step ctx child node
        ⟨onAttribute (ctx.cardinality node) (ctx.resolve name) condition, ctx.contributes node⟩
  | lowercase {name} (named : name ≠ "") :
      Step ctx child (.lowercase name)
        ⟨.lower (.path name), ctx.contributes (.lowercase name)⟩

section Parts

variable {ctx : CompileContext} {child : Filter → Compiled Expr → Prop} {c : Compiled Expr}

theorem Step.not_operand {operand : Filter} (step : Step ctx child (.not operand) c) :
    ∃ compiled, child operand compiled := by
  cases step with
  | not done => exact ⟨_, done⟩
  | eachElement leaf => cases leaf
  | aliased leaf => cases leaf
  | bothShapes leaf => cases leaf
  | tested leaf => cases leaf

theorem Step.junction_operands {op : Junction} {operands : List Filter}
    (step : Step ctx child (.junction op operands) c) :
    ∃ compiled, List.Forall₂ child operands compiled := by
  cases step with
  | membership done => exact ⟨_, done⟩
  | joined done => exact ⟨_, done⟩
  | eachElement leaf => cases leaf
  | aliased leaf => cases leaf
  | bothShapes leaf => cases leaf
  | tested leaf => cases leaf

theorem Step.leaf_named {own : String} {test : Test} {aliasFilter : Option Filter}
    {marker : Cardinality} (step : Step ctx child (.leaf own test aliasFilter marker) c) :
    ∃ name, (Filter.leaf own test aliasFilter marker).effectiveName? = some name := by
  cases step with
  | eachElement _ named => exact ⟨_, named⟩
  | aliased _ named => exact ⟨_, named⟩
  | bothShapes _ named => exact ⟨_, named⟩
  | tested _ named => exact ⟨_, named⟩

end Parts

section Inversion

variable {ctx : CompileContext} {child : Filter → Compilation (Compiled Expr)}

theorem joined_ok_iff (op : Junction) (operands : List (Compiled Expr)) (e : Expr) :
    (joined op operands).result = .ok e ↔ ∃ first rest, operands = first :: rest ∧
      e = .grouped (.join op.binary first.expression (rest.map (·.expression))) := by
  cases operands with
  | nil => simp [joined]
  | cons first rest =>
      cases op <;> simp [joined, Junction.binary, eq_comm]

theorem junction_step {op : Junction} {operands : List Filter} {c : Compiled Expr}
    (compiled : (compileJunction ctx child op operands).result = .ok c) :
    Step ctx (fun f d => (child f).result = .ok d) (.junction op operands) c := by
  unfold compileJunction at compiled
  split at compiled
  · simp at compiled
  · obtain ⟨parts, done, later⟩ := (Compilation.bind_ok_iff _ _ _).mp compiled
    have parts_done := (Compilation.each_ok_iff _ _ _).mp done
    split at later
    · rename_i name values members
      rw [Compilation.result_log_bind, Compilation.pure_ok_iff] at later
      subst later
      exact .membership parts_done members
    · rename_i ordinary
      obtain ⟨e, whole, last⟩ := (Compilation.bind_ok_iff _ _ _).mp later
      obtain ⟨first, rest, rfl, rfl⟩ := (joined_ok_iff _ _ _).mp whole
      rw [Compilation.pure_ok_iff] at last
      subst last
      refine .joined parts_done fun isOr => ?_
      cases found : memberValues? ctx operands with
      | none => rfl
      | some pair => exact (ordinary pair.1 pair.2 isOr found).elim

theorem plain_equality_step {own : String} {value : AssertionValue} {marker : Cardinality}
    {c : Compiled Expr}
    (compiled : (compileEquality ctx child
      (ctx.contributes (.leaf own (.compare .equality value) none marker))
      (.leaf own (.compare .equality value) none marker) value none).result = .ok c) :
    Step ctx (fun f d => (child f).result = .ok d)
      (.leaf own (.compare .equality value) none marker) c := by
  obtain ⟨internal, resolved, compiled⟩ := (Compilation.bind_ok_iff _ _ _).mp compiled
  obtain ⟨name, named, rfl⟩ := (CompileContext.internalName_ok_iff _ _ _).mp resolved
  cases shape : ctx.cardinality (.leaf own (.compare .equality value) none marker) with
  | unknown =>
      simp only [shape, Compilation.result_log_bind, Compilation.pure_ok_iff] at compiled
      subst compiled
      exact .bothShapes rfl named shape
  | _ =>
      simp only [shape, Compilation.pure_ok_iff] at compiled
      subst compiled
      rw [← shape]
      exact .tested rfl named rfl fun _ => ⟨rfl, by simp [shape]⟩

theorem aliased_equality_step {own : String} {value : AssertionValue} {aliasFilter : Filter}
    {marker : Cardinality} {c : Compiled Expr}
    (compiled : (compileEquality ctx child
      (ctx.contributes (.leaf own (.compare .equality value) (some aliasFilter) marker))
      (.leaf own (.compare .equality value) (some aliasFilter) marker) value
      (some aliasFilter)).result = .ok c) :
    Step ctx (fun f d => (child f).result = .ok d)
      (.leaf own (.compare .equality value) (some aliasFilter) marker) c := by
  obtain ⟨internal, resolved, compiled⟩ := (Compilation.bind_ok_iff _ _ _).mp compiled
  obtain ⟨name, named, rfl⟩ := (CompileContext.internalName_ok_iff _ _ _).mp resolved
  cases shape : ctx.cardinality (.leaf own (.compare .equality value) (some aliasFilter) marker) with
  | multi =>
      simp only [shape] at compiled
      obtain ⟨tested, done, compiled⟩ := (Compilation.bind_ok_iff _ _ _).mp compiled
      rw [Compilation.pure_ok_iff] at compiled
      subst compiled
      exact .eachElement rfl named shape done
  | _ =>
      simp only [shape] at compiled
      obtain ⟨tested, done, compiled⟩ := (Compilation.bind_ok_iff _ _ _).mp compiled
      rw [Compilation.pure_ok_iff] at compiled
      subst compiled
      -- Single and unknown shapes build one expression; only their flags differ.
      have built : Step ctx (fun f d => (child f).result = .ok d) _ _ :=
        .aliased rfl named (by simp [shape]) done
      simpa [Step.flag, shape] using built

theorem test_step {own : String} {test : Test} {aliasFilter : Option Filter}
    {marker : Cardinality} {condition : Expr → Expr} {c : Compiled Expr}
    (can : condition? test = some condition) (other : test.kind ≠ .equality)
    (compiled : (compileTest ctx (ctx.contributes (.leaf own test aliasFilter marker))
      (.leaf own test aliasFilter marker) condition).result = .ok c) :
    Step ctx (fun f d => (child f).result = .ok d) (.leaf own test aliasFilter marker) c := by
  obtain ⟨internal, resolved, compiled⟩ := (Compilation.bind_ok_iff _ _ _).mp compiled
  obtain ⟨name, named, rfl⟩ := (CompileContext.internalName_ok_iff _ _ _).mp resolved
  rw [Compilation.pure_ok_iff] at compiled
  subst compiled
  exact .tested rfl named can fun same => absurd same other

-- One case for each kind of node; approximate matches and RAW text never compile.
theorem node_step {node : Filter} {c : Compiled Expr}
    (compiled : (compileNode ctx child node).result = .ok c) :
    Step ctx (fun f d => (child f).result = .ok d) node c := by
  cases node with
  | not operand =>
      obtain ⟨part, done, compiled⟩ := (Compilation.bind_ok_iff _ _ _).mp compiled
      rw [Compilation.pure_ok_iff] at compiled
      subst compiled
      exact .not done
  | junction op operands => exact junction_step compiled
  | raw text => simp [compileNode] at compiled
  | lowercase name =>
      by_cases empty : name = ""
      · simp [compileNode, empty] at compiled
      · simp only [compileNode, empty, if_false, Compilation.result_succeed,
          Except.ok.injEq] at compiled
        subst compiled
        exact .lowercase empty
  | leaf own test aliasFilter marker =>
      cases test with
      | presence => exact test_step rfl (by simp [Test.kind]) compiled
      | substring components => exact test_step rfl (by simp [Test.kind]) compiled
      | compare op value =>
          cases op with
          | equality =>
              cases aliasFilter with
              | none => exact plain_equality_step compiled
              | some aliasFilter => exact aliased_equality_step compiled
          | atLeast => exact test_step rfl (by simp [Test.kind, Comparison.kind]) compiled
          | atMost => exact test_step rfl (by simp [Test.kind, Comparison.kind]) compiled
          | approximate => simp [compileNode] at compiled

theorem compile_at_step {levels depth : Nat} {f : Filter} {c : Compiled Expr}
    (compiled : (compileAt ctx levels depth f).result = .ok c) :
    ∃ left node, levels = left + 1 ∧ ctx.parsed? f = some node ∧
      Step ctx (fun g d => (compileAt ctx left (depth + 1) g).result = .ok d) node c := by
  cases levels with
  | zero => simp [compileAt] at compiled
  | succ left =>
      obtain ⟨node, entered, compiled⟩ := (Compilation.bind_ok_iff _ _ _).mp compiled
      exact ⟨left, node, rfl, (CompileContext.enter_ok_iff _ _ _ _).mp entered,
        node_step compiled⟩

end Inversion

-- The way back for a test: once its name is known and its shape settled, nothing can fail.
theorem test_compiles_at {ctx : CompileContext} {own name : String} {test : Test}
    {aliasFilter : Option Filter} {marker : Cardinality} {condition : Expr → Expr}
    (can : condition? test = some condition)
    (named : (Filter.leaf own test aliasFilter marker).effectiveName? = some name)
    (settled : test.kind = .equality → aliasFilter = none ∧
      ctx.cardinality (.leaf own test aliasFilter marker) ≠ .unknown) (levels depth : Nat) :
    (compileAt ctx (levels + 1) depth (.leaf own test aliasFilter marker)).result =
      .ok ⟨onAttribute (ctx.cardinality (.leaf own test aliasFilter marker)) (ctx.resolve name)
        condition, ctx.contributes (.leaf own test aliasFilter marker)⟩ := by
  have resolved : (ctx.internalName (.leaf own test aliasFilter marker)).result =
      .ok (ctx.resolve name) := (ctx.internalName_ok_iff _ _).mpr ⟨name, named, rfl⟩
  rw [compileAt, ctx.enter_bind_result depth rfl]
  cases test with
  | presence => cases can; exact (Compilation.bind_ok_iff _ _ _).mpr ⟨_, resolved, rfl⟩
  | substring components =>
      cases can
      exact (Compilation.bind_ok_iff _ _ _).mpr ⟨_, resolved, rfl⟩
  | compare op value =>
      cases op with
      | approximate => cases can
      | atLeast => cases can; exact (Compilation.bind_ok_iff _ _ _).mpr ⟨_, resolved, rfl⟩
      | atMost => cases can; exact (Compilation.bind_ok_iff _ _ _).mpr ⟨_, resolved, rfl⟩
      | equality =>
          cases can
          obtain ⟨rfl, known⟩ := settled rfl
          refine (Compilation.bind_ok_iff _ _ _).mpr ⟨_, resolved, ?_⟩
          cases shape : ctx.cardinality (.leaf own (.compare .equality value) none marker) with
          | unknown => exact absurd shape known
          | _ => rfl

end FilterQuery.Document
