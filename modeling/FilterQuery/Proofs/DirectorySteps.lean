import FilterQuery.Compile.Directory
import FilterQuery.Proofs.Results

/-!
What one node contributes to a compiled directory query. There is one way for each kind of node that
compiles: negations and junctions put together the queries of their operands, and a leaf asks its
question of the name that the store keeps.
-/
namespace FilterQuery.Directory

/-- The question of a test about a stored attribute. -/
def question : Test → String → DirectoryQuery
  | .compare op value, name => .compare op name value.directoryText
  | .presence, name => .presence name
  | .substring components, name => .substring name components

inductive Step (ctx : CompileContext) (child : Filter → Compiled DirectoryQuery → Prop) :
    Filter → Compiled DirectoryQuery → Prop where
  | not {operand compiled} (done : child operand compiled) :
      Step ctx child (.not operand) ⟨.not compiled.expression, compiled.consistency⟩
  | junction {op operands compiled} (some : operands ≠ [])
      (done : List.Forall₂ child operands compiled) :
      Step ctx child (.junction op operands)
        ⟨.junction op (compiled.map (·.expression)), Compiled.anyConsistency compiled⟩
  | leaf {node own test aliasFilter marker name}
      (leaf : node = .leaf own test aliasFilter marker) (named : node.effectiveName? = some name) :
      Step ctx child node ⟨question test (ctx.resolve name), ctx.contributes node⟩

theorem Step.not_raw {ctx : CompileContext} {child : Filter → Compiled DirectoryQuery → Prop}
    {node : Filter} {c : Compiled DirectoryQuery} (step : Step ctx child node c) :
    node.kind ≠ .raw := by
  cases step with
  | not => simp [Filter.kind]
  | @junction op => cases op <;> simp [Filter.kind, Junction.kind]
  | @leaf _ own test _ _ _ leaf =>
      subst leaf
      rcases test with ⟨op, value⟩ | _ | _
      · cases op <;> simp [Filter.kind, Test.kind, Comparison.kind]
      · simp [Filter.kind, Test.kind]
      · simp [Filter.kind, Test.kind]

theorem expressions_nonempty {child : Filter → Compiled DirectoryQuery → Prop}
    {operands : List Filter} {compiled : List (Compiled DirectoryQuery)} (some : operands ≠ [])
    (done : List.Forall₂ child operands compiled) : compiled.map (·.expression) ≠ [] := by
  rintro none
  rw [List.map_eq_nil_iff] at none
  subst none
  cases done
  exact some rfl

variable {ctx : CompileContext} {child : Filter → Compilation (Compiled DirectoryQuery)}

theorem leaf_step {own : String} {test : Test} {aliasFilter : Option Filter} {marker : Cardinality}
    {c : Compiled DirectoryQuery}
    (compiled : (compileLeaf ctx (.leaf own test aliasFilter marker) (question test)).result =
      .ok c) :
    Step ctx (fun f d => (child f).result = .ok d) (.leaf own test aliasFilter marker) c := by
  obtain ⟨internal, resolved, last⟩ := (Compilation.bind_ok_iff _ _ _).mp compiled
  obtain ⟨name, named, rfl⟩ := (CompileContext.internalName_ok_iff _ _ _).mp resolved
  rw [Compilation.pure_ok_iff] at last
  subst last
  exact .leaf rfl named

theorem leaf_compiles_at {own name : String} {test : Test} {aliasFilter : Option Filter}
    {marker : Cardinality}
    (named : (Filter.leaf own test aliasFilter marker).effectiveName? = some name) :
    (compileNode ctx child (.leaf own test aliasFilter marker)).result =
      .ok ⟨question test (ctx.resolve name),
        ctx.contributes (.leaf own test aliasFilter marker)⟩ := by
  have resolved : (ctx.internalName (.leaf own test aliasFilter marker)).result =
      .ok (ctx.resolve name) := (ctx.internalName_ok_iff _ _).mpr ⟨name, named, rfl⟩
  cases test <;> exact (Compilation.bind_ok_iff _ _ _).mpr ⟨_, resolved, rfl⟩

theorem node_step {node : Filter} {c : Compiled DirectoryQuery}
    (compiled : (compileNode ctx child node).result = .ok c) :
    Step ctx (fun f d => (child f).result = .ok d) node c := by
  cases node with
  | lowercase name => simp [compileNode] at compiled
  | raw text => simp [compileNode] at compiled
  | leaf own test aliasFilter marker => cases test <;> exact leaf_step compiled
  | not operand =>
      obtain ⟨part, done, last⟩ := (Compilation.bind_ok_iff _ _ _).mp compiled
      rw [Compilation.pure_ok_iff] at last
      subst last
      exact .not done
  | junction op operands =>
      simp only [compileNode] at compiled
      split at compiled
      · simp at compiled
      · rename_i some
        obtain ⟨parts, done, last⟩ := (Compilation.bind_ok_iff _ _ _).mp compiled
        rw [Compilation.pure_ok_iff] at last
        subst last
        exact .junction (by simpa using some) ((Compilation.each_ok_iff _ _ _).mp done)

theorem compile_at_step {levels depth : Nat} {f : Filter} {c : Compiled DirectoryQuery}
    (compiled : (compileAt ctx levels depth f).result = .ok c) :
    ∃ left node, levels = left + 1 ∧ ctx.parsed? f = some node ∧
      Step ctx (fun g d => (compileAt ctx left (depth + 1) g).result = .ok d) node c := by
  cases levels with
  | zero => simp [compileAt] at compiled
  | succ left =>
      obtain ⟨node, entered, compiled⟩ := (Compilation.bind_ok_iff _ _ _).mp compiled
      exact ⟨left, node, rfl, (CompileContext.enter_ok_iff _ _ _ _).mp entered,
        node_step compiled⟩

end FilterQuery.Directory
