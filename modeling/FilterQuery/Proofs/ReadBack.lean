import FilterQuery.Proofs.DocumentSteps
import FilterQuery.Proofs.QueryReader

/-!
The text of a compiled document expression is read as that expression. Compilation groups every
junction and negation it builds, so whatever it puts under another operator holds together at least
as tightly as a comparison; no name and no value of a filter can change how the text is read.
-/
namespace FilterQuery.Query

open Document

/-- What compiled expressions are: well grouped, and no looser than a comparison at their root. -/
def Operand (e : Expr) : Prop := WellGrouped e ∧ BinaryOp.eq.level ≤ level e

theorem junction_looser (op : Junction) : op.binary.level < BinaryOp.eq.level := by
  cases op <;> decide

-- A junction nests to the left, as its operators are read.
theorem join_well_grouped (op : Junction) {first : Expr} {rest : List Expr}
    (well : WellGrouped first) (fits : op.binary.level ≤ level first)
    (operands : ∀ e ∈ rest, Operand e) : WellGrouped (.join op.binary first rest) := by
  induction rest generalizing first with
  | nil => exact well
  | cons next rest ih =>
      obtain ⟨inside, tight⟩ := operands next List.mem_cons_self
      have joined : WellGrouped (.binary first op.binary next) :=
        .binary well inside fits (Nat.lt_of_lt_of_le (junction_looser op) tight)
      apply ih joined (Nat.le_refl _)
      intro e member
      exact operands e (List.mem_cons_of_mem next member)

theorem atom_tight (op : BinaryOp) : op.level < 6 := by
  cases op <;> decide

theorem operand_grouped {e : Expr} (well : WellGrouped e) : Operand (.grouped e) :=
  ⟨.grouped well, Nat.le_of_lt (atom_tight _)⟩

theorem operand_path (name : String) : Operand (.path name) :=
  ⟨.path name, Nat.le_of_lt (atom_tight _)⟩

-- Comparisons are read from the left, so any comparison may stand on the left of another one.
theorem operand_comparison (op : BinaryOp) (comparison : op.level = BinaryOp.eq.level)
    {left right : Expr} (first : Operand left) (second : WellGrouped right)
    (tight : BinaryOp.eq.level < level right) : Operand (.binary left op right) :=
  ⟨.binary first.1 second (comparison ▸ first.2) (comparison ▸ tight), Nat.le_of_eq comparison.symm⟩

theorem operand_value (op : BinaryOp) (comparison : op.level = BinaryOp.eq.level) {e : Expr}
    (operand : Operand e) (value : AssertionValue) : Operand (.binary e op (.ofValue value)) :=
  operand_comparison op comparison operand (.literal _) (atom_tight _)

theorem operand_condition {test : Test} {condition : Expr → Expr}
    (can : condition? test = some condition) (name : String) :
    Operand (condition (.path name)) := by
  cases test with
  | presence =>
      cases can
      exact ⟨.isNotMissing (.path name) (by simp [level, presenceLevel]),
        by simp [level, presenceLevel, BinaryOp.level]⟩
  | substring components =>
      cases can
      exact operand_comparison .like rfl (operand_path name) (.literal _) (atom_tight _)
  | compare op value =>
      cases op with
      | approximate => cases can
      | equality => cases can; exact operand_value .eq rfl (operand_path name) value
      | atLeast => cases can; exact operand_value .atLeast rfl (operand_path name) value
      | atMost => cases can; exact operand_value .atMost rfl (operand_path name) value

theorem operand_on_attribute {test : Test} {condition : Expr → Expr}
    (can : condition? test = some condition) (shape : Cardinality) (internal : String) :
    Operand (onAttribute shape internal condition) := by
  unfold onAttribute
  split
  · exact ⟨.any (.path internal) (operand_condition can _).1, Nat.le_of_lt (atom_tight _)⟩
  · exact operand_condition can internal

-- The step lemma. What is looser than a comparison is grouped before it becomes an operand.
theorem operand_step {ctx : CompileContext} {child : Filter → Compiled Expr → Prop}
    (operands : ∀ f d, child f d → Operand d.expression) {node : Filter} {c : Compiled Expr}
    (step : Document.Step ctx child node c) : Operand c.expression := by
  cases step with
  | not done =>
      obtain ⟨inside, tight⟩ := operands _ _ done
      exact operand_grouped (.not inside (Nat.le_trans (by decide) tight))
  | membership done members =>
      exact operand_grouped
        (operand_comparison .isIn rfl (operand_path _) (.array _) (atom_tight _)).1
  | @joined op _ first rest done plain =>
      have all : ∀ d ∈ first :: rest, Operand d.expression := by
        intro d inside
        obtain ⟨f, _, compiled⟩ := Compilation.exists_related done.flip d inside
        exact operands f d compiled
      obtain ⟨inside, tight⟩ := all first List.mem_cons_self
      have fits : op.binary.level ≤ level first.expression :=
        Nat.le_trans (Nat.le_of_lt (junction_looser op)) tight
      apply operand_grouped
      apply join_well_grouped op inside fits
      intro e member
      obtain ⟨d, later, rfl⟩ := List.mem_map.mp member
      exact all d (List.mem_cons_of_mem first later)
  | eachElement leaf named shape done =>
      exact ⟨.any (.path _) (operand_value .eq rfl (operands _ _ done) _).1,
        Nat.le_of_lt (atom_tight _)⟩
  | aliased leaf named shape done => exact operand_value .eq rfl (operands _ _ done) _
  | @bothShapes _ own value marker name leaf named shape =>
      have direct := operand_value .eq rfl (operand_path (ctx.resolve name)) value
      have search := operand_comparison .isIn rfl
        ⟨.literal (.ofValue value), Nat.le_of_lt (atom_tight _)⟩ (.path (ctx.resolve name))
        (atom_tight _)
      exact operand_grouped (.binary (.grouped direct.1) (.grouped search.1)
        (Nat.le_of_lt (atom_tight _)) (atom_tight _))
  | tested leaf named can settled => exact operand_on_attribute can _ _
  | lowercase named => exact ⟨.lower (.path _), Nat.le_of_lt (atom_tight _)⟩

theorem operand_compile_at {ctx : CompileContext} {levels depth : Nat} {f : Filter}
    {c : Compiled Expr} (compiled : (compileAt ctx levels depth f).result = .ok c) :
    Operand c.expression := by
  induction levels generalizing depth f c with
  | zero => simp [compileAt] at compiled
  | succ levels ih =>
      obtain ⟨left, node, same, parsed, step⟩ := compile_at_step compiled
      cases same
      exact operand_step (fun f d done => ih done) step

/-- The text of a compiled expression means that expression, and no other that compilation builds. -/
theorem compiled_reads_back {ctx : CompileContext} {f : Filter} {c : Compiled Expr}
    (compiled : (compile ctx f).result = .ok c) :
    read? c.expression.text = some c.expression ∧
      ∀ (ctx' : CompileContext) (f' : Filter) (c' : Compiled Expr),
        (compile ctx' f').result = .ok c' → c'.expression.text = c.expression.text →
          c'.expression = c.expression := by
  have back := read_text (operand_compile_at compiled).1
  constructor
  · exact back
  · intro ctx' f' c' compiled' same
    have other := read_text (operand_compile_at compiled').1
    rw [same, back] at other
    exact (Option.some.inj other).symm

/-- Names and values that would end a name or a string, were they written as they are. -/
def hostile : Filter :=
  .leaf "a` OR TRUE" (.compare .equality (.string "\" OR \"")) (some (.not
    (.equality "`b" (.string "\\")))) .single

theorem hostile_reads_back :
    ∃ c, (compile ⟨.empty, id, .none, 4⟩ hostile).result = .ok c ∧
      c.expression = .eq (.grouped (.not (matchBothShapes "`b" (.ofValue (.string "\\")))))
        (.ofValue (.string "\" OR \"")) ∧
      read? c.expression.text = some c.expression := by
  obtain ⟨c, compiled, built⟩ : ∃ c, (compile ⟨.empty, id, .none, 4⟩ hostile).result = .ok c ∧
      c.expression = .eq (.grouped (.not (matchBothShapes "`b" (.ofValue (.string "\\")))))
        (.ofValue (.string "\" OR \"")) := ⟨_, rfl, rfl⟩
  exact ⟨c, compiled, built, (compiled_reads_back compiled).1⟩

end FilterQuery.Query
