import FilterQuery.Proofs.DirectorySteps
import FilterQuery.Proofs.PlainDisjunction

/-!
When a compiled query has to wait for the index. A node asks for it under its own name; the flag of
a filter is set exactly when such a node is reached over the edges that forward the flag. Operands
always do. An alias does so in one place: under an equality of unknown shape in a document
expression. A stored name decides nothing here, nor does the form that a disjunction takes.
-/
namespace FilterQuery

open Compilation

/-- A node that asks for consistent reads under its own name. -/
def Contributes (schema : Schema) (node : Filter) : Prop :=
  ∃ name, node.name? = some name ∧ name ≠ "" ∧ schema.requiresConsistency name

/-- An attribute whose shape neither a marker nor its name nor the schema settles. -/
def ShapeUnknown (schema : Schema) (own : String) (marker : Cardinality) : Prop :=
  marker = .unknown ∧ (own = "" ∨
    own.toLower ≠ objectClass.toLower ∧ schema.cardinality own = .unknown)

/-- The edges over which a document expression takes the flag of a part. -/
inductive Document.Forwards (schema : Schema) : Filter → Filter → Prop where
  | operand {node g : Filter} (inside : node.HasOperand g) : Forwards schema node g
  | aliased {own : String} {value : AssertionValue} {g : Filter} {marker : Cardinality}
      (shape : ShapeUnknown schema own marker) :
      Forwards schema (.leaf own (.compare .equality value) (some g) marker) g

section Nodes

variable (ctx : CompileContext)

theorem contributes_iff (node : Filter) :
    ctx.contributes node = true ↔ Contributes ctx.schema node := by
  unfold CompileContext.contributes Contributes Filter.properName?
  cases node.name? with
  | none => simp
  | some name => by_cases empty : name = "" <;> simp [Option.filter, empty]

theorem nameless_silent {node : Filter} (nameless : node.name? = none) (schema : Schema) :
    ¬ Contributes schema node := by
  rintro ⟨name, named, _⟩
  rw [nameless] at named
  cases named

theorem cardinality_unknown_iff (own : String) (test : Test) (aliasFilter : Option Filter)
    (marker : Cardinality) :
    ctx.cardinality (.leaf own test aliasFilter marker) = .unknown ↔
      ShapeUnknown ctx.schema own marker := by
  unfold CompileContext.cardinality ShapeUnknown Filter.properName? Schema.detect
  rw [ne_eq, ← is_object_class_iff]
  by_cases empty : own = ""
  · cases marker <;> simp [Filter.marker, Filter.name?, Cardinality.orElse, Option.filter, empty]
  · by_cases fixed : isObjectClass own <;> cases marker <;>
      simp [Filter.marker, Filter.name?, Cardinality.orElse, Option.filter, empty, fixed]

theorem any_consistency_iff {α : Type} {child : Filter → Compiled α → Prop} {Flagged : Filter → Prop}
    (parts : ∀ g d, child g d → (d.consistency = true ↔ Flagged g)) {operands : List Filter}
    {compiled : List (Compiled α)} (done : List.Forall₂ child operands compiled) :
    Compiled.anyConsistency compiled = true ↔ ∃ g ∈ operands, Flagged g := by
  unfold Compiled.anyConsistency
  induction done with
  | nil => simp
  | cons here _ ih => rw [List.any_cons, Bool.or_eq_true, ih, parts _ _ here, List.exists_mem_cons_iff]

-- A filter is flagged for its own node or for what an edge forwards.
theorem reaches_exists_iff {parsed? : Filter → Option Filter} {edge : Filter → Filter → Prop}
    {f node : Filter} (parsed : parsed? f = some node) (Asks : Filter → Prop) :
    (∃ h, f.Reaches parsed? edge h ∧ Asks h) ↔
      Asks node ∨ ∃ g, edge node g ∧ ∃ h, g.Reaches parsed? edge h ∧ Asks h := by
  simp only [Filter.reaches_iff parsed]
  constructor
  · rintro ⟨h, rfl | ⟨g, next, reached⟩, asks⟩
    · exact .inl asks
    · exact .inr ⟨g, next, h, reached, asks⟩
  · rintro (own | ⟨g, next, h, reached, asks⟩)
    · exact ⟨node, .inl rfl, own⟩
    · exact ⟨h, .inr ⟨g, next, reached⟩, asks⟩

end Nodes

namespace Directory

variable {ctx : CompileContext} {f node : Filter} {c : Compiled DirectoryQuery}

theorem flag_step {child : Filter → Compiled DirectoryQuery → Prop} {Flagged : Filter → Prop}
    (parts : ∀ g d, child g d → (d.consistency = true ↔ Flagged g))
    (step : Step ctx child node c) :
    c.consistency = true ↔ Contributes ctx.schema node ∨ ∃ g, node.HasOperand g ∧ Flagged g := by
  cases step with
  | @not operand compiled done =>
      rw [or_iff_right (nameless_silent rfl _), parts _ _ done]
      simp [Filter.HasOperand, Filter.operands]
  | junction some done =>
      rw [or_iff_right (nameless_silent rfl _), any_consistency_iff parts done]
      rfl
  | leaf leaf named =>
      subst leaf
      rw [contributes_iff, or_iff_left]
      rintro ⟨g, inside, _⟩
      cases inside

theorem flag_compile_at {levels depth : Nat}
    (compiled : (compileAt ctx levels depth f).result = .ok c) :
    c.consistency = true ↔
      ∃ node, f.Reaches ctx.parsed? Filter.HasOperand node ∧ Contributes ctx.schema node := by
  induction levels generalizing depth f c with
  | zero => simp [compileAt] at compiled
  | succ levels ih =>
      obtain ⟨left, node, same, parsed, step⟩ := compile_at_step compiled
      cases same
      rw [flag_step (fun g d done => ih done) step, reaches_exists_iff parsed]

end Directory

namespace Document

variable {ctx : CompileContext} {f node : Filter} {c : Compiled Expr}

theorem forwards_compound (schema : Schema) (node : Filter) (compound : node.name? = none)
    (g : Filter) :
    Forwards schema node g ↔ node.HasOperand g := by
  constructor
  · intro edge
    cases edge with
    | operand inside => exact inside
    | aliased => cases compound
  · exact .operand

theorem forwards_leaf {schema : Schema} {own : String} {test : Test} {aliasFilter : Option Filter}
    {marker : Cardinality} {g : Filter}
    (edge : Forwards schema (.leaf own test aliasFilter marker) g) :
    test.kind = .equality ∧ aliasFilter = some g ∧ ShapeUnknown schema own marker := by
  cases edge with
  | operand inside => cases inside
  | aliased shape => exact ⟨rfl, rfl, shape⟩

theorem flag_step {child : Filter → Compiled Expr → Prop} {Flagged : Filter → Prop}
    (parts : ∀ g d, child g d → (d.consistency = true ↔ Flagged g))
    (step : Step ctx child node c) :
    c.consistency = true ↔
      Contributes ctx.schema node ∨ ∃ g, Forwards ctx.schema node g ∧ Flagged g := by
  -- A leaf of any other form than an aliased equality of unknown shape is flagged by its name.
  have alone : (∀ g, ¬ Forwards ctx.schema node g) →
      (ctx.contributes node = true ↔
        Contributes ctx.schema node ∨ ∃ g, Forwards ctx.schema node g ∧ Flagged g) := by
    intro none
    simp [contributes_iff, none]
  cases step with
  | not done =>
      simp only [forwards_compound _ (.not _) rfl]
      rw [or_iff_right (nameless_silent rfl _), parts _ _ done]
      simp [Filter.HasOperand, Filter.operands]
  | @membership operands _ _ _ done =>
      simp only [forwards_compound _ (.junction .or operands) rfl]
      rw [or_iff_right (nameless_silent rfl _), any_consistency_iff parts done]
      rfl
  | @joined op operands _ _ done =>
      simp only [forwards_compound _ (.junction op operands) rfl]
      rw [or_iff_right (nameless_silent rfl _), any_consistency_iff parts done]
      rfl
  | eachElement leaf named shape done =>
      apply alone
      intro g edge
      subst leaf
      obtain ⟨_, _, unknown⟩ := forwards_leaf edge
      rw [← cardinality_unknown_iff, shape] at unknown
      cases unknown
  | aliased leaf named shape done =>
      subst leaf
      unfold Step.flag
      split
      · rename_i unknown
        rw [Bool.or_eq_true, contributes_iff, parts _ _ done, or_comm]
        rw [cardinality_unknown_iff] at unknown
        refine or_congr_right ⟨fun flagged => ⟨_, .aliased unknown, flagged⟩, ?_⟩
        rintro ⟨g, edge, flagged⟩
        obtain ⟨_, same, _⟩ := forwards_leaf edge
        cases same
        exact flagged
      · rename_i known
        apply alone
        intro g edge
        obtain ⟨_, _, unknown⟩ := forwards_leaf edge
        exact known ((cardinality_unknown_iff ctx _ _ _ _).mpr unknown)
  | bothShapes leaf named shape =>
      apply alone
      intro g edge
      subst leaf
      obtain ⟨_, none, _⟩ := forwards_leaf edge
      cases none
  | tested leaf named can settled =>
      apply alone
      intro g edge
      subst leaf
      obtain ⟨equality, under, _⟩ := forwards_leaf edge
      rw [(settled equality).1] at under
      cases under
  | lowercase named =>
      apply alone
      intro g edge
      cases edge with
      | operand inside => cases inside

theorem flag_compile_at {levels depth : Nat}
    (compiled : (compileAt ctx levels depth f).result = .ok c) :
    c.consistency = true ↔
      ∃ node, f.Reaches ctx.parsed? (Forwards ctx.schema) node ∧ Contributes ctx.schema node := by
  induction levels generalizing depth f c with
  | zero => simp [compileAt] at compiled
  | succ levels ih =>
      obtain ⟨left, node, same, parsed, step⟩ := compile_at_step compiled
      cases same
      rw [flag_step (fun g d done => ih done) step, reaches_exists_iff parsed]

theorem joined_flagged (op : Junction) (first : Compiled Expr) (rest : List (Compiled Expr))
    (flag : Bool) :
    ∃ e, (do let e ← joined op (first :: rest); return Compiled.mk e flag).result =
      .ok ⟨e, flag⟩ := by
  have whole := (joined_ok_iff op (first :: rest) _).mpr ⟨first, rest, rfl, rfl⟩
  exact ⟨_, (bind_ok_iff _ _ _).mpr ⟨_, whole, rfl⟩⟩

theorem junction_flag {child other : Filter → Compilation (Compiled Expr)} {op : Junction}
    {operands : List Filter} (same : ∀ g ∈ operands, Corresponds SameFlag (child g) (other g)) :
    Corresponds SameFlag (compileJunction ctx child op operands)
      (plainJunction other op operands) := by
  unfold compileJunction plainJunction
  split
  · exact corresponds_fail _
  · rename_i some
    apply corresponds_bind (corresponds_each operands same)
    intro parts others done flags
    have all := (each_ok_iff _ _ _).mp done
    have flag := same_flags flags
    -- Operands that compiled are there to be joined, so neither side fails any more.
    cases flags with
    | nil =>
        cases all
        exact absurd rfl some
    | @cons c d cs ds here later =>
        split
        · obtain ⟨_, right⟩ := joined_flagged .or d ds (Compiled.anyConsistency (d :: ds))
          apply (corresponds_ok_iff rfl right).mpr
          exact flag
        · obtain ⟨_, left⟩ := joined_flagged _ c cs (Compiled.anyConsistency (c :: cs))
          obtain ⟨_, right⟩ := joined_flagged _ d ds (Compiled.anyConsistency (d :: ds))
          apply (corresponds_ok_iff left right).mpr
          exact flag

theorem plain_flag_at (levels depth : Nat) (f : Filter) :
    Corresponds SameFlag (compileAt ctx levels depth f) (plainAt ctx levels depth f) := by
  induction levels generalizing depth f with
  | zero => exact corresponds_fail _
  | succ levels ih =>
      apply corresponds_bind_same
      intro node _
      cases node with
      | raw text => exact corresponds_fail _
      | lowercase name => exact corresponds_of_result_eq rfl fun _ => rfl
      | not operand =>
          apply corresponds_bind (ih _ operand)
          intro part other _ same
          exact corresponds_pure same
      | junction op operands => exact junction_flag fun g _ => ih _ g
      | leaf own test aliasFilter marker =>
          have same : ∀ c, SameFlag c c := fun _ => rfl
          exact leaf_related same kept_flag (fun g _ => ih _ g)
            fun g _ name => ih _ (g.withName name)

end Document

/-- The flag of a compiled query is set exactly when a node that asks for consistent reads is
reached over forwarding edges. It is the same for joined disjunctions, and for stored names of any
kind. -/
theorem consistency_reached (ctx : CompileContext) (f : Filter) :
    (∀ c, (Document.compile ctx f).result = .ok c →
      (c.consistency = true ↔ ∃ node,
        f.Reaches ctx.parsed? (Document.Forwards ctx.schema) node ∧ Contributes ctx.schema node)) ∧
    (∀ c, (Directory.compile ctx f).result = .ok c →
      (c.consistency = true ↔ ∃ node,
        f.Reaches ctx.parsed? Filter.HasOperand node ∧ Contributes ctx.schema node)) ∧
    Corresponds (fun c d => c.consistency = d.consistency)
      (Document.compile ctx f) (Document.plainCompile ctx f) ∧
    ∀ resolve,
      (∀ c d, (Document.compile ctx f).result = .ok c →
        (Document.compile { ctx with resolve := resolve } f).result = .ok d →
          c.consistency = d.consistency) ∧
      ∀ c d, (Directory.compile ctx f).result = .ok c →
        (Directory.compile { ctx with resolve := resolve } f).result = .ok d →
          c.consistency = d.consistency := by
  refine ⟨fun c => Document.flag_compile_at, fun c => Directory.flag_compile_at,
    Document.plain_flag_at _ _ f, fun resolve => ⟨?_, ?_⟩⟩
  · intro c d compiled other
    rw [Bool.eq_iff_iff, Document.flag_compile_at compiled]
    exact (Document.flag_compile_at other).symm
  · intro c d compiled other
    rw [Bool.eq_iff_iff, Directory.flag_compile_at compiled]
    exact (Directory.flag_compile_at other).symm

def namedByAlias : Filter :=
  .not (.leaf "" (.compare .equality (.int 1)) (some (.presence "exp")) .unknown)

def waitingContext : CompileContext :=
  ⟨.ofNamed [("exp", ⟨.single, true⟩)], id, .none, 4⟩

-- The alias forwards its flag to the document expression, and to the directory query it does not.
theorem consistency_reached_by_alias :
    ∃ c d, (Document.compile waitingContext namedByAlias).result = .ok c ∧
      (Directory.compile waitingContext namedByAlias).result = .ok d ∧
      c.consistency = true ∧ d.consistency = false ∧
      (∃ node, namedByAlias.Reaches waitingContext.parsed?
        (Document.Forwards waitingContext.schema) node ∧
          Contributes waitingContext.schema node) ∧
      ¬ ∃ node, namedByAlias.Reaches waitingContext.parsed? Filter.HasOperand node ∧
        Contributes waitingContext.schema node := by
  obtain ⟨document, directory, _⟩ := consistency_reached waitingContext namedByAlias
  refine ⟨_, _, rfl, rfl, by decide, by decide, (document _ rfl).mp (by decide), ?_⟩
  intro reached
  have flagged := (directory _ rfl).mpr reached
  exact absurd flagged (by decide)

end FilterQuery
