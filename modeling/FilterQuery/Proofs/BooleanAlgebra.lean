import FilterQuery.Like.Weights
import FilterQuery.Proofs.Consistency
import FilterQuery.Proofs.FirstFault
import FilterQuery.Proofs.MeaningPreserved

/-!
Compiled connectives obey the laws of Boolean algebra on every document. The laws hold of verdicts,
an open operand included, and a verdict is what an expression evaluates to in whatever form its
disjunctions are. Operands are compiled at the same depth on both sides of a law and from left to
right, so both sides fail alike as well; under a permutation only that they fail is the same.
-/
namespace FilterQuery

open Compilation

namespace Junction

def dual : Junction → Junction
  | .and => .or
  | .or => .and

theorem dual_decisive (op : Junction) : op.dual.decisive = !op.decisive := by
  cases op <;> rfl

theorem negated_mem (truths : List (Option Bool)) (t : Option Bool) :
    t.map (!·) ∈ truths.map (Option.map (!·)) ↔ t ∈ truths := by
  apply List.mem_map_of_injective
  exact Option.map_injective fun _ _ => Bool.not_inj

theorem negated_verdict (op : Junction) (truths : List (Option Bool)) :
    (op.verdict truths).map (!·) = op.dual.verdict (truths.map (Option.map (!·))) := by
  have settled := negated_mem truths (some op.decisive)
  have unknown := negated_mem truths none
  rw [Option.map_some] at settled
  rw [Option.map_none] at unknown
  unfold verdict
  rw [dual_decisive]
  simp only [settled, unknown]
  split
  · rfl
  · split <;> rfl

theorem verdict_perm (op : Junction) {truths others : List (Option Bool)}
    (perm : truths.Perm others) : op.verdict truths = op.verdict others := by
  unfold verdict
  simp only [perm.mem_iff]

end Junction

namespace Compilation

variable {α β : Type}

theorem failure_bind (c : Compilation α) (next : α → Compilation β) :
    (c >>= next).failure? = match c.result with
      | .error e => some e
      | .ok a => (next a).failure? := by
  unfold failure?
  rw [result_bind]
  cases c.result <;> rfl

theorem failure_then {c : Compilation α} {next : α → Compilation β}
    (sure : ∀ a, c.result = .ok a → (next a).failure? = none) :
    (c >>= next).failure? = c.failure? := by
  rw [failure_bind, failure?]
  cases done : c.result with
  | error e => rfl
  | ok a => exact sure a done

theorem failure_each (child : Filter → Compilation α) (operands : List Filter) :
    (each child operands).failure? = operands.findSome? fun g => (child g).failure? := by
  induction operands with
  | nil => rfl
  | cons operand rest ih =>
      have others (first : α) :
          (each child rest >>= fun others => pure (first :: others)).failure? =
            rest.findSome? fun g => (child g).failure? := by
        rw [failure_then fun _ _ => rfl, ih]
      rw [each, failure_bind, List.findSome?_cons, failure?]
      cases (child operand).result with
      | error e => rfl
      | ok first => exact others first

theorem corresponds_of_failure {Related : α → α → Prop} {c d : Compilation α}
    (failure : c.failure? = d.failure?)
    (related : ∀ a b, c.result = .ok a → d.result = .ok b → Related a b) :
    Corresponds Related c d := by
  unfold Corresponds
  unfold failure? at failure
  cases left : c.result <;> cases right : d.result <;> simp_all

end Compilation

namespace Document

variable {ctx : CompileContext} {operands : List Filter}

theorem junction_failure {child : Filter → Compilation (Compiled Expr)} (op : Junction)
    (some : operands ≠ []) :
    (compileJunction ctx child op operands).failure? =
      operands.findSome? fun g => (child g).failure? := by
  rw [← failure_each, compileJunction, if_neg (by simpa using some)]
  apply failure_then
  intro compiled done
  -- All operands have been compiled by now, so there is something to join.
  cases (each_ok_iff _ _ _).mp done with
  | nil => exact absurd rfl some
  | cons here later => split <;> rfl

theorem not_failure (levels depth : Nat) (f : Filter) :
    (compileAt ctx (levels + 1) depth (.not f)).failure? =
      (compileAt ctx levels (depth + 1) f).failure? := by
  have inner : (compileNode ctx (compileAt ctx levels (depth + 1)) (.not f)).failure? =
      (compileAt ctx levels (depth + 1) f).failure? := failure_then fun _ _ => rfl
  rw [← inner, compileAt, failure_bind]
  rfl

theorem junction_failure_at (levels depth : Nat) (op : Junction) (some : operands ≠ []) :
    (compileAt ctx (levels + 1) depth (.junction op operands)).failure? =
      operands.findSome? fun g => (compileAt ctx levels (depth + 1) g).failure? := by
  rw [← junction_failure op some, compileAt, failure_bind]
  rfl

-- Both sides put two levels above the operands, so that the limit meets both or neither.
theorem de_morgan_failure (levels depth : Nat) (op : Junction) (some : operands ≠ []) :
    (compileAt ctx levels depth (.not (.junction op operands))).failure? =
      (compileAt ctx levels depth (.junction op.dual (operands.map .not))).failure? := by
  have negated : operands.map Filter.not ≠ [] := by simpa using some
  cases levels with
  | zero => rfl
  | succ levels =>
      rw [not_failure, junction_failure_at _ _ _ negated, List.findSome?_map]
      cases levels with
      | zero =>
          obtain ⟨first, rest, rfl⟩ := List.exists_cons_of_ne_nil some
          rfl
      | succ levels =>
          rw [junction_failure_at _ _ _ some]
          congr 1
          funext g
          exact (not_failure _ _ g).symm

theorem junction_compiles_iff (levels depth : Nat) (op : Junction) (some : operands ≠ []) :
    (∃ c, (compileAt ctx (levels + 1) depth (.junction op operands)).result = .ok c) ↔
      ∀ g ∈ operands, (compileAt ctx levels (depth + 1) g).failure? = none := by
  rw [succeeds_iff_no_failure, junction_failure_at _ _ _ some, List.findSome?_eq_none_iff]

/-- A node that asks for waiting is reached over edges that forward the flag. -/
def Flagged (ctx : CompileContext) (f : Filter) : Prop :=
  ∃ node, f.Reaches ctx.parsed? (Forwards ctx.schema) node ∧ Contributes ctx.schema node

theorem flagged_compound {node : Filter} (parsed : ctx.parsed? node = some node)
    (compound : node.name? = none) :
    Flagged ctx node ↔ ∃ g, node.HasOperand g ∧ Flagged ctx g := by
  unfold Flagged
  rw [reaches_exists_iff parsed, or_iff_right (nameless_silent compound _)]
  simp only [forwards_compound _ _ compound]

theorem flagged_not (f : Filter) : Flagged ctx (.not f) ↔ Flagged ctx f := by
  rw [flagged_compound rfl rfl]
  simp [Filter.HasOperand, Filter.operands]

theorem flagged_junction (op : Junction) :
    Flagged ctx (.junction op operands) ↔ ∃ g ∈ operands, Flagged ctx g :=
  flagged_compound rfl rfl

section Laws

open Meaning

variable [Like.PatternRoom]

/-- One flag, and the same documents accepted. -/
def Equivalent (c d : Compiled Expr) : Prop :=
  c.consistency = d.consistency ∧ ∀ doc, c.expression.accepts doc = d.expression.accepts doc

theorem meaning_not (levels : Nat) (r : Record) (f : Filter) :
    meaningAt ctx (levels + 1) r (.not f) = (meaningAt ctx levels r f).map (!·) := rfl

theorem meaning_junction (levels : Nat) (r : Record) (op : Junction) (operands : List Filter) :
    meaningAt ctx (levels + 1) r (.junction op operands) =
      op.verdict (operands.map (meaningAt ctx levels r)) := rfl

-- Filters of one meaning may compile to quite different expressions, of memberships or of none.
theorem equivalent_of_meaning {f g : Filter} {c d : Compiled Expr} {levels more : Nat}
    (left : (compile ctx f).result = .ok c) (right : (compile ctx g).result = .ok d)
    (flags : Flagged ctx f ↔ Flagged ctx g) (enough : ctx.maxDepth ≤ levels)
    (enough' : ctx.maxDepth ≤ more)
    (meaning : ∀ r, meaningAt ctx levels r f = meaningAt ctx more r g) : Equivalent c d := by
  constructor
  · rw [Bool.eq_iff_iff, flag_compile_at left, flag_compile_at right]
    exact flags
  · intro doc
    rw [Expr.accepts, Expr.accepts, truth_compile_at left enough, truth_compile_at right enough',
      meaning]

theorem de_morgan (op : Junction) (some : operands ≠ []) :
    Corresponds Equivalent (compile ctx (.not (.junction op operands)))
      (compile ctx (.junction op.dual (operands.map .not))) := by
  apply corresponds_of_failure (de_morgan_failure _ _ op some)
  intro c d left right
  have enough : ctx.maxDepth ≤ ctx.maxDepth + 2 := Nat.le_add_right _ _
  apply equivalent_of_meaning left right _ enough enough
  · intro r
    rw [meaning_not, meaning_junction, meaning_junction, Junction.negated_verdict, List.map_map,
      List.map_map]
    rfl
  · rw [flagged_not, flagged_junction, flagged_junction]
    simp only [List.mem_map, exists_exists_and_eq_and, flagged_not]

theorem junction_perm (op : Junction) {others : List Filter} (some : operands ≠ [])
    (perm : operands.Perm others) :
    ((∃ c, (compile ctx (.junction op operands)).result = .ok c) ↔
      ∃ d, (compile ctx (.junction op others)).result = .ok d) ∧
    ∀ c d, (compile ctx (.junction op operands)).result = .ok c →
      (compile ctx (.junction op others)).result = .ok d → Equivalent c d := by
  constructor
  · have nonempty : others ≠ [] := by
      rintro rfl
      exact some perm.eq_nil
    unfold compile
    cases ctx.maxDepth with
    | zero => simp [compileAt]
    | succ levels =>
        rw [junction_compiles_iff _ _ op some, junction_compiles_iff _ _ op nonempty]
        simp only [perm.mem_iff]
  · intro c d left right
    have enough : ctx.maxDepth ≤ ctx.maxDepth + 1 := Nat.le_succ _
    apply equivalent_of_meaning left right _ enough enough
    · intro r
      rw [meaning_junction, meaning_junction]
      exact op.verdict_perm (perm.map _)
    · rw [flagged_junction, flagged_junction]
      simp only [perm.mem_iff]

theorem double_negation {f : Filter} {c d : Compiled Expr}
    (left : (compile ctx (.not (.not f))).result = .ok c)
    (right : (compile ctx f).result = .ok d) : Equivalent c d := by
  apply equivalent_of_meaning left right _ (Nat.le_add_right _ 2) (Nat.le_refl _)
  · intro r
    rw [meaning_not, meaning_not, Option.map_map]
    simp [Function.comp_def]
  · rw [flagged_not, flagged_not]

/-- Compiled filters obey De Morgan's laws, and their connectives neither look at the order of
operands nor at two negations in a row. -/
theorem connectives_are_boolean (ctx : CompileContext) (operands : List Filter)
    (some : operands ≠ []) :
    (∀ op : Junction, Corresponds Equivalent (compile ctx (.not (.junction op operands)))
      (compile ctx (.junction op.dual (operands.map .not)))) ∧
    (∀ (op : Junction) (others : List Filter), operands.Perm others →
      ((∃ c, (compile ctx (.junction op operands)).result = .ok c) ↔
        ∃ d, (compile ctx (.junction op others)).result = .ok d) ∧
      ∀ c d, (compile ctx (.junction op operands)).result = .ok c →
        (compile ctx (.junction op others)).result = .ok d → Equivalent c d) ∧
    ∀ f c d, (compile ctx (.not (.not f))).result = .ok c → (compile ctx f).result = .ok d →
      Equivalent c d :=
  ⟨fun op => de_morgan op some, fun op _ perm => junction_perm op some perm,
    fun _ _ _ => double_negation⟩

end Laws

def twoClasses : List Filter :=
  [.equality objectClass (.string "a"), .equality objectClass (.string "b")]

theorem gathered_de_morgan :
    twoClasses ≠ [] ∧ ∃ c d,
      (compile ⟨.empty, id, .none, 3⟩ (.not (.junction .or twoClasses))).result = .ok c ∧
      c.expression = .grouped (.not (membership objectClass [.string "a", .string "b"])) ∧
      (compile ⟨.empty, id, .none, 3⟩ (.junction .and (twoClasses.map .not))).result = .ok d ∧
      d.expression = .grouped (.binary
        (.grouped (.not (.eq (.path objectClass) (.ofValue (.string "a"))))) .and
        (.grouped (.not (.eq (.path objectClass) (.ofValue (.string "b")))))) ∧
      Equivalent c d := by
  have some : twoClasses ≠ [] := by simp [twoClasses]
  obtain ⟨negation, _⟩ := connectives_are_boolean ⟨.empty, id, .none, 3⟩ twoClasses some
  exact ⟨some, _, _, rfl, rfl, rfl, rfl, (corresponds_ok_iff rfl rfl).mp (negation .or)⟩

end Document

end FilterQuery
