import FilterQuery.Compile.Document
import FilterQuery.Expr.Eval
import Mathlib.Data.List.Forall2

/-!
The truth of expressions: true, false or neither. The two ways of being neither, null and missing,
differ only where a value is asked for; the connectives see truth alone. An *and* or *or* of any
number of operands is settled by one decisive operand, left open by an open one and else settled
the other way.
-/
namespace FilterQuery

/-- The operand that settles a junction whatever the others are. -/
def Junction.decisive : Junction → Bool
  | .and => false
  | .or => true

def Junction.verdict (op : Junction) (truths : List (Option Bool)) : Option Bool :=
  if some op.decisive ∈ truths then some op.decisive
  else if none ∈ truths then none
  else some (!op.decisive)

def Junction.binary : Junction → BinaryOp
  | .and => .and
  | .or => .or

namespace Junction

theorem decisive_or_opposite (op : Junction) (b : Bool) :
    b = op.decisive ∨ b = !op.decisive := by
  cases op <;> cases b <;> simp [decisive]

theorem verdict_decisive_iff (op : Junction) (truths : List (Option Bool)) :
    op.verdict truths = some op.decisive ↔ some op.decisive ∈ truths := by
  unfold verdict
  split
  · rename_i settled
    exact iff_of_true rfl settled
  · rename_i unsettled
    refine iff_of_false ?_ unsettled
    split <;> cases op <;> simp [decisive]

theorem verdict_opposite_iff (op : Junction) (truths : List (Option Bool)) :
    op.verdict truths = some (!op.decisive) ↔ ∀ t ∈ truths, t = some (!op.decisive) := by
  unfold verdict
  split
  · rename_i settled
    constructor
    · intro same; cases op <;> simp [decisive] at same
    · intro all; cases op <;> simpa [decisive] using all _ settled
  · rename_i unsettled
    split
    · rename_i unknown
      constructor
      · intro same; simp at same
      · intro all; simpa using all none unknown
    · rename_i known
      simp only [true_iff]
      intro t member
      cases t with
      | none => exact absurd member known
      | some b =>
          rcases op.decisive_or_opposite b with rfl | rfl
          · exact absurd member unsettled
          · rfl

@[simp] theorem verdict_one (op : Junction) (t : Option Bool) : op.verdict [t] = t := by
  cases op <;> rcases t with _ | _ | _ <;> rfl

-- Expressions are joined in pairs from the left, verdicts are taken of all operands at once.
theorem verdict_join_pair (op : Junction) (t u : Option Bool) (rest : List (Option Bool)) :
    op.verdict (op.verdict [t, u] :: rest) = op.verdict (t :: u :: rest) := by
  cases op <;> rcases t with _ | _ | _ <;> rcases u with _ | _ | _ <;> simp [verdict, decisive]

theorem or_verdict_known {α : Type} (holds : α → Bool) (operands : List α) :
    Junction.or.verdict (operands.map fun a => some (holds a)) = some (operands.any holds) := by
  cases hit : operands.any holds with
  | true =>
      obtain ⟨a, member, found⟩ := List.any_eq_true.mp hit
      exact (verdict_decisive_iff .or _).mpr (List.mem_map.mpr ⟨a, member, by rw [found]; rfl⟩)
  | false =>
      refine (verdict_opposite_iff .or _).mpr fun t member => ?_
      obtain ⟨a, inside, rfl⟩ := List.mem_map.mp member
      simpa [decisive] using List.any_eq_false.mp hit a inside

theorem verdict_open {α : Type} (op : Junction) (operands : List α) (some : operands ≠ []) :
    op.verdict (operands.map fun _ => none) = none := by
  obtain ⟨a, rest, rfl⟩ := List.exists_cons_of_ne_nil some
  simp [verdict]

-- Either verdict is a statement about single operands: that one of them is decisive, or that all of
-- them are opposite. An implication between the operands is then one between the verdicts.
theorem verdict_passed {α : Type} (op : Junction) (operands : List α) (b : Bool)
    {before after : α → Option Bool}
    (passed : ∀ a ∈ operands, after a = some b → before a = some b)
    (verdict : op.verdict (operands.map after) = some b) :
    op.verdict (operands.map before) = some b := by
  rcases op.decisive_or_opposite b with rfl | rfl
  · rw [verdict_decisive_iff, List.mem_map] at verdict ⊢
    obtain ⟨a, inside, hit⟩ := verdict
    exact ⟨a, inside, passed a inside hit⟩
  · rw [verdict_opposite_iff, List.forall_mem_map] at verdict ⊢
    intro a inside
    exact passed a inside (verdict a inside)

theorem verdict_kept {α : Type} (op : Junction) (operands : List α) {before after : α → Option Bool}
    (kept : ∀ a ∈ operands, before a = none ∨ before a = after a) :
    op.verdict (operands.map before) = none ∨
      op.verdict (operands.map before) = op.verdict (operands.map after) := by
  cases verdict : op.verdict (operands.map before) with
  | none => exact .inl rfl
  | some b =>
      right
      symm
      apply op.verdict_passed operands b _ verdict
      intro a inside hit
      rcases kept a inside with unknown | same
      · rw [unknown] at hit
        cases hit
      · exact same ▸ hit

end Junction

namespace Expr

@[simp] theorem truth_ofBool (t : Option Bool) : truth (some (ofBool? t)) = t := by
  cases t <;> rfl

@[simp] theorem truth_bool (b : Bool) : truth (some (.bool b)) = some b := rfl

@[simp] theorem truth_none : truth none = none := rfl

theorem truth_negate (result : Option Json) : truth (negate result) = (truth result).map (!·) := by
  rcases result with _ | value
  · rfl
  · cases value <;> rfl

theorem truth_lower (result : Option Json) : truth (result.map lowerValue) = none := by
  rcases result with _ | value
  · rfl
  · cases value <;> rfl

theorem both_eq_verdict (t u : Option Bool) : both t u = Junction.and.verdict [t, u] := by
  rcases t with _ | _ | _ <;> rcases u with _ | _ | _ <;> rfl

theorem either_eq_verdict (t u : Option Bool) : either t u = Junction.or.verdict [t, u] := by
  rcases t with _ | _ | _ <;> rcases u with _ | _ | _ <;> rfl

variable [Like.PatternRoom]

theorem combine_junction (op : Junction) (left right : Option Json) :
    combine op.binary left right = some (ofBool? (op.verdict [truth left, truth right])) := by
  cases op with
  | and => rw [← both_eq_verdict]; rfl
  | or => rw [← either_eq_verdict]; rfl

variable (doc : Json) (scope : Scope)

/-- Two or more operands leave a Boolean or null, never a missing result. -/
theorem eval_join_more (op : Junction) (first second : Expr) (rest : List Expr) :
    eval doc scope (join op.binary first (second :: rest)) =
      some (ofBool? (op.verdict
        ((first :: second :: rest).map fun e => truth (eval doc scope e)))) := by
  induction rest generalizing first second with
  | nil => simp only [join, List.foldl_cons, List.foldl_nil, eval, combine_junction, List.map]
  | cons third rest ih =>
      have folded : join op.binary first (second :: third :: rest) =
          join op.binary (.binary first op.binary second) (third :: rest) := rfl
      rw [folded, ih]
      simp only [List.map_cons, eval, combine_junction, truth_ofBool, Junction.verdict_join_pair]

theorem truth_join (op : Junction) (first : Expr) (rest : List Expr) :
    truth (eval doc scope (join op.binary first rest)) =
      op.verdict ((first :: rest).map fun e => truth (eval doc scope e)) := by
  cases rest with
  | nil => simp [join]
  | cons second rest => rw [eval_join_more, truth_ofBool]

end Expr

end FilterQuery
