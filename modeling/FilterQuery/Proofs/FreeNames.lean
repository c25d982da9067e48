import FilterQuery.Proofs.MeaningPreserved

/-!
What an expression looks at. The name of an element is known in the condition on it and nowhere
else, so an expression takes from its document and its scope the names that occur free in it; where
two documents and scopes agree on these, it has one result.
-/
namespace FilterQuery.Expr

open Meaning (Record view view_cons)

mutual
/-- The names that occur free, as often as they do. -/
def freeNames : Expr → List String
  | .path name => [name]
  | .literal _ => []
  | .array _ => []
  | .binary left _ right => left.freeNames ++ right.freeNames
  | .not operand => operand.freeNames
  | .isNotMissing operand => operand.freeNames
  | .any element source condition =>
    source.freeNames ++ condition.freeNames.filter (· ≠ element)
  | .call _ args => freeNamesOfAll args
  | .grouped inner => inner.freeNames

def freeNamesOfAll : List Expr → List String
  | [] => []
  | arg :: rest => arg.freeNames ++ freeNamesOfAll rest
end

def AgreeOn (names : List String) (r r' : Record) : Prop := ∀ name ∈ names, r name = r' name

section Agreement

variable {names others : List String} {r r' : Record}

theorem agree_append : AgreeOn (names ++ others) r r' ↔ AgreeOn names r r' ∧ AgreeOn others r r' :=
  List.forall_mem_append

-- Under a binder only the other names have to be agreed on.
theorem agree_bind {element : String} (agree : AgreeOn (names.filter (· ≠ element)) r r')
    (value : Json) : AgreeOn names (r.bind element value) (r'.bind element value) := by
  intro name inside
  by_cases bound : name = element
  · simp [Record.bind, bound]
  · simp only [Record.bind, bound, if_false]
    exact agree name (List.mem_filter.mpr ⟨inside, by simpa using bound⟩)

end Agreement

variable [Like.PatternRoom]

mutual
theorem eval_agree (e : Expr) {doc doc' : Json} {scope scope' : Scope}
    (agree : AgreeOn e.freeNames (view doc scope) (view doc' scope')) :
    eval doc scope e = eval doc' scope' e := by
  cases e with
  | path name => exact agree name List.mem_cons_self
  | literal value => rfl
  | array items => rfl
  | binary left op right =>
      obtain ⟨first, second⟩ := agree_append.mp agree
      rw [eval, eval, eval_agree left first, eval_agree right second]
  | not operand => rw [eval, eval, eval_agree operand agree]
  | isNotMissing operand => rw [eval, eval, eval_agree operand agree]
  | any element source condition =>
      obtain ⟨outside, inside⟩ := agree_append.mp agree
      have each : ∀ value, eval doc ((element, value) :: scope) condition =
          eval doc' ((element, value) :: scope') condition := by
        intro value
        apply eval_agree condition
        rw [view_cons, view_cons]
        exact agree_bind inside value
      simp only [eval, eval_agree source outside, each]
  | call name args => rw [eval, eval, eval_first_agree args agree]
  | grouped inner => exact eval_agree inner agree

theorem eval_first_agree (args : List Expr) {doc doc' : Json} {scope scope' : Scope}
    (agree : AgreeOn (freeNamesOfAll args) (view doc scope) (view doc' scope')) :
    evalFirst doc scope args = evalFirst doc' scope' args := by
  cases args with
  | nil => rfl
  | cons arg rest => exact eval_agree arg (agree_append.mp agree).1
end

end FilterQuery.Expr
