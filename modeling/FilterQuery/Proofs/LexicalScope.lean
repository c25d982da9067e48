import FilterQuery.Like.Weights
import FilterQuery.Proofs.FreeNames

/-!
The names of elements are lexically scoped. A document counts only through the names that occur free
in an expression and that no enclosing element has taken. And what an element is called makes no
difference: wherever an `any` stands, the name that it binds may be exchanged for one that its
condition does not use, even where the old name was that of a field or of another element.
-/
namespace FilterQuery.Expr

open Meaning (Record view view_cons eval_path)

mutual
/-- All names that occur, as a path or as the name of an element. -/
def names : Expr → List String
  | .path name => [name]
  | .literal _ => []
  | .array _ => []
  | .binary left _ right => left.names ++ right.names
  | .not operand => operand.names
  | .isNotMissing operand => operand.names
  | .any element source condition => element :: (source.names ++ condition.names)
  | .call _ args => namesOfAll args
  | .grouped inner => inner.names

def namesOfAll : List Expr → List String
  | [] => []
  | arg :: rest => arg.names ++ namesOfAll rest
end

mutual
/-- Another name in place of the free occurrences of one. A condition that binds the old name has
none of them; the source beside it may. -/
def rename (old new : String) : Expr → Expr
  | .path name => .path (if name = old then new else name)
  | .literal value => .literal value
  | .array items => .array items
  | .binary left op right => .binary (left.rename old new) op (right.rename old new)
  | .not operand => .not (operand.rename old new)
  | .isNotMissing operand => .isNotMissing (operand.rename old new)
  | .any element source condition =>
    .any element (source.rename old new)
      (if element = old then condition else condition.rename old new)
  | .call name args => .call name (renameAll old new args)
  | .grouped inner => .grouped (inner.rename old new)

def renameAll (old new : String) : List Expr → List Expr
  | [] => []
  | arg :: rest => arg.rename old new :: renameAll old new rest
end

mutual
theorem names_of_free (e : Expr) {name : String} (free : name ∈ e.freeNames) : name ∈ e.names := by
  cases e with
  | path other => exact free
  | literal value => cases free
  | array items => cases free
  | binary left op right =>
      rcases List.mem_append.mp free with first | second
      · exact List.mem_append_left _ (names_of_free left first)
      · exact List.mem_append_right _ (names_of_free right second)
  | not operand => exact names_of_free operand free
  | isNotMissing operand => exact names_of_free operand free
  | any element source condition =>
      apply List.mem_cons_of_mem
      rcases List.mem_append.mp free with outside | inside
      · exact List.mem_append_left _ (names_of_free source outside)
      · exact List.mem_append_right _ (names_of_free condition (List.mem_filter.mp inside).1)
  | call other args => exact names_of_free_all args free
  | grouped inner => exact names_of_free inner free

theorem names_of_free_all (args : List Expr) {name : String} (free : name ∈ freeNamesOfAll args) :
    name ∈ namesOfAll args := by
  cases args with
  | nil => cases free
  | cons arg rest =>
      rcases List.mem_append.mp free with first | later
      · exact List.mem_append_left _ (names_of_free arg first)
      · exact List.mem_append_right _ (names_of_free_all rest later)
end

/-- What one record has under the old name, another has under the new one; of the other names in a
list both have the same. -/
structure Moves (old new : String) (names : List String) (r r' : Record) : Prop where
  moved : r' new = r old
  kept : ∀ name ∈ names, name ≠ old → r' name = r name

section Moves

variable {old new : String} {names others : List String} {r r' : Record}

theorem Moves.subset (moves : Moves old new names r r') (fewer : ∀ name ∈ others, name ∈ names) :
    Moves old new others r r' :=
  ⟨moves.moved, fun name inside => moves.kept name (fewer name inside)⟩

-- A further element under neither of the two names hides neither.
theorem Moves.bind (moves : Moves old new names r r') {element : String}
    (notOld : element ≠ old) (notNew : element ≠ new) (value : Json) :
    Moves old new names (r.bind element value) (r'.bind element value) := by
  constructor
  · simpa [Record.bind, notOld.symm, notNew.symm] using moves.moved
  · intro name inside other
    by_cases bound : name = element
    · simp [Record.bind, bound]
    · simpa [Record.bind, bound] using moves.kept name inside other

-- Under a further element of the old name nothing of the old value can be seen.
theorem Moves.hidden (moves : Moves old new names r r') (fewer : ∀ name ∈ others, name ∈ names) :
    AgreeOn (others.filter (· ≠ old)) r' r := by
  intro name inside
  obtain ⟨member, other⟩ := List.mem_filter.mp inside
  exact moves.kept name (fewer name member) (by simpa using other)

theorem moves_bind (r : Record) (fresh : new ∉ names) (value : Json) :
    Moves old new names (r.bind old value) (r.bind new value) := by
  constructor
  · simp [Record.bind]
  · intro name inside other
    have notNew : name ≠ new := fun same => fresh (same ▸ inside)
    simp [Record.bind, other, notNew]

end Moves

section Renaming

variable [Like.PatternRoom] {doc : Json} {old new : String}

mutual
theorem eval_rename (e : Expr) (fresh : new ∉ e.names) {scope scope' : Scope}
    (moves : Moves old new e.names (view doc scope) (view doc scope')) :
    eval doc scope' (e.rename old new) = eval doc scope e := by
  cases e with
  | path name =>
      rw [rename, eval_path, eval_path]
      by_cases same : name = old
      · rw [if_pos same, same]
        exact moves.moved
      · rw [if_neg same]
        exact moves.kept name List.mem_cons_self same
  | literal value => rfl
  | array items => rfl
  | binary left op right =>
      obtain ⟨freshLeft, freshRight⟩ := not_or.mp (List.mem_append.not.mp fresh)
      rw [rename, eval, eval,
        eval_rename left freshLeft (moves.subset fun _ => List.mem_append_left _),
        eval_rename right freshRight (moves.subset fun _ => List.mem_append_right _)]
  | not operand => rw [rename, eval, eval, eval_rename operand fresh moves]
  | isNotMissing operand => rw [rename, eval, eval, eval_rename operand fresh moves]
  | any element source condition =>
      obtain ⟨notNew, later⟩ := not_or.mp (List.mem_cons.not.mp fresh)
      obtain ⟨freshSource, freshCondition⟩ := not_or.mp (List.mem_append.not.mp later)
      have inSource : ∀ name ∈ source.names, name ∈ (Expr.any element source condition).names :=
        fun _ inside => List.mem_cons_of_mem _ (List.mem_append_left _ inside)
      have inCondition :
          ∀ name ∈ condition.names, name ∈ (Expr.any element source condition).names :=
        fun _ inside => List.mem_cons_of_mem _ (List.mem_append_right _ inside)
      have each : ∀ value,
          eval doc ((element, value) :: scope')
              (if element = old then condition else condition.rename old new) =
            eval doc ((element, value) :: scope) condition := by
        intro value
        split
        · rename_i same
          subst same
          apply eval_agree condition
          rw [view_cons, view_cons]
          have hidden := moves.hidden fun name free => inCondition name (names_of_free _ free)
          exact agree_bind hidden value
        · rename_i other
          apply eval_rename condition freshCondition
          rw [view_cons, view_cons]
          exact (moves.subset inCondition).bind other (Ne.symm notNew) value
      simp only [rename, eval, eval_rename source freshSource (moves.subset inSource), each]
  | call name args => rw [rename, eval, eval, eval_first_rename args fresh moves]
  | grouped inner => exact eval_rename inner fresh moves

theorem eval_first_rename (args : List Expr) (fresh : new ∉ namesOfAll args)
    {scope scope' : Scope}
    (moves : Moves old new (namesOfAll args) (view doc scope) (view doc scope')) :
    evalFirst doc scope' (renameAll old new args) = evalFirst doc scope args := by
  cases args with
  | nil => rfl
  | cons arg rest =>
      exact eval_rename arg (not_or.mp (List.mem_append.not.mp fresh)).1
        (moves.subset fun _ => List.mem_append_left _)
end

theorem eval_any_renamed {condition : Expr} (fresh : new ∉ condition.names) (source : Expr)
    (scope : Scope) :
    eval doc scope (.any new source (condition.rename old new)) =
      eval doc scope (.any old source condition) := by
  have each : ∀ value, eval doc ((new, value) :: scope) (condition.rename old new) =
      eval doc ((old, value) :: scope) condition := by
    intro value
    apply eval_rename condition fresh
    rw [view_cons, view_cons]
    exact moves_bind _ fresh value
  simp only [eval, each]

end Renaming

/-- The places in an expression, each as what stands around it. -/
inductive Place : (Expr → Expr) → Prop where
  | here : Place fun e => e
  | left {around : Expr → Expr} (place : Place around) (op : BinaryOp) (right : Expr) :
      Place fun e => .binary (around e) op right
  | right {around : Expr → Expr} (left : Expr) (op : BinaryOp) (place : Place around) :
      Place fun e => .binary left op (around e)
  | not {around : Expr → Expr} (place : Place around) : Place fun e => .not (around e)
  | isNotMissing {around : Expr → Expr} (place : Place around) :
      Place fun e => .isNotMissing (around e)
  | source {around : Expr → Expr} (element : String) (place : Place around) (condition : Expr) :
      Place fun e => .any element (around e) condition
  | condition {around : Expr → Expr} (element : String) (source : Expr) (place : Place around) :
      Place fun e => .any element source (around e)
  | argument {around : Expr → Expr} (name : String) (before : List Expr) (place : Place around)
      (after : List Expr) : Place fun e => .call name (before ++ around e :: after)
  | grouped {around : Expr → Expr} (place : Place around) : Place fun e => .grouped (around e)

-- The scope of the place is not that of the whole, so equality is asked for under every scope.
theorem eval_place [Like.PatternRoom] {doc : Json} {around : Expr → Expr} (place : Place around)
    {e e' : Expr} (same : ∀ scope, eval doc scope e = eval doc scope e') (scope : Scope) :
    eval doc scope (around e) = eval doc scope (around e') := by
  induction place generalizing scope with
  | here => exact same scope
  | left _ op right ih => rw [eval, eval, ih]
  | right left op _ ih => rw [eval, eval, ih]
  | not _ ih => rw [eval, eval, ih]
  | isNotMissing _ ih => rw [eval, eval, ih]
  | source element _ condition ih => simp only [eval, ih]
  | condition element source _ ih => simp only [eval, ih]
  | argument name before _ after ih =>
      cases before with
      | nil => simp only [List.nil_append, eval, evalFirst, ih]
      | cons first rest => rfl
  | grouped _ ih => exact ih scope

/-- The result of an expression depends on a document only through names that occur free and are not
bound by the scope, and not at all on the names of its elements. -/
theorem evaluation_lexically_scoped [Like.PatternRoom] (e : Expr) :
    (∀ (doc doc' : Json) (scope : Scope),
      (∀ name ∈ e.freeNames, scope.lookup name = none → doc.field? name = doc'.field? name) →
        eval doc scope e = eval doc' scope e) ∧
    ∀ (around : Expr → Expr) (element fresh : String) (source condition : Expr),
      Place around → e = around (.any element source condition) → fresh ∉ condition.names →
        ∀ (doc : Json) (scope : Scope),
          eval doc scope (around (.any fresh source (condition.rename element fresh))) =
            eval doc scope e := by
  constructor
  · intro doc doc' scope same
    apply eval_agree
    intro name free
    cases bound : scope.lookup name with
    | none => simpa [view, bound] using same name free bound
    | some value => simp [view, bound]
  · rintro around element fresh source condition place rfl unused doc scope
    exact eval_place place (eval_any_renamed unused source) scope

/-- Some array within an array holds what the field `b` does. Both loops call their element `a_`. -/
def nestedSearch : Expr :=
  .any "a_" (.path "a") (.any "a_" (.path "a_") (.eq (.path "a_") (.path "b")))

/-- The outer element under another name. What the inner condition looks at is its own element. -/
def renamedSearch : Expr :=
  .any "c" (.path "a") (.any "a_" (.path "c") (.eq (.path "a_") (.path "b")))

def nestedTags : Json := .object [("a", .array [.array [.string "x"]]), ("b", .string "x")]

def nestedTagsAndMore : Json :=
  .object [("a", .array [.array [.string "x"]]), ("a_", .null), ("b", .string "x")]

theorem nested_search_scoped :
    eval nestedTags [] (.not nestedSearch) = eval nestedTagsAndMore [] (.not nestedSearch) ∧
      eval nestedTagsAndMore [] (.not renamedSearch) =
        eval nestedTagsAndMore [] (.not nestedSearch) ∧
      eval nestedTagsAndMore [] (.not renamedSearch) = some (.bool false) := by
  obtain ⟨fields, elements⟩ := evaluation_lexically_scoped (.not nestedSearch)
  refine ⟨fields _ _ _ ?_, ?_, rfl⟩
  · intro name free _
    have stored : name = "a" ∨ name = "b" := by
      simpa [nestedSearch, freeNames, Expr.eq] using free
    rcases stored with rfl | rfl <;> rfl
  · exact elements _ "a_" "c" _ _ (.not .here) rfl (by decide) _ _

end FilterQuery.Expr
