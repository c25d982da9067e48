import FilterQuery.Filter.Json
import FilterQuery.Proofs.DocumentSteps

/-!
Equalities that an *or* may gather into one membership. Such operands compile to comparisons of one
path with their values, and the membership of the path in the list of the values is true, false or
open as the disjunction of the comparisons is. Only a missing path tells the two apart: it leaves
the membership missing and the disjunction null.
-/
namespace FilterQuery.Document

variable {ctx : CompileContext} {operand : Filter} {operands : List Filter}
  {name : String} {value : AssertionValue} {values : List AssertionValue}

-- Without an alias there is no child to take a name from.
theorem own_name_iff {own found : String} {test : Test} {marker : Cardinality} :
    (Filter.leaf own test none marker).effectiveName? = some found ↔ own ≠ "" ∧ found = own := by
  by_cases empty : own = ""
  · simp [Filter.effectiveName?, Filter.properName?, Filter.name?, Filter.children, empty]
  · simp [Filter.effectiveName?, Filter.properName?, Filter.name?, Filter.children, Option.filter,
      empty, eq_comm]

theorem member_value_iff :
    memberValue? ctx operand = some (name, value) ↔
      (∃ marker, operand = .leaf name (.compare .equality value) none marker) ∧
        ctx.cardinality operand = .single := by
  unfold memberValue?
  split
  · rename_i own asserted marker
    cases shape : ctx.cardinality (.leaf own (.compare .equality asserted) none marker) <;>
      simp [Cardinality.isSingle]
  · rename_i other
    constructor
    · intro none; simp at none
    · rintro ⟨⟨marker, rfl⟩, _⟩
      exact (other _ _ _ rfl).elim

theorem member_values_all (members : memberValues? ctx operands = some (name, values)) :
    List.Forall₂ (fun operand value => memberValue? ctx operand = some (name, value))
      operands values := by
  unfold memberValues? at members
  simp only [Option.bind_eq_bind, Option.bind_eq_some_iff] at members
  obtain ⟨pairs, gathered, ⟨first, asserted⟩, _, kept⟩ := members
  split at kept
  · rename_i same
    simp only [Option.some.injEq, Prod.mk.injEq] at kept
    obtain ⟨rfl, rfl⟩ := kept
    -- The first pair has given the name; from here on any pairs under one name will do.
    clear * - gathered same
    induction operands generalizing pairs with
    | nil =>
        have none : pairs = [] := by simpa using gathered.symm
        subst none
        exact .nil
    | cons operand rest ih =>
        simp only [List.mapM_cons, Option.bind_eq_bind, Option.bind_eq_some_iff,
          Option.pure_def, Option.some.injEq] at gathered
        obtain ⟨⟨own, value⟩, here, others, tail, rfl⟩ := gathered
        simp only [List.all_cons, Bool.and_eq_true, decide_eq_true_eq] at same
        obtain ⟨rfl, later⟩ := same
        exact .cons here (ih others tail later)
  · simp at kept

theorem member_values_of_all (nonempty : values ≠ [])
    (all : List.Forall₂ (fun operand value => memberValue? ctx operand = some (name, value))
      operands values) : memberValues? ctx operands = some (name, values) := by
  have gathered : operands.mapM (memberValue? ctx) = some (values.map (name, ·)) := by
    clear nonempty
    induction all with
    | nil => rfl
    | cons here _ ih => rw [List.mapM_cons, here, ih]; rfl
  obtain ⟨value, rest, rfl⟩ := List.exists_cons_of_ne_nil nonempty
  simp [memberValues?, gathered, Function.comp_def]

theorem member_values_nonempty (members : memberValues? ctx operands = some (name, values)) :
    values ≠ [] := by
  rintro rfl
  have none : operands = [] := by simpa using member_values_all members
  subst none
  simp [memberValues?] at members

theorem member_step {child : Filter → Compiled Expr → Prop} {c : Compiled Expr}
    (member : memberValue? ctx operand = some (name, value)) (step : Step ctx child operand c) :
    c.expression = .eq (.path (ctx.resolve name)) (.ofValue value) := by
  obtain ⟨⟨marker, rfl⟩, shape⟩ := member_value_iff.mp member
  cases step with
  | eachElement leaf _ _ _ => simp at leaf
  | aliased leaf _ _ _ => simp at leaf
  | bothShapes _ _ unknown => simp [shape] at unknown
  | tested leaf named can settled =>
      cases leaf
      cases can
      rw [(own_name_iff.mp named).2]
      simp [onAttribute, shape, Cardinality.isMulti]

theorem member_expressions {levels depth : Nat} {compiled : List (Compiled Expr)}
    (members : memberValues? ctx operands = some (name, values))
    (done : List.Forall₂ (fun f c => (compileAt ctx levels depth f).result = .ok c)
      operands compiled) :
    compiled.map (·.expression) =
      values.map fun value => .eq (.path (ctx.resolve name)) (.ofValue value) := by
  have all := member_values_all members
  clear members
  induction all generalizing compiled with
  | nil => cases done; rfl
  | @cons operand value rest others member _ ih =>
      cases done with
      | cons here later =>
          -- Gathering reads the operands as written; a plain equality is its own parse.
          obtain ⟨left, node, rfl, parsed, step⟩ := compile_at_step here
          obtain ⟨⟨marker, rfl⟩, _⟩ := member_value_iff.mp member
          cases parsed
          rw [List.map_cons, List.map_cons, member_step member step, ih later]

theorem membership_compiled {levels depth : Nat} {c : Compiled Expr}
    (members : memberValues? ctx operands = some (name, values))
    (compiled : (compileAt ctx levels depth (.junction .or operands)).result = .ok c) :
    c.expression = membership (ctx.resolve name) values := by
  obtain ⟨left, node, rfl, parsed, step⟩ := compile_at_step compiled
  cases parsed
  cases step with
  | membership _ found =>
      cases members.symm.trans found
      rfl
  | joined _ plain =>
      rw [plain rfl] at members
      cases members
  | eachElement leaf => cases leaf
  | aliased leaf => cases leaf
  | bothShapes leaf => cases leaf
  | tested leaf => cases leaf

@[simp] theorem literal_json (value : AssertionValue) :
    (Literal.ofValue value).toJson = value.toJson := by
  cases value <;> simp [Literal.ofValue, Literal.toJson, AssertionValue.toJson]

open FilterQuery.Expr

variable [Like.PatternRoom] (doc : Json) (scope : Scope)

theorem eval_value (value : AssertionValue) :
    eval doc scope (.ofValue value) = some value.toJson := by
  simp [Expr.ofValue, eval]

theorem eval_eq_value (left : Expr) (value : AssertionValue) :
    eval doc scope (.eq left (.ofValue value)) =
      (eval doc scope left).map fun found => .bool (equalValues found value.toJson) := by
  simp only [Expr.eq, eval, eval_value, combine]
  cases eval doc scope left <;> rfl

theorem eval_membership (internal : String) (values : List AssertionValue) :
    eval doc scope (membership internal values) =
      (eval doc scope (.path internal)).map fun found =>
        .bool (values.any fun value => equalValues found value.toJson) := by
  simp only [membership, eval, combine]
  cases (scope.lookup internal).or (doc.field? internal) with
  | none => rfl
  | some found => simp [compareValues, List.any_map, Function.comp_def]

theorem truth_membership (internal : String) (values : List AssertionValue) (some : values ≠ []) :
    truth (eval doc scope (membership internal values)) =
      Junction.or.verdict (values.map fun value =>
        truth (eval doc scope (.eq (.path internal) (.ofValue value)))) := by
  simp only [eval_membership, eval_eq_value]
  cases eval doc scope (.path internal) with
  -- A missing path leaves the membership missing and every comparison open.
  | none => exact (Junction.verdict_open .or values some).symm
  | some found =>
      exact (Junction.or_verdict_known (fun value => equalValues found value.toJson) values).symm

end FilterQuery.Document
