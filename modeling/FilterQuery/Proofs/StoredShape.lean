import FilterQuery.Like.Weights
import FilterQuery.Proofs.MeaningPreserved

/-!
What it changes when a schema learns the shapes that a document stores. Trees of equalities compile
under both schemas or under neither. An array is searched either way, so nothing changes with it. A
single value that differs from the asserted one leaves an equality of unknown cardinality open,
since an array would have to be searched, where one of known cardinality is false; that is all that
changes. So a document that is accepted stays accepted, and one that was rejected is accepted
exactly when the tree was open and holds once those equalities are false, as under a *not*.
-/
namespace FilterQuery.StoredShape

open Document Meaning

/-- Conjunctions, disjunctions and negations of equalities without alias and marker. -/
inductive EqualityTree : Filter → Prop where
  | equality (name : String) (value : AssertionValue) : EqualityTree (.equality name value)
  | junction {op : Junction} {operands : List Filter}
      (parts : ∀ operand ∈ operands, EqualityTree operand) : EqualityTree (.junction op operands)
  | not {operand : Filter} (part : EqualityTree operand) : EqualityTree (.not operand)

def shapeOf : Json → Cardinality
  | .array _ => .multi
  | _ => .single

/-- The second schema differs from the first in nothing but cardinalities that the first leaves
unknown and that are those of what the document stores. -/
def Learns (resolve : Resolver) (doc : Json) (s s' : Schema) : Prop :=
  ∀ name, s'.cardinality name = s.cardinality name ∨
    s.cardinality name = .unknown ∧ ∃ stored, doc.field? (resolve name) = some stored ∧
      s'.cardinality name = shapeOf stored

def withSchema (ctx : CompileContext) (s : Schema) : CompileContext := { ctx with schema := s }

def leafTruth [Like.PatternRoom] (ctx : CompileContext) (doc : Json) (name : String)
    (value : AssertionValue) : Option Bool :=
  judgeLeaf (fun _ _ => none) (Record.ofDocument doc) (ctx.resolve name)
    (.compare .equality value) none (ctx.schema.detect name)

mutual
def treeTruth (leaves : String → AssertionValue → Option Bool) : Filter → Option Bool
  | .leaf name (.compare _ value) _ _ => leaves name value
  | .leaf _ _ _ _ => none
  | .lowercase _ => none
  | .raw _ => none
  | .junction op operands => op.verdict (treeTruths leaves operands)
  | .not operand => (treeTruth leaves operand).map (!·)

def treeTruths (leaves : String → AssertionValue → Option Bool) :
    List Filter → List (Option Bool)
  | [] => []
  | operand :: rest => treeTruth leaves operand :: treeTruths leaves rest
end

def learnedSingle (s s' : Schema) (name : String) : Bool :=
  s.detect name == .unknown && s'.detect name == .single

/-- The truths of leaves once what is open of a single value is false. -/
def settled (s s' : Schema) (leaves : String → AssertionValue → Option Bool) (name : String)
    (value : AssertionValue) : Option Bool :=
  if learnedSingle s s' name then (leaves name value).or (some false) else leaves name value

variable {ctx : CompileContext} {doc : Json} {s s' : Schema} {f : Filter}
  {leaves : String → AssertionValue → Option Bool}

theorem tree_truths_eq_map (operands : List Filter) :
    treeTruths leaves operands = operands.map (treeTruth leaves) := by
  induction operands with
  | nil => rfl
  | cons operand rest ih => rw [treeTruths, ih, List.map_cons]

theorem judge_leaf_own [Like.PatternRoom] {valueOf other : Record → Filter → Option Json}
    {r : Record} {internal : String} {test : Test} {shape : Cardinality} :
    judgeLeaf valueOf r internal test none shape = judgeLeaf other r internal test none shape := by
  cases test with
  | compare op value => cases op <;> cases shape <;> rfl
  | _ => cases shape <;> rfl

theorem meaning_eq_tree [Like.PatternRoom] {levels depth : Nat} {c : Compiled Expr}
    (tree : EqualityTree f) (compiled : (compileAt ctx levels depth f).result = .ok c) :
    meaningAt ctx levels (Record.ofDocument doc) f = treeTruth (leafTruth ctx doc) f := by
  induction levels generalizing depth f c with
  | zero => simp [compileAt] at compiled
  | succ levels ih =>
      obtain ⟨left, node, same, parsed, step⟩ := compile_at_step compiled
      cases same
      cases tree with
      | equality name value =>
          cases parsed
          obtain ⟨found, named⟩ := step.leaf_named
          obtain ⟨proper, rfl⟩ := own_name_iff.mp named
          have own : (Filter.equality found value).effectiveName? = some found := named
          have shape : ctx.cardinality (.equality found value) = ctx.schema.detect found :=
            ctx.own_cardinality _ proper
          change Option.bind (Filter.effectiveName? (.equality found value)) _ = _
          rw [own, Option.bind_some, shape]
          change _ = leafTruth ctx doc found value
          exact judge_leaf_own
      | not part =>
          cases parsed
          obtain ⟨inner, done⟩ := step.not_operand
          change Option.map _ (meaningAt ctx levels _ _) = _
          rw [ih part done, treeTruth]
      | @junction op operands parts =>
          cases parsed
          obtain ⟨all, done⟩ := step.junction_operands
          change op.verdict (operands.map (meaningAt ctx levels _)) = _
          rw [treeTruth, tree_truths_eq_map]
          apply congrArg op.verdict
          apply List.map_congr_left
          intro operand inside
          obtain ⟨inner, _, done⟩ := Compilation.exists_related done operand inside
          exact ih (parts operand inside) done

section Both

open Compilation

theorem junction_both {child other : Filter → Compilation (Compiled Expr)} {op : Junction}
    {operands : List Filter}
    (parts : ∀ operand ∈ operands, Corresponds (fun _ _ => True) (child operand) (other operand)) :
    Corresponds (fun _ _ => True) (compileJunction (withSchema ctx s) child op operands)
      (compileJunction (withSchema ctx s') other op operands) := by
  unfold compileJunction
  split
  · exact corresponds_fail _
  · rename_i some
    apply corresponds_bind (corresponds_each operands parts)
    intro compiled others done both
    have each := (each_ok_iff _ _ _).mp done
    cases both with
    | nil => cases each; exact absurd rfl some
    | cons here later =>
        -- The schemas may disagree on whether the operands are gathered; either way this succeeds.
        split <;> split <;> exact (corresponds_ok_iff rfl rfl).mpr trivial

theorem EqualityTree.parsed_self (tree : EqualityTree f) : ctx.parsed? f = some f := by
  cases tree <;> rfl

theorem compile_both (levels depth : Nat) (tree : EqualityTree f) :
    Corresponds (fun _ _ => True) (compileAt (withSchema ctx s) levels depth f)
      (compileAt (withSchema ctx s') levels depth f) := by
  induction levels generalizing depth f with
  | zero => exact corresponds_fail _
  | succ levels ih =>
      apply corresponds_bind_same (ctx.enter depth f)
      intro node entered
      rw [CompileContext.enter_ok_iff, tree.parsed_self] at entered
      cases entered
      cases tree with
      | equality name value =>
          apply corresponds_bind_same (ctx.internalName _)
          intro internal _
          cases (withSchema ctx s).cardinality (.leaf name (.compare .equality value) none .unknown)
            <;> cases (withSchema ctx s').cardinality
              (.leaf name (.compare .equality value) none .unknown)
            <;> exact (corresponds_ok_iff rfl rfl).mpr trivial
      | not part =>
          exact corresponds_bind (ih _ part) fun _ _ _ _ => corresponds_pure trivial
      | junction parts =>
          exact junction_both fun operand inside => ih _ (parts operand inside)

end Both

theorem detect_learned (learned : Learns ctx.resolve doc s s') (name : String) :
    s'.detect name = s.detect name ∨
      s.detect name = .unknown ∧ ∃ stored, doc.field? (ctx.resolve name) = some stored ∧
        s'.detect name = shapeOf stored := by
  unfold Schema.detect
  split
  · exact .inl rfl
  · exact learned name

theorem array_equals_no_value (items : List Json) (value : AssertionValue) :
    Expr.equalValues (.array items) value.toJson = false := by
  cases value <;> rfl

theorem either_shape_settled {stored : Json} (shape : shapeOf stored = .single)
    (value : AssertionValue) :
    (judgeEitherShape (some stored) value).or (some false) =
      some (Expr.equalValues stored value.toJson) := by
  cases stored with
  | array items => simp [shapeOf] at shape
  | _ =>
      simp only [judgeEitherShape]
      split <;> rename_i equal <;> simp [equal]

section Leaves

variable [Like.PatternRoom]

theorem leaf_single {name : String} {stored : Json} (shape : s.detect name = .single)
    (found : doc.field? (ctx.resolve name) = some stored) (value : AssertionValue) :
    leafTruth (withSchema ctx s) doc name value =
      some (Expr.equalValues stored value.toJson) := by
  rw [leafTruth, withSchema, shape]
  change (doc.field? (ctx.resolve name)).map _ = _
  rw [found, Option.map_some]

theorem leaf_multi {name : String} {items : List Json} (shape : s.detect name = .multi)
    (found : doc.field? (ctx.resolve name) = some (.array items)) (value : AssertionValue) :
    leafTruth (withSchema ctx s) doc name value =
      some (items.any (Expr.equalValues · value.toJson)) := by
  rw [leafTruth, withSchema, shape]
  change someElement (doc.field? (ctx.resolve name)) _ = _
  simp [found, someElement, judge]

theorem leaf_unknown {name : String} {stored : Json} (shape : s.detect name = .unknown)
    (found : doc.field? (ctx.resolve name) = some stored) (value : AssertionValue) :
    leafTruth (withSchema ctx s) doc name value = judgeEitherShape (some stored) value := by
  rw [leafTruth, withSchema, shape, ← found]
  rfl

-- A single value leaves an equality open that it does not satisfy; an array leaves nothing open.
theorem leaf_settled (learned : Learns ctx.resolve doc s s') (name : String)
    (value : AssertionValue) :
    leafTruth (withSchema ctx s') doc name value =
      settled s s' (leafTruth (withSchema ctx s) doc) name value := by
  rcases detect_learned learned name with same | ⟨unknown, stored, found, shape⟩
  · have unsettled : learnedSingle s s' name = false := by
      simp only [learnedSingle, same]
      cases s.detect name <;> rfl
    simp only [settled, unsettled, Bool.false_eq_true, if_false, leafTruth, withSchema, same]
  · rw [settled, leaf_unknown unknown found]
    cases known : shapeOf stored with
    | unknown => cases stored <;> simp [shapeOf] at known
    | single =>
        have learns : learnedSingle s s' name = true := by simp [learnedSingle, unknown, shape, known]
        rw [if_pos learns, either_shape_settled known, leaf_single (shape.trans known) found]
    | multi =>
        have unsettled : learnedSingle s s' name = false := by simp [learnedSingle, shape, known]
        cases stored with
        | array items =>
            rw [leaf_multi shape found, unsettled]
            simp [judgeEitherShape, array_equals_no_value]
        | _ => simp [shapeOf] at known

end Leaves

/-- The touched equalities stand under an even number of negations, counted from `up`. -/
inductive Upright (touched : String → Bool) : Bool → Filter → Prop where
  | equality {up : Bool} {name : String} {value : AssertionValue}
      (fine : touched name → up = true) : Upright touched up (.equality name value)
  | junction {up : Bool} {op : Junction} {operands : List Filter}
      (parts : ∀ operand ∈ operands, Upright touched up operand) :
      Upright touched up (.junction op operands)
  | not {up : Bool} {operand : Filter} (part : Upright touched (!up) operand) :
      Upright touched up (.not operand)

theorem settled_kept (name : String) (value : AssertionValue) :
    leaves name value = none ∨ leaves name value = settled s s' leaves name value := by
  unfold settled
  split
  · cases leaves name value <;> simp
  · exact .inr rfl

-- The connectives are monotone in what is known: settling open leaves changes only open trees.
theorem tree_kept (tree : EqualityTree f) :
    treeTruth leaves f = none ∨ treeTruth leaves f = treeTruth (settled s s' leaves) f := by
  induction tree with
  | equality name value => exact settled_kept name value
  | not part ih =>
      simp only [treeTruth]
      rcases ih with unknown | same
      · simp [unknown]
      · simp [same]
  | junction parts ih =>
      simp only [treeTruth, tree_truths_eq_map]
      exact Junction.verdict_kept _ _ ih

theorem upright_kept {up : Bool} (upright : Upright (learnedSingle s s') up f)
    (after : treeTruth (settled s s' leaves) f = some up) : treeTruth leaves f = some up := by
  -- What is settled becomes false, so under the polarity `up` it can only have been so before.
  induction upright with
  | @equality up name value fine =>
      change settled s s' leaves name value = some up at after
      change leaves name value = some up
      cases touched : learnedSingle s s' name with
      | false => simpa [settled, touched] using after
      | true =>
          have up_true := fine touched
          subst up_true
          cases before : leaves name value <;> simp_all [settled]
  | @not up operand part ih =>
      simp only [treeTruth, Option.map_eq_some_iff] at after ⊢
      obtain ⟨b, inner, rfl⟩ := after
      rw [Bool.not_not] at ih
      exact ⟨b, ih inner, rfl⟩
  | junction parts ih =>
      simp only [treeTruth, tree_truths_eq_map] at after ⊢
      exact Junction.verdict_passed _ _ _ ih after

theorem holds_changes {before after : Option Bool} (kept : before = none ∨ before = after) :
    (before == some true → after == some true) ∧
      ((before == some true) ≠ (after == some true) ↔ before = none ∧ after = some true) := by
  rcases kept with rfl | rfl
  · simp
  · constructor
    · exact id
    · simp only [ne_eq, not_true_eq_false, false_iff, not_and]
      rintro rfl
      simp

/-- What a schema may change by learning the shapes that a document stores. -/
theorem learned_shape_accepts [Like.PatternRoom] (ctx : CompileContext) (tree : EqualityTree f)
    (learned : Learns ctx.resolve doc s s') :
    Compilation.Corresponds (fun c c' =>
      (c.expression.accepts doc → c'.expression.accepts doc) ∧
      (c.expression.accepts doc ≠ c'.expression.accepts doc ↔
        treeTruth (leafTruth (withSchema ctx s) doc) f = none ∧
          treeTruth (settled s s' (leafTruth (withSchema ctx s) doc)) f = some true) ∧
      (Upright (learnedSingle s s') true f →
        c.expression.accepts doc = c'.expression.accepts doc))
      (compile (withSchema ctx s) f) (compile (withSchema ctx s') f) := by
  apply Compilation.corresponds_weaken (compile_both _ _ tree)
  intro c c' left right _
  have before : Expr.truth (Expr.eval doc [] c.expression) =
      treeTruth (leafTruth (withSchema ctx s) doc) f :=
    (truth_compile_at left (Nat.le_refl _) doc).trans (meaning_eq_tree tree left)
  have after : Expr.truth (Expr.eval doc [] c'.expression) =
      treeTruth (settled s s' (leafTruth (withSchema ctx s) doc)) f := by
    rw [truth_compile_at right (Nat.le_refl _) doc, meaning_eq_tree tree right]
    exact congrArg (treeTruth · f) (funext fun name => funext (leaf_settled learned name))
  have kept : treeTruth (leafTruth (withSchema ctx s) doc) f = none ∨
      treeTruth (leafTruth (withSchema ctx s) doc) f =
        treeTruth (settled s s' (leafTruth (withSchema ctx s) doc)) f := tree_kept tree
  simp only [Expr.accepts, before, after]
  obtain ⟨stays, changes⟩ := holds_changes kept
  refine ⟨stays, changes, ?_⟩
  intro upright
  rw [Bool.eq_iff_iff]
  constructor
  · exact stays
  · intro holds
    rw [beq_iff_eq] at holds ⊢
    exact upright_kept upright holds

def storedY : Json := .object [("a", .string "y")]

def notX : Filter := .not (.equality "a" (.string "x"))

def knowsA : Schema := .ofNamed [("a", ⟨.single, false⟩)]

theorem knowsA_learns : Learns id storedY .empty knowsA := by
  intro name
  by_cases own : name = "a"
  · subst own
    exact .inr ⟨rfl, .string "y", rfl, rfl⟩
  · have other : (name == "a") = false := by simpa using own
    exact .inl (by simp [knowsA, Schema.ofNamed, Schema.cardinality, Schema.empty,
      List.lookup_cons, other])

theorem negation_accepts_once_learned :
    ∃ c c', (compile (withSchema ⟨.empty, id, .none, 3⟩ .empty) notX).result = .ok c ∧
      (compile (withSchema ⟨.empty, id, .none, 3⟩ knowsA) notX).result = .ok c' ∧
      c.expression.accepts storedY ≠ c'.expression.accepts storedY := by
  have tree : EqualityTree notX := .not (.equality "a" (.string "x"))
  have both := learned_shape_accepts ⟨.empty, id, .none, 3⟩ tree knowsA_learns
  refine ⟨_, _, rfl, rfl, ?_⟩
  exact ((Compilation.corresponds_ok_iff rfl rfl).mp both).2.1.mpr ⟨by decide, by decide⟩

theorem negation_depends_on_shape :
    EqualityTree notX ∧ Learns id storedY .empty knowsA ∧
      ((compile ⟨.empty, id, .none, 3⟩ notX).result.toOption.map
        (·.expression.accepts storedY)) = some false ∧
      ((compile ⟨knowsA, id, .none, 3⟩ notX).result.toOption.map
        (·.expression.accepts storedY)) = some true :=
  ⟨.not (.equality "a" (.string "x")), knowsA_learns, by decide, by decide⟩

end FilterQuery.StoredShape
