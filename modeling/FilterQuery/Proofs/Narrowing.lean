import FilterQuery.Proofs.PlainDisjunction
import FilterQuery.Proofs.RawTransparency

/-!
The width of an integer leaves no trace in what is compiled. A filter and the same filter with every
long word replaced by a half-width word, wherever one holds the number, compile to the same
expression with the same flag, or both fail for one reason. Compiling a narrowed node is compiling
the node over narrowed parts, and a part counts only by its result.
-/
namespace FilterQuery

def AssertionValue.narrow : AssertionValue → AssertionValue
  | .long n => if Number.inHalfRange n.toInt then .int (Int32.ofInt n.toInt) else .long n
  | other => other

def Test.narrow : Test → Test
  | .compare op value => .compare op value.narrow
  | other => other

namespace Filter

mutual
/-- The filter with its values narrowed, those inside aliases included. RAW text stays as it is. -/
def narrow : Filter → Filter
  | .leaf name test aliasFilter marker => .leaf name test.narrow (narrowAlias aliasFilter) marker
  | .junction op operands => .junction op (narrowAll operands)
  | .not operand => .not operand.narrow
  | other => other

def narrowAlias : Option Filter → Option Filter
  | none => none
  | some aliasFilter => some aliasFilter.narrow

def narrowAll : List Filter → List Filter
  | [] => []
  | operand :: rest => operand.narrow :: narrowAll rest
end

end Filter

theorem half_range_back {i : Int} (fits : Number.inHalfRange i) : (Int32.ofInt i).toInt = i := by
  simp only [Number.inHalfRange, Bool.and_eq_true, decide_eq_true_eq] at fits
  exact Int32.toInt_ofInt_of_le fits.1 fits.2

namespace AssertionValue

theorem narrow_literal (value : AssertionValue) :
    Literal.ofValue value.narrow = Literal.ofValue value := by
  cases value with
  | long n =>
      rw [narrow]
      split
      · rename_i fits
        have same : (Int32.ofInt n.toInt).toInt64 = n := by
          apply Int64.toInt_inj.mp
          rw [Int32.toInt_toInt64, half_range_back fits]
        rw [Literal.ofValue, same, Literal.ofValue]
      · rfl
  | _ => rfl

theorem narrow_directory_text (value : AssertionValue) :
    value.narrow.directoryText = value.directoryText := by
  cases value with
  | long n =>
      rw [narrow]
      split
      · rename_i fits
        rw [directoryText, half_range_back fits, directoryText]
      · rfl
  | _ => rfl

end AssertionValue

theorem Test.narrow_kind (test : Test) : test.narrow.kind = test.kind := by
  cases test <;> rfl

namespace Filter

theorem raw_of_kind {f : Filter} (raw : f.kind = .raw) : ∃ text, f = .raw text := by
  cases f with
  | raw text => exact ⟨text, rfl⟩
  | leaf name test aliasFilter marker =>
      cases test with
      | compare op value => cases op <;> cases raw
      | _ => cases raw
  | junction op operands => cases op <;> cases raw
  | _ => cases raw

theorem narrow_all_eq_map (operands : List Filter) : narrowAll operands = operands.map narrow := by
  induction operands with
  | nil => rfl
  | cons operand rest ih => rw [narrowAll, ih, List.map_cons]

theorem narrow_kind (f : Filter) : f.narrow.kind = f.kind := by
  cases f with
  | leaf name test aliasFilter marker => exact test.narrow_kind
  | _ => rfl

theorem narrow_proper_name (f : Filter) : f.narrow.properName? = f.properName? := by
  cases f <;> rfl

theorem narrow_marker (f : Filter) : f.narrow.marker = f.marker := by
  cases f <;> rfl

theorem narrow_children (f : Filter) : f.narrow.children = f.children.map narrow := by
  cases f with
  | leaf name test aliasFilter marker => cases aliasFilter <;> rfl
  | junction op operands => exact narrow_all_eq_map operands
  | _ => rfl

theorem narrow_effective_name (f : Filter) : f.narrow.effectiveName? = f.effectiveName? := by
  have names : properName? ∘ narrow = properName? := funext narrow_proper_name
  rw [effectiveName?, narrow_proper_name, narrow_children, List.findSome?_map, names,
    effectiveName?]

theorem narrow_withName (f : Filter) (name : String) :
    (f.withName name).narrow = f.narrow.withName name := by
  cases f <;> rfl

end Filter

namespace CompileContext

theorem narrow_internal_name (ctx : CompileContext) (node : Filter) :
    ctx.internalName node.narrow = ctx.internalName node := by
  rw [internalName, node.narrow_effective_name, node.narrow_kind, internalName]

theorem narrow_contributes (ctx : CompileContext) (node : Filter) :
    ctx.contributes node.narrow = ctx.contributes node := by
  rw [contributes, node.narrow_proper_name, contributes]

theorem narrow_cardinality (ctx : CompileContext) (node : Filter) :
    ctx.cardinality node.narrow = ctx.cardinality node := by
  rw [cardinality, node.narrow_proper_name, node.narrow_marker, cardinality]

end CompileContext

open Compilation

variable {ctx : CompileContext}

-- The induction is the same for both backends; what differs is how a node is put together.
theorem narrow_same {α : Type} {compileAt : Nat → Nat → Filter → Compilation α}
    {compileNode : (Filter → Compilation α) → Filter → Compilation α}
    (tooDeep : ∀ depth f g, (compileAt 0 depth f).result = (compileAt 0 depth g).result)
    (entered : ∀ levels depth f node, ctx.parsed? f = some node →
      (compileAt (levels + 1) depth f).result =
        (compileNode (compileAt levels (depth + 1)) node).result)
    (commutes : ∀ child f,
      compileNode child f.narrow = compileNode (fun g => child g.narrow) f)
    (congr : ∀ child other, (∀ g, Corresponds Eq (child g) (other g)) →
      ∀ f, Corresponds Eq (compileNode child f) (compileNode other f))
    (levels depth : Nat) (f : Filter) :
    (compileAt levels depth f.narrow).result = (compileAt levels depth f).result := by
  induction levels generalizing depth f with
  | zero => exact tooDeep depth _ _
  | succ levels ih =>
      by_cases raw : f.kind = .raw
      · obtain ⟨text, rfl⟩ := Filter.raw_of_kind raw
        rfl
      · have still : f.narrow.kind ≠ .raw := fun same => raw (f.narrow_kind.symm.trans same)
        rw [entered _ _ _ _ (ctx.parsed_self raw), entered _ _ _ _ (ctx.parsed_self still),
          commutes]
        apply (corresponds_eq_iff _ _).mp
        apply congr
        intro g
        exact (corresponds_eq_iff _ _).mpr (ih _ g)

namespace Directory

theorem narrow_leaf (ctx : CompileContext) (node : Filter) (query : String → DirectoryQuery) :
    compileLeaf ctx node.narrow query = compileLeaf ctx node query := by
  rw [compileLeaf, ctx.narrow_internal_name, ctx.narrow_contributes, compileLeaf]

theorem narrow_node (child : Filter → Compilation (Compiled DirectoryQuery)) (f : Filter) :
    compileNode ctx child f.narrow = compileNode ctx (fun g => child g.narrow) f := by
  cases f with
  | leaf name test aliasFilter marker =>
      cases test with
      | compare op value =>
          have same := narrow_leaf ctx (.leaf name (.compare op value) aliasFilter marker)
            (.compare op · value.narrow.directoryText)
          refine same.trans ?_
          rw [value.narrow_directory_text]
          rfl
      | substring components =>
          exact narrow_leaf ctx (.leaf name (.substring components) aliasFilter marker) _
      | presence => exact narrow_leaf ctx (.leaf name .presence aliasFilter marker) _
  | junction op operands =>
      rw [Filter.narrow, Filter.narrow_all_eq_map, compileNode, List.isEmpty_map, each_map,
        compileNode]
  | _ => rfl

theorem node_congr {child other : Filter → Compilation (Compiled DirectoryQuery)}
    (same : ∀ g, Corresponds Eq (child g) (other g)) (f : Filter) :
    Corresponds Eq (compileNode ctx child f) (compileNode ctx other f) := by
  cases f with
  | leaf name test aliasFilter marker =>
      cases test <;> exact corresponds_of_result_eq rfl fun _ => rfl
  | not operand =>
      apply corresponds_bind (same operand)
      rintro part _ _ rfl
      exact corresponds_pure rfl
  | junction op operands =>
      rw [compileNode, compileNode]
      split
      · exact corresponds_fail _
      · apply corresponds_bind (corresponds_each_same operands fun g _ => same g)
        rintro parts _ _ rfl
        exact corresponds_pure rfl
  | _ => exact corresponds_fail _

theorem compile_narrow (f : Filter) :
    (compile ctx f.narrow).result = (compile ctx f).result :=
  narrow_same (fun _ _ _ => rfl) (fun _ depth _ _ parsed => ctx.enter_bind_result depth parsed _)
    narrow_node (fun _ _ => node_congr) ctx.maxDepth 0 f

end Directory

namespace Document

theorem narrow_expression (value : AssertionValue) :
    Expr.ofValue value.narrow = Expr.ofValue value := by
  rw [Expr.ofValue, value.narrow_literal, Expr.ofValue]

theorem narrow_test (ctx : CompileContext) (node : Filter) (condition : Expr → Expr) :
    compileTest ctx (ctx.contributes node.narrow) node.narrow condition =
      compileTest ctx (ctx.contributes node) node condition := by
  rw [compileTest, ctx.narrow_internal_name, ctx.narrow_contributes, ctx.narrow_cardinality,
    compileTest]

theorem narrow_equality (ctx : CompileContext) (child : Filter → Compilation (Compiled Expr))
    (node : Filter) (value : AssertionValue) (aliasFilter : Option Filter) :
    compileEquality ctx child (ctx.contributes node.narrow) node.narrow value.narrow
        (Filter.narrowAlias aliasFilter) =
      compileEquality ctx (fun g => child g.narrow) (ctx.contributes node) node value
        aliasFilter := by
  rw [compileEquality, ctx.narrow_internal_name, ctx.narrow_contributes, ctx.narrow_cardinality,
    narrow_expression, compileEquality]
  cases aliasFilter with
  | none => cases ctx.cardinality node <;> rfl
  | some aliasFilter =>
      simp only [Filter.narrowAlias, Filter.narrow_withName]
      cases ctx.cardinality node <;> rfl

theorem narrow_member_value (operand : Filter) :
    memberValue? ctx operand.narrow =
      (memberValue? ctx operand).map (Prod.map id AssertionValue.narrow) := by
  have shape := ctx.narrow_cardinality operand
  cases operand with
  | leaf name test aliasFilter marker =>
      cases test with
      | compare op value =>
          cases op with
          | equality =>
              cases aliasFilter with
              | some aliasFilter => rfl
              | none =>
                  change (if (ctx.cardinality (Filter.narrow _)).isSingle
                    then some (name, value.narrow) else none) = _
                  rw [shape, memberValue?]
                  split <;> rfl
          | _ => rfl
      | _ => rfl
  | _ => rfl

theorem narrow_values (operands : List Filter) :
    (operands.map Filter.narrow).mapM (memberValue? ctx) =
      (operands.mapM (memberValue? ctx)).map (List.map (Prod.map id AssertionValue.narrow)) := by
  induction operands with
  | nil => rfl
  | cons operand rest ih =>
      rw [List.map_cons, List.mapM_cons, List.mapM_cons, ih, narrow_member_value]
      cases memberValue? ctx operand with
      | none => rfl
      | some first => cases rest.mapM (memberValue? ctx) <;> rfl

theorem narrow_member_values (operands : List Filter) :
    memberValues? ctx (operands.map Filter.narrow) =
      (memberValues? ctx operands).map (Prod.map id (List.map AssertionValue.narrow)) := by
  unfold memberValues?
  rw [narrow_values]
  cases operands.mapM (memberValue? ctx) with
  | none => rfl
  | some values =>
      cases values with
      | nil => rfl
      | cons first rest =>
          simp only [Option.map_some, Option.bind_eq_bind, Option.bind_some, List.map_cons,
            List.head?_cons, List.all_cons, List.all_map, Function.comp_def, Prod.map_fst,
            Prod.map_snd, id, List.map_map]
          split <;> simp

theorem narrow_membership (internal : String) (values : List AssertionValue) :
    membership internal (values.map AssertionValue.narrow) = membership internal values := by
  have literals : Literal.ofValue ∘ AssertionValue.narrow = Literal.ofValue :=
    funext AssertionValue.narrow_literal
  rw [membership, List.map_map, literals, membership]

theorem narrow_junction (child : Filter → Compilation (Compiled Expr)) (op : Junction)
    (operands : List Filter) :
    compileJunction ctx child op (operands.map Filter.narrow) =
      compileJunction ctx (fun g => child g.narrow) op operands := by
  rw [compileJunction, List.isEmpty_map, each_map, narrow_member_values, compileJunction]
  cases op with
  | and => rfl
  | or =>
      cases memberValues? ctx operands with
      | none => rfl
      | some gathered =>
          obtain ⟨name, values⟩ := gathered
          simp only [Option.map_some, Prod.map_apply, id, narrow_membership, List.length_map]

theorem narrow_node (child : Filter → Compilation (Compiled Expr)) (f : Filter) :
    compileNode ctx child f.narrow = compileNode ctx (fun g => child g.narrow) f := by
  cases f with
  | leaf name test aliasFilter marker =>
      cases test with
      | compare op value =>
          have same := narrow_test ctx (.leaf name (.compare op value) aliasFilter marker)
          cases op with
          | equality =>
              exact narrow_equality ctx child
                (.leaf name (.compare .equality value) aliasFilter marker) value aliasFilter
          | atLeast =>
              refine (same (.binary · .atLeast (.ofValue value.narrow))).trans ?_
              rw [narrow_expression]
              rfl
          | atMost =>
              refine (same (.binary · .atMost (.ofValue value.narrow))).trans ?_
              rw [narrow_expression]
              rfl
          | approximate => rfl
      | substring components =>
          exact narrow_test ctx (.leaf name (.substring components) aliasFilter marker) _
      | presence => exact narrow_test ctx (.leaf name .presence aliasFilter marker) _
  | junction op operands =>
      rw [Filter.narrow, Filter.narrow_all_eq_map, compileNode, narrow_junction, compileNode]
  | _ => rfl

theorem node_congr {child other : Filter → Compilation (Compiled Expr)}
    (same : ∀ g, Corresponds Eq (child g) (other g)) (f : Filter) :
    Corresponds Eq (compileNode ctx child f) (compileNode ctx other f) := by
  cases f with
  | leaf name test aliasFilter marker =>
      exact leaf_related (fun _ => rfl) kept_eq (fun g _ => same g) fun g _ name => same _
  | not operand =>
      apply corresponds_bind (same operand)
      rintro part _ _ rfl
      exact corresponds_pure rfl
  | junction op operands =>
      change Corresponds Eq (compileJunction ctx child op operands)
        (compileJunction ctx other op operands)
      unfold compileJunction
      split
      · exact corresponds_fail _
      · apply corresponds_bind (corresponds_each_same operands fun g _ => same g)
        rintro parts _ _ rfl
        exact corresponds_of_result_eq rfl fun _ => rfl
  | _ => exact corresponds_of_result_eq rfl fun _ => rfl

theorem compile_narrow (f : Filter) :
    (compile ctx f.narrow).result = (compile ctx f).result :=
  narrow_same (fun _ _ _ => rfl) (fun _ depth _ _ parsed => ctx.enter_bind_result depth parsed _)
    narrow_node (fun _ _ => node_congr) ctx.maxDepth 0 f

end Document

end FilterQuery
