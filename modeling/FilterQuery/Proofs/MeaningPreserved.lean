import FilterQuery.Like.Weights
import FilterQuery.Proofs.DocumentSteps
import FilterQuery.Proofs.Meaning

/-!
Compiled document expressions keep the meaning of their filters. The result of an expression is the
value of the filter it was compiled from, under every scope of loop variables; a scope hides fields
of the document just as the elements of a record do. Truth and acceptance follow.
-/
namespace FilterQuery

theorem Double.order_eq_comm (a b : Double) : (a.order b == .eq) = (b.order a == .eq) := by
  rw [Bool.eq_iff_iff]
  simp only [Double.order, beq_iff_eq, Int.min_comm a.exponent b.exponent]
  exact Std.OrientedCmp.eq_comm

theorem Number.order_eq_comm (a b : Number) : (a.order b == .eq) = (b.order a == .eq) := by
  unfold Number.order
  cases left : a.signed? <;> cases right : b.signed?
  case some.some i j =>
      rw [Bool.eq_iff_iff]
      simp only [beq_iff_eq]
      exact Std.OrientedCmp.eq_comm
  all_goals exact Double.order_eq_comm _ _

-- An asserted value is no array or object, so it may stand on either side of an equality.
theorem Expr.equal_value_comm (value : AssertionValue) (found : Json) :
    Expr.equalValues value.toJson found = Expr.equalValues found value.toJson := by
  cases value with
  | bool b => cases found <;> first | rfl | exact Bool.beq_comm
  | int n => cases found <;> first | rfl | exact Number.order_eq_comm _ _
  | long n => cases found <;> first | rfl | exact Number.order_eq_comm _ _
  | string text => cases found <;> first | rfl | exact BEq.comm

namespace Meaning

open FilterQuery.Expr Document

variable {ctx : CompileContext} {doc : Json} {scope : Scope} {valueOf : Record → Filter → Option Json}

def view (doc : Json) (scope : Scope) : Record :=
  fun name => (scope.lookup name).or (doc.field? name)

theorem view_nil (doc : Json) : view doc [] = Record.ofDocument doc := by
  funext name
  simp [view, Record.ofDocument]

theorem view_cons (doc : Json) (scope : Scope) (name : String) (element : Json) :
    view doc ((name, element) :: scope) = (view doc scope).bind name element := by
  funext other
  by_cases same : other = name
  · simp [view, Record.bind, same]
  · have different : (other == name) = false := by simpa using same
    simp [view, Record.bind, List.lookup_cons, same, different]

section Settled

variable {r : Record} {internal : String} {test : Test} {aliasFilter : Option Filter}
  {shape : Cardinality}

theorem judge_leaf_settled [Like.PatternRoom]
    (settled : test.kind = .equality → aliasFilter = none ∧ shape ≠ .unknown) :
    judgeLeaf valueOf r internal test aliasFilter shape =
      if shape.isMulti then someElement (r internal) fun item => judge (some item) test
      else judge (r internal) test := by
  cases test with
  | presence => cases shape <;> rfl
  | substring components => cases shape <;> rfl
  | compare op value =>
      cases op with
      | equality =>
          obtain ⟨rfl, known⟩ := settled rfl
          cases shape with
          | unknown => exact absurd rfl known
          | _ => rfl
      | _ => cases shape <;> rfl

theorem leaf_missing_settled
    (settled : test.kind = .equality → aliasFilter = none ∧ shape ≠ .unknown) :
    leafIsMissing valueOf r internal test aliasFilter shape ↔
      !shape.isMulti ∧ test ≠ .presence ∧ (r internal).isNone := by
  cases test with
  | presence => cases shape <;> simp [leafIsMissing]
  | substring components => cases shape <;> simp [leafIsMissing, Cardinality.isMulti]
  | compare op value =>
      cases op with
      | equality =>
          obtain ⟨rfl, known⟩ := settled rfl
          cases shape with
          | unknown => exact absurd rfl known
          | _ => simp [leafIsMissing, Cardinality.isMulti]
      | _ => cases shape <;> simp [leafIsMissing, Cardinality.isMulti]

end Settled

section Evaluation

variable [Like.PatternRoom]

theorem eval_path (name : String) : eval doc scope (.path name) = view doc scope name := by
  simp [eval, view]

theorem eval_condition {test : Test} {condition : Expr → Expr}
    (can : condition? test = some condition) (e : Expr) :
    eval doc scope (condition e) =
      if test ≠ .presence ∧ (eval doc scope e).isNone then none
      else some (ofBool? (judge (eval doc scope e) test)) := by
  cases test with
  | presence =>
      cases can
      simp [eval, judge, ofBool?]
  | substring components =>
      cases can
      simp only [eval, combine, Literal.toJson]
      cases eval doc scope e with
      | none => rfl
      | some found =>
          cases found with
          | string text =>
              simp [compareValues, judge, Json.string?, Like.matches?, Like.patternText,
                substringTest, Like.match_components]
          | _ => rfl
  | compare op value =>
      cases op with
      | approximate => cases can
      | equality =>
          cases can
          rw [eval_eq_value]
          cases eval doc scope e <;> rfl
      | atLeast =>
          cases can
          simp only [eval, combine, eval_value]
          cases eval doc scope e <;> rfl
      | atMost =>
          cases can
          simp only [eval, combine, eval_value]
          cases eval doc scope e <;> rfl

theorem eval_any (element internal : String) (condition : Expr) (passes : Json → Option Bool)
    (judged : ∀ item, truth (eval doc ((element, item) :: scope) condition) = passes item) :
    eval doc scope (.any element (.path internal) condition) =
      some (ofBool? (someElement (view doc scope internal) passes)) := by
  simp only [eval, ← view.eq_1]
  cases view doc scope internal with
  | none => rfl
  | some found =>
      cases found with
      | array items => simp [someElement, judged, ofBool?]
      | _ => rfl

theorem eval_both_shapes (internal : String) (value : AssertionValue) :
    eval doc scope (matchBothShapes internal (.ofValue value)) =
      some (ofBool? (judgeEitherShape (view doc scope internal) value)) := by
  have direct : eval doc scope (.grouped (.eq (.path internal) (.ofValue value))) =
      (view doc scope internal).map fun found => .bool (equalValues found value.toJson) := by
    rw [eval, eval_eq_value, eval_path]
  have search : eval doc scope (.grouped (.binary (.ofValue value) .isIn (.path internal))) =
      (view doc scope internal).map fun found => compareValues .isIn value.toJson found := by
    simp only [eval, eval_value, combine, ← view.eq_1]
    cases view doc scope internal <;> rfl
  rw [matchBothShapes, eval, eval, direct, search]
  change some (ofBool? (either _ _)) = _
  congr 2
  -- The search is null on anything but an array, and a null operand leaves only what is true.
  cases view doc scope internal with
  | none => rfl
  | some found =>
      cases found with
      | array items =>
          have swapped : items.any (equalValues value.toJson) =
              items.any (equalValues · value.toJson) :=
            congrArg items.any (funext (equal_value_comm value))
          simp only [Option.map_some, compareValues, truth_bool, judgeEitherShape, swapped]
          cases equalValues (.array items) value.toJson <;>
            cases items.any (equalValues · value.toJson) <;> rfl
      | _ =>
          simp only [Option.map_some, compareValues, truth_bool, judgeEitherShape]
          split <;> rename_i same <;> simp [same, either, truth]

theorem eval_on_attribute {test : Test} {condition : Expr → Expr}
    (can : condition? test = some condition) (shape : Cardinality) (internal : String) :
    eval doc scope (onAttribute shape internal condition) =
      if !shape.isMulti ∧ test ≠ .presence ∧ (view doc scope internal).isNone then none
      else some (ofBool?
        (if shape.isMulti then
          someElement (view doc scope internal) fun item => judge (some item) test
        else judge (view doc scope internal) test)) := by
  cases multi : shape.isMulti with
  | true =>
      have each : ∀ item, truth (eval doc ((elementName internal, item) :: scope)
          (condition (.path (elementName internal)))) = judge (some item) test := by
        intro item
        simp [eval_condition can, eval]
      simp [onAttribute, multi, eval_any _ _ _ _ each]
  | false =>
      simp [onAttribute, multi, eval_condition can, eval_path]

theorem eval_operands {child : Filter → Compiled Expr → Prop}
    (kept : ∀ f d, child f d → ∀ scope, eval doc scope d.expression = valueOf (view doc scope) f)
    {operands : List Filter} {compiled : List (Compiled Expr)}
    (done : List.Forall₂ child operands compiled) (scope : Scope) :
    compiled.map (fun c => eval doc scope c.expression) =
      operands.map (valueOf (view doc scope)) := by
  induction done with
  | nil => rfl
  | cons here _ ih => rw [List.map_cons, List.map_cons, kept _ _ here, ih]

theorem node_value_leaf {r : Record} {node : Filter} {own name : String} {test : Test}
    {aliasFilter : Option Filter} {marker : Cardinality}
    (leaf : node = .leaf own test aliasFilter marker) (named : node.effectiveName? = some name) :
    nodeValue ctx valueOf r node =
      if leafIsMissing valueOf r (ctx.resolve name) test aliasFilter (ctx.cardinality node)
      then none
      else some (ofBool?
        (judgeLeaf valueOf r (ctx.resolve name) test aliasFilter (ctx.cardinality node))) := by
  subst leaf
  simp [nodeValue, isMissing, judgeNode, named]

theorem node_value_members {r : Record} {operands : List Filter} {name : String}
    {values : List AssertionValue} (found : memberValues? ctx operands = some (name, values))
    (known : operands.map (valueOf r) = values.map fun value =>
      (r (ctx.resolve name)).map fun found => .bool (equalValues found value.toJson)) :
    nodeValue ctx valueOf r (.junction .or operands) =
      (r (ctx.resolve name)).map fun found =>
        .bool (values.any fun value => equalValues found value.toJson) := by
  have truths : operands.map (fun f => truth (valueOf r f)) =
      (operands.map (valueOf r)).map truth := by
    rw [List.map_map]; rfl
  match operands with
  | [] => simp [memberValues?] at found
  -- Alone, the operand has the value of its comparison, which is that of a membership in one value.
  | [only] =>
      obtain ⟨value, rfl, same⟩ := List.map_eq_singleton_iff.mp known.symm
      simp [nodeValue, ← same]
  | first :: second :: rest =>
      have verdict : judgeNode ctx (fun f => truth (valueOf r f)) valueOf r
          (.junction .or (first :: second :: rest)) = Junction.or.verdict (values.map fun value =>
            (r (ctx.resolve name)).map fun found => equalValues found value.toJson) := by
        rw [judgeNode, truths, known, List.map_map]
        apply congrArg Junction.or.verdict
        apply List.map_congr_left
        intro value _
        cases r (ctx.resolve name) <;> rfl
      cases absent : r (ctx.resolve name) with
      | none => simp [nodeValue, isMissing, found, absent]
      | some value =>
          rw [absent] at verdict
          have decided := Junction.or_verdict_known
            (fun asserted => equalValues value asserted.toJson) values
          simp only [Option.map_some] at verdict
          simp [nodeValue, isMissing, found, absent, verdict, decided, ofBool?]

theorem node_value_junction {r : Record} {op : Junction} {first second : Filter}
    {rest : List Filter} (plain : op = .or → memberValues? ctx (first :: second :: rest) = none) :
    nodeValue ctx valueOf r (.junction op (first :: second :: rest)) =
      some (ofBool? (op.verdict ((first :: second :: rest).map fun f => truth (valueOf r f)))) := by
  cases op with
  | and => rfl
  | or => simp [nodeValue, isMissing, plain rfl, judgeNode]

-- The step lemma: where the parts of a node have their values, so has the node.
theorem eval_step {child : Filter → Compiled Expr → Prop}
    (kept : ∀ f d, child f d → ∀ scope, eval doc scope d.expression = valueOf (view doc scope) f)
    (gathered : ∀ operands name values compiled,
      memberValues? ctx operands = some (name, values) → List.Forall₂ child operands compiled →
        compiled.map (·.expression) =
          values.map fun value => .eq (.path (ctx.resolve name)) (.ofValue value))
    {node : Filter} {c : Compiled Expr} (step : Document.Step ctx child node c) (scope : Scope) :
    eval doc scope c.expression = nodeValue ctx valueOf (view doc scope) node := by
  cases step with
  | lowercase named => simp [eval, evalFirst, Expr.lower, nodeValue, view]
  | not done =>
      rename_i operand compiled
      simp only [eval, kept _ _ done, nodeValue, isMissing, judgeNode]
      obtain absent | ⟨value, found⟩ := (valueOf (view doc scope) operand).eq_none_or_eq_some
      · simp [absent, negate]
      · cases value <;> simp [found, negate, truth, ofBool?]
  | @membership operands compiled name values done found =>
      have known : operands.map (valueOf (view doc scope)) = values.map fun value =>
          (view doc scope (ctx.resolve name)).map fun found =>
            .bool (equalValues found value.toJson) := by
        rw [← eval_operands kept done]
        have plain := gathered _ _ _ _ found done
        have evaluated := congrArg (List.map (eval doc scope)) plain
        simpa [eval_eq_value, eval_path, Function.comp_def] using evaluated
      rw [eval_membership, eval_path, node_value_members found known]
  | @joined op operands first rest done plain =>
      cases done with
      | @cons f _ operands _ here later =>
          cases later with
          | nil => exact kept _ _ here scope
          | cons next others =>
              -- From two operands on, only their truths count.
              have parts := congrArg (List.map truth)
                (eval_operands kept (.cons here (.cons next others)) scope)
              rw [List.map_map, List.map_map] at parts
              rw [node_value_junction plain, eval, List.map_cons, eval_join_more]
              refine congrArg (fun truths => some (ofBool? (op.verdict truths))) ?_
              rw [← List.map_cons, ← List.map_cons, List.map_map]
              exact parts
  | @eachElement _ own value aliasFilter marker name tested leaf named shape done =>
      rw [node_value_leaf leaf named, shape]
      simp only [leafIsMissing, judgeLeaf]
      apply eval_any
      intro item
      -- The alias is evaluated where the loop variable hides a field of its name.
      rw [eval_eq_value, kept _ _ done, view_cons]
      cases valueOf _ _ <;> rfl
  | @aliased _ own value aliasFilter marker name tested leaf named shape done =>
      rw [node_value_leaf leaf named, eval_eq_value, kept _ _ done]
      cases known : ctx.cardinality node with
      | multi => exact absurd known shape
      | _ =>
          simp only [leafIsMissing, judgeLeaf]
          obtain absent | ⟨value, found⟩ :=
            (valueOf (view doc scope) aliasFilter).eq_none_or_eq_some
          · simp [absent]
          · simp [found, ofBool?]
  | @bothShapes _ own value marker name leaf named shape =>
      rw [node_value_leaf leaf named, shape, eval_both_shapes]
      rfl
  | @tested _ own test aliasFilter marker name condition leaf named can settled =>
      rw [node_value_leaf leaf named, judge_leaf_settled settled]
      simp only [leaf_missing_settled settled]
      exact eval_on_attribute can _ _

-- The run lemma. More levels than the compilation had change nothing.
theorem eval_compile_at {levels more depth : Nat} {f : Filter} {c : Compiled Expr}
    (compiled : (compileAt ctx levels depth f).result = .ok c) (enough : levels ≤ more)
    (scope : Scope) : eval doc scope c.expression = valueAt ctx more (view doc scope) f := by
  induction levels generalizing more depth f c scope with
  | zero => simp [compileAt] at compiled
  | succ levels ih =>
      obtain ⟨left, node, same, parsed, step⟩ := compile_at_step compiled
      cases same
      obtain ⟨more, rfl⟩ := Nat.exists_eq_add_of_lt enough
      rw [valueAt, parsed, Option.bind_some]
      apply eval_step _ _ step scope
      · intro g d done scope
        exact ih done (Nat.le_add_right _ _) scope
      · intro operands name values compiled members done
        exact member_expressions members done

theorem truth_compile_at {levels more depth : Nat} {f : Filter} {c : Compiled Expr}
    (compiled : (compileAt ctx levels depth f).result = .ok c) (enough : levels ≤ more)
    (doc : Json) :
    truth (eval doc [] c.expression) = meaningAt ctx more (Record.ofDocument doc) f := by
  rw [eval_compile_at compiled enough, truth_valueAt, view_nil]

/-- A compiled expression is true, false or neither as its filter says, so it accepts the documents
of which the filter holds. -/
theorem compile_preserves_meaning {f : Filter} {c : Compiled Expr} {levels : Nat}
    (compiled : (compile ctx f).result = .ok c) (enough : ctx.maxDepth ≤ levels) (doc : Json) :
    truth (eval doc [] c.expression) = meaningAt ctx levels (Record.ofDocument doc) f ∧
      (c.expression.accepts doc ↔ meaningAt ctx levels (Record.ofDocument doc) f = some true) := by
  have kept := truth_compile_at compiled enough doc
  refine ⟨kept, ?_⟩
  rw [accepts, beq_iff_eq, kept]

end Evaluation

/-- People with no tag `b` in any case, whose account ends by 9 and who have an address at `a`. The
shapes come from the filter for `tags`, from the schema for `exp` and `mail`, and from its name for
`objectClass`, whatever the schema says. -/
def untagged : Filter :=
  .and [
    .not (.leaf "tags" (.compare .equality (.string "b")) (some (.lowercase "")) .multi),
    .test "exp" (.compare .atMost (.int 9)),
    .test "mail" (.substring ⟨some "a@", [], none⟩),
    .test "objectclass" (.compare .equality (.string "person"))]

def directory : CompileContext :=
  ⟨.ofNamed [("exp", ⟨.single, true⟩), ("mail", ⟨.multi, false⟩), ("objectclass", ⟨.multi, false⟩)],
    id, .none, 4⟩

def untaggedExpr : Expr :=
  .grouped (.join .and
    (.grouped (.not
      (.any "tags_" (.path "tags") (.eq (.lower (.path "tags_")) (.ofValue (.string "b"))))))
    [.binary (.path "exp") .atMost (.ofValue (.int 9)),
      .any "mail_" (.path "mail") (.binary (.path "mail_") .like (.literal (.string "a@%"))),
      .eq (.path "objectclass") (.ofValue (.string "person"))])

def person (tags : List Json) : Json :=
  .object [
    ("exp", .int 7),
    ("mail", .array [.string "b@c", .string "a@c"]),
    ("objectclass", .string "person"),
    ("tags", .array tags),
    -- The element that is looked at has this name and hides the field.
    ("tags_", .string "B")]

theorem meaning_preserved_behind_fields :
    (compile directory untagged).result = .ok ⟨untaggedExpr, true⟩ ∧
    meaningAt directory 4 (Record.ofDocument (person [.string "A", .string "B"])) untagged =
      some false ∧
    untaggedExpr.accepts (person [.string "A"]) = true := by
  have compiled : (compile directory untagged).result = .ok ⟨untaggedExpr, true⟩ := rfl
  refine ⟨compiled, by decide, ?_⟩
  exact (compile_preserves_meaning compiled (Nat.le_refl 4) _).2.mpr (by decide)

end Meaning

end FilterQuery
