import FilterQuery.Like.Weights
import FilterQuery.Proofs.FreeNames

/-!
What the alias of an equality on an array looks at. It is compiled under the name of the element,
but only a LOWERCASE takes that name as it stands; any other leaf has it resolved like the name of
an attribute. Where a resolver keeps the name of the element, the alias tests elements and the
equality reads nothing but its array. Where it does not, no element is looked at: the alias tests a
field of the document, and the array only has to hold something.
-/
namespace FilterQuery.Document

open FilterQuery.Expr Meaning

/-- Documents that store one value under a name, or none, are both accepted or both rejected. -/
def ReadsOnly [Like.PatternRoom] (e : Expr) (name : String) : Prop :=
  ∀ doc doc' : Json, doc.field? name = doc'.field? name → e.accepts doc = e.accepts doc'

theorem free_condition {test : Test} {condition : Expr → Expr}
    (can : condition? test = some condition) (e : Expr) :
    (condition e).freeNames = e.freeNames := by
  cases test with
  | presence => cases can; rfl
  | substring components => cases can; exact List.append_nil _
  | compare op value =>
      cases op with
      | approximate => cases can
      | _ => cases can; exact List.append_nil _

theorem free_on_attribute {condition : Expr → Expr}
    (keeps : ∀ e, (condition e).freeNames = e.freeNames) (shape : Cardinality)
    (internal : String) :
    ∀ other ∈ (onAttribute shape internal condition).freeNames, other = internal := by
  unfold onAttribute
  split <;> simp [freeNames, keeps]

variable {ctx : CompileContext} {child : Filter → Compiled Expr → Prop}

theorem free_plain_leaf {own name : String} {test : Test} {marker : Cardinality}
    {c : Compiled Expr} (step : Step ctx child (.leaf own test none marker) c)
    (named : (Filter.leaf own test none marker).effectiveName? = some name) :
    ∀ other ∈ c.expression.freeNames, other = ctx.resolve name := by
  cases step with
  | eachElement leaf => cases leaf
  | aliased leaf => cases leaf
  | bothShapes leaf found =>
      cases named.symm.trans found
      simp [matchBothShapes, freeNames, Expr.eq, Expr.ofValue]
  | tested leaf found can =>
      cases named.symm.trans found
      exact free_on_attribute (free_condition can) _ _

/-- The name that an alias looks at when it is compiled for an element. -/
def nameSeen (ctx : CompileContext) (element : String) : Filter → String
  | .lowercase _ => element
  | _ => ctx.resolve element

theorem free_alias {aliasFilter : Filter} {element : String} {tested : Compiled Expr}
    (leaf : aliasFilter.name?.isSome) (plain : aliasFilter.alias? = none) (proper : element ≠ "")
    (step : Step ctx child (aliasFilter.withName element) tested) :
    ∀ other ∈ tested.expression.freeNames, other = nameSeen ctx element aliasFilter := by
  cases aliasFilter with
  | raw text => cases leaf
  | junction op operands => cases leaf
  | not operand => cases leaf
  | leaf own test further marker =>
      cases plain
      exact free_plain_leaf step (own_name_iff.mpr ⟨proper, rfl⟩)
  | lowercase own =>
      cases step with
      | lowercase => simp [freeNames, freeNamesOfAll, Expr.lower, nameSeen]
      | eachElement leaf => cases leaf
      | aliased leaf => cases leaf
      | bothShapes leaf => cases leaf
      | tested leaf => cases leaf

theorem element_name_proper (internal : String) : elementName internal ≠ "" := by
  intro empty
  have last : '_' ∈ (elementName internal).toList := by simp [elementName]
  rw [empty] at last
  cases last

def holding (internal seen : String) (found : Option Json) : Json :=
  .object ((internal, .array [.null]) :: found.toList.map (seen, ·))

theorem field_holding {internal seen : String} (apart : seen ≠ internal) (found : Option Json) :
    (holding internal seen found).field? seen = found := by
  have different : (seen == internal) = false := by simpa using apart
  cases found <;> simp [holding, Json.field?, List.lookup_cons, different]

section Acceptance

variable [Like.PatternRoom] {e condition : Expr} {element internal : String}

theorem accepts_agree (names : List String) (free : ∀ name ∈ e.freeNames, name ∈ names)
    {doc doc' : Json} (same : ∀ name ∈ names, doc.field? name = doc'.field? name) :
    e.accepts doc = e.accepts doc' := by
  have agree : AgreeOn e.freeNames (view doc []) (view doc' []) := by
    intro name inside
    rw [view_nil, view_nil]
    exact same name (free name inside)
  rw [accepts, accepts, eval_agree e agree]

def storesElement (doc : Json) (internal : String) : Bool :=
  match doc.field? internal with
  | some (.array items) => !items.isEmpty
  | _ => false

-- A condition that does not look at the element is one for the whole document.
theorem accepts_any_of_unseen (unseen : element ∉ condition.freeNames) (doc : Json) :
    (Expr.any element (.path internal) condition).accepts doc =
      (storesElement doc internal && condition.accepts doc) := by
  have each : ∀ item, eval doc [(element, item)] condition = eval doc [] condition := by
    intro item
    apply eval_agree
    intro name inside
    have other : name ≠ element := fun same => unseen (same ▸ inside)
    rw [view_cons]
    simp [Record.bind, other]
  unfold accepts storesElement
  rw [eval]
  simp only [each, eval, List.lookup_nil, Option.none_or]
  cases doc.field? internal with
  | none => rfl
  | some stored =>
      cases stored with
      | array items => cases items <;> simp [truth]
      | _ => rfl

theorem any_reads_only (bound : ∀ name ∈ condition.freeNames, name = element ∨ name = internal) :
    ReadsOnly (.any element (.path internal) condition) internal := by
  intro doc doc' same
  have free : ∀ name ∈ (Expr.any element (.path internal) condition).freeNames,
      name ∈ [internal] := by
    simp only [freeNames, List.mem_append, List.mem_filter, decide_eq_true_eq]
    rintro name (source | ⟨inside, other⟩)
    · exact source
    · exact List.mem_singleton.mpr ((bound name inside).resolve_left other)
  exact accepts_agree [internal] free (by simpa using same)

theorem any_reads_only_iff {condition : Expr} {element internal seen : String}
    (free : ∀ name ∈ condition.freeNames, name = seen) :
    ReadsOnly (.any element (.path internal) condition) internal ↔
      seen = element ∨ seen = internal ∨
        ∀ doc doc', condition.accepts doc = condition.accepts doc' := by
  by_cases known : seen = element ∨ seen = internal
  · have bound : ∀ name ∈ condition.freeNames, name = element ∨ name = internal := by
      intro name inside
      rw [free name inside]
      exact known
    exact iff_of_true (any_reads_only bound) (known.imp_right .inl)
  · obtain ⟨unbound, apart⟩ := not_or.mp known
    have unseen : element ∉ condition.freeNames := fun inside => unbound (free _ inside).symm
    rw [or_iff_right unbound, or_iff_right apart]
    constructor
    · intro only doc doc'
      -- Both documents are taken to one array; what they differ in stays.
      have moved : ∀ doc : Json, condition.accepts doc =
          (Expr.any element (.path internal) condition).accepts
            (holding internal seen (doc.field? seen)) := by
        intro doc
        have stored : storesElement (holding internal seen (doc.field? seen)) internal = true := by
          simp [storesElement, holding, Json.field?]
        rw [accepts_any_of_unseen unseen, stored, Bool.true_and]
        apply accepts_agree [seen] (by simpa using free)
        simp [field_holding apart]
      rw [moved doc, moved doc']
      apply only
      simp [holding, Json.field?]
    · intro constant doc doc' same
      rw [accepts_any_of_unseen unseen, accepts_any_of_unseen unseen, constant doc doc']
      simp only [storesElement, same]

/-- The alias of an equality on an array is a condition on elements exactly where the name it looks
at is that of the element, or of the array itself, or else makes no difference. -/
theorem element_alias_reads_only_iff {own : String} {value : AssertionValue} {aliasFilter : Filter}
    {marker : Cardinality} {c : Compiled Expr}
    (shape : ctx.cardinality (.leaf own (.compare .equality value) (some aliasFilter) marker) =
      .multi)
    (leaf : aliasFilter.name?.isSome) (plain : aliasFilter.alias? = none)
    (compiled : (compile ctx (.leaf own (.compare .equality value) (some aliasFilter)
      marker)).result = .ok c) :
    ∃ name condition,
      (Filter.leaf own (.compare .equality value) (some aliasFilter) marker).effectiveName? =
        some name ∧
      c.expression = .any (elementName (ctx.resolve name)) (.path (ctx.resolve name)) condition ∧
      (ReadsOnly c.expression (ctx.resolve name) ↔
        nameSeen ctx (elementName (ctx.resolve name)) aliasFilter =
            elementName (ctx.resolve name) ∨
          nameSeen ctx (elementName (ctx.resolve name)) aliasFilter = ctx.resolve name ∨
          ∀ doc doc', condition.accepts doc = condition.accepts doc') := by
  obtain ⟨left, node, _, parsed, step⟩ := compile_at_step compiled
  cases parsed
  cases step with
  | aliased same _ other =>
      cases same
      exact absurd shape other
  | bothShapes same => cases same
  | tested same _ _ settled =>
      cases same
      exact absurd (settled rfl).1 (by simp)
  | @eachElement _ _ _ _ _ name tested same named _ done =>
      cases same
      obtain ⟨_, _, _, reparsed, inner⟩ := compile_at_step done
      have written : ∀ node, ctx.parsed? (aliasFilter.withName (elementName (ctx.resolve name))) =
          some node → node = aliasFilter.withName (elementName (ctx.resolve name)) := by
        intro node parsed
        cases aliasFilter <;> cases leaf <;> exact (Option.some.inj parsed).symm
      rw [written _ reparsed] at inner
      refine ⟨name, _, named, rfl, any_reads_only_iff ?_⟩
      have free := free_alias leaf plain (element_name_proper _) inner
      simpa [freeNames, Expr.eq, Expr.ofValue] using free

end Acceptance

def aliasedMail : Filter :=
  .leaf "mail" (.compare .equality (.bool true))
    (some (.leaf "mail" (.compare .equality (.string "x")) none .single)) .multi

def renamedMail : CompileContext := ⟨.empty, .ofNamed [("mail", "emails")], .none, 4⟩

theorem renamed_alias_reads_elements :
    renamedMail.cardinality aliasedMail = .multi ∧
      ∃ c, (compile renamedMail aliasedMail).result = .ok c ∧
        ReadsOnly c.expression "emails" := by
  have shape : renamedMail.cardinality aliasedMail = .multi := by decide
  obtain ⟨c, compiled⟩ : ∃ c, (compile renamedMail aliasedMail).result = .ok c := ⟨_, rfl⟩
  obtain ⟨name, _, named, _, only⟩ := element_alias_reads_only_iff shape rfl rfl compiled
  cases named
  exact ⟨shape, c, compiled, only.mpr (.inl (by decide))⟩

def suffixedNames : CompileContext := ⟨.empty, .suffixed "_s", .none, 4⟩

def mailOnly : Json := .object [("mail_s", .array [.string "x"])]

def mailAndMore : Json :=
  .object [("mail_s", .array [.string "x"]), ("mail_s__s", .string "x")]

/-- The name of the element is resolved too, so one array in two documents does not settle it. -/
theorem suffixed_alias_reads_elsewhere :
    suffixedNames.cardinality aliasedMail = .multi ∧ aliasedMail.effectiveName? = some "mail" ∧
      ∃ c, (compile suffixedNames aliasedMail).result = .ok c ∧
        ¬ ReadsOnly c.expression (suffixedNames.resolve "mail") := by
  refine ⟨by decide, by decide, _, rfl, ?_⟩
  intro only
  exact absurd (only mailOnly mailAndMore rfl) (by decide)

end FilterQuery.Document
