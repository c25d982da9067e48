import FilterQuery.Compile.Compilation
import Mathlib.Data.List.Forall2

/-!
Results of compilations, without the traces that lead to them. A sequence fails where its first
part fails. Two compilations correspond when both fail for one reason or both succeed with related
results, and sequences of corresponding parts correspond.
-/
namespace FilterQuery

namespace Compilation

variable {α β γ δ : Type}

@[simp] theorem result_succeed (a : α) : (succeed a).result = .ok a := rfl

@[simp] theorem result_pure (a : α) : (pure a : Compilation α).result = .ok a := rfl

@[simp] theorem result_fail (e : CompileError) : (fail e : Compilation α).result = .error e := rfl

theorem result_bind (c : Compilation α) (next : α → Compilation β) :
    (c >>= next).result = c.result.bind fun a => (next a).result := by
  change (Compilation.bind c next).result = _
  unfold Compilation.bind
  cases c.result <;> rfl

theorem pure_ok_iff (a b : α) : (pure a : Compilation α).result = .ok b ↔ a = b := by
  rw [result_pure, Except.ok.injEq]

theorem bind_ok_iff (c : Compilation α) (next : α → Compilation β) (b : β) :
    (c >>= next).result = .ok b ↔ ∃ a, c.result = .ok a ∧ (next a).result = .ok b := by
  rw [result_bind]
  cases c.result <;> simp [Except.bind]

-- Logging decides nothing about the result.
@[simp] theorem result_log_bind (e : Event) (next : Unit → Compilation β) :
    (log e >>= next).result = (next ()).result := rfl

theorem require_ok_iff (wanted : Option α) (e : CompileError) (a : α) :
    (require wanted e).result = .ok a ↔ wanted = some a := by
  cases wanted <;> simp [require]

theorem each_ok_iff (compile : Filter → Compilation α) (operands : List Filter) (all : List α) :
    (each compile operands).result = .ok all ↔
      List.Forall₂ (fun operand a => (compile operand).result = .ok a) operands all := by
  induction operands generalizing all with
  | nil => cases all <;> simp [each]
  | cons operand rest ih =>
      simp only [each, bind_ok_iff, pure_ok_iff, ih]
      constructor
      · rintro ⟨first, compiled, others, tail, rfl⟩
        exact .cons compiled tail
      · rintro (_ | ⟨compiled, tail⟩)
        exact ⟨_, compiled, _, tail, rfl⟩

theorem exists_related {Related : α → β → Prop} {as : List α} {bs : List β}
    (all : List.Forall₂ Related as bs) : ∀ a ∈ as, ∃ b ∈ bs, Related a b := by
  induction all with
  | nil => simp
  | cons here _ ih =>
      refine List.forall_mem_cons.mpr ⟨⟨_, List.mem_cons_self, here⟩, ?_⟩
      intro a inside
      obtain ⟨b, member, related⟩ := ih a inside
      exact ⟨b, List.mem_cons_of_mem _ member, related⟩

/-- Both fail for one reason, or both succeed and their results are related. -/
def Corresponds (Related : α → β → Prop) (c : Compilation α) (d : Compilation β) : Prop :=
  match c.result, d.result with
  | .ok a, .ok b => Related a b
  | .error e, .error e' => e = e'
  | _, _ => False

variable {Related : α → β → Prop} {After : γ → δ → Prop}

theorem corresponds_fail (e : CompileError) :
    Corresponds Related (fail e : Compilation α) (fail e : Compilation β) := rfl

theorem corresponds_pure {a : α} {b : β} (related : Related a b) :
    Corresponds Related (pure a) (pure b) := related

theorem corresponds_bind {c : Compilation α} {d : Compilation β}
    {next : α → Compilation γ} {other : β → Compilation δ} (first : Corresponds Related c d)
    (later : ∀ a b, c.result = .ok a → Related a b → Corresponds After (next a) (other b)) :
    Corresponds After (c >>= next) (d >>= other) := by
  unfold Corresponds at first ⊢
  rw [result_bind, result_bind]
  -- Where one of the first parts fails, the other does so for the same reason.
  cases left : c.result with
  | error e =>
      cases right : d.result with
      | error e' => simpa [left, right, Except.bind] using first
      | ok b => simp [left, right] at first
  | ok a =>
      cases right : d.result with
      | error e' => simp [left, right] at first
      | ok b =>
          have related : Related a b := by simpa [left, right] using first
          exact later a b left related

-- A part that both sides share is one part with one result; nothing need relate it to itself.
theorem corresponds_bind_same (c : Compilation α) {next : α → Compilation γ}
    {other : α → Compilation δ}
    (later : ∀ a, c.result = .ok a → Corresponds After (next a) (other a)) :
    Corresponds After (c >>= next) (c >>= other) := by
  unfold Corresponds
  rw [result_bind, result_bind]
  cases only : c.result with
  | error e => rfl
  | ok a => exact later a only

theorem corresponds_each {compile : Filter → Compilation α} {other : Filter → Compilation β}
    (operands : List Filter)
    (alike : ∀ operand ∈ operands, Corresponds Related (compile operand) (other operand)) :
    Corresponds (List.Forall₂ Related) (each compile operands) (each other operands) := by
  induction operands with
  | nil => exact List.Forall₂.nil
  | cons operand rest ih =>
      have tail := ih fun later member => alike later (List.mem_cons_of_mem operand member)
      apply corresponds_bind (alike operand List.mem_cons_self)
      intro a b _ related
      apply corresponds_bind tail
      intro as bs _ others
      exact corresponds_pure (.cons related others)

theorem corresponds_each_same {compile other : Filter → Compilation α} (operands : List Filter)
    (same : ∀ operand ∈ operands, Corresponds Eq (compile operand) (other operand)) :
    Corresponds Eq (each compile operands) (each other operands) := by
  have all := corresponds_each operands same
  rwa [List.forall₂_eq_eq_eq] at all

theorem corresponds_weaken {Weaker : α → β → Prop} {c : Compilation α} {d : Compilation β}
    (alike : Corresponds Related c d)
    (weaker : ∀ a b, c.result = .ok a → d.result = .ok b → Related a b → Weaker a b) :
    Corresponds Weaker c d := by
  unfold Corresponds at alike ⊢
  cases left : c.result <;> cases right : d.result <;> simp_all

theorem corresponds_ok_iff {c : Compilation α} {d : Compilation β} {a : α} {b : β}
    (left : c.result = .ok a) (right : d.result = .ok b) :
    Corresponds Related c d ↔ Related a b := by
  simp [Corresponds, left, right]

theorem corresponds_of_result_eq {c d : Compilation α} {Same : α → α → Prop}
    (same : c.result = d.result) (reflexive : ∀ a, Same a a) : Corresponds Same c d := by
  unfold Corresponds
  rw [same]
  cases d.result with
  | error e => rfl
  | ok a => exact reflexive a

theorem corresponds_eq_iff (c d : Compilation α) : Corresponds Eq c d ↔ c.result = d.result := by
  unfold Corresponds
  cases c.result <;> cases d.result <;> simp

-- Correspondence looks at results only, so a part may be replaced by one with the same result.
theorem corresponds_congr {c c' : Compilation α} {d d' : Compilation β}
    (left : c.result = c'.result) (right : d.result = d'.result)
    (alike : Corresponds Related c' d') : Corresponds Related c d := by
  unfold Corresponds at alike ⊢
  rw [left, right]
  exact alike

theorem corresponds_symm {Same : α → α → Prop} (symm : ∀ a b, Same a b → Same b a)
    {c d : Compilation α} (alike : Corresponds Same c d) : Corresponds Same d c := by
  unfold Corresponds at alike ⊢
  cases left : c.result <;> cases right : d.result <;> simp_all

theorem corresponds_trans {Same : α → α → Prop} (trans : ∀ a b e, Same a b → Same b e → Same a e)
    {c d e : Compilation α} (first : Corresponds Same c d) (second : Corresponds Same d e) :
    Corresponds Same c e := by
  unfold Corresponds at first second ⊢
  cases left : c.result <;> cases middle : d.result <;> cases right : e.result <;> simp_all
  exact trans _ _ _ first second

theorem each_map (compile : Filter → Compilation α) (change : Filter → Filter)
    (operands : List Filter) :
    each compile (operands.map change) = each (fun g => compile (change g)) operands := by
  induction operands with
  | nil => rfl
  | cons operand rest ih => rw [List.map_cons, each, each, ih]

end Compilation

namespace CompileContext

/-- The node that is looked at in place of a filter: the parse of RAW text, else the filter. -/
def parsed? (ctx : CompileContext) : Filter → Option Filter
  | .raw text => (ctx.parseRaw text).toOption
  | other => some other

theorem parsed_raw_iff (ctx : CompileContext) (text : String) (node : Filter) :
    ctx.parsed? (.raw text) = some node ↔ ctx.parseRaw text = .ok node := by
  cases parse : ctx.parseRaw text <;> simp [parsed?, parse, Except.toOption]

theorem parsed_none_iff (ctx : CompileContext) (f : Filter) :
    ctx.parsed? f = none ↔ ∃ text cause, f = .raw text ∧ ctx.parseRaw text = .error cause := by
  cases f with
  | raw text => cases parse : ctx.parseRaw text <;> simp [parsed?, parse, Except.toOption]
  | _ => simp [parsed?]

theorem parsed_self (ctx : CompileContext) {f : Filter} (written : f.kind ≠ .raw) :
    ctx.parsed? f = some f := by
  cases f with
  | raw text => exact absurd rfl written
  | _ => rfl

theorem expand_ok_iff (ctx : CompileContext) (f node : Filter) :
    (ctx.expand f).result = .ok node ↔ ctx.parsed? f = some node := by
  cases f with
  | raw text =>
      cases parse : ctx.parseRaw text <;> simp [expand, parsed?, parse, Except.toOption]
  | _ => simp [expand, parsed?]

theorem enter_result (ctx : CompileContext) (depth : Nat) (f : Filter) :
    (ctx.enter depth f).result = (ctx.expand f).result := by
  unfold enter
  rw [Compilation.result_bind]
  cases (ctx.expand f).result <;> rfl

theorem enter_ok_iff (ctx : CompileContext) (depth : Nat) (f node : Filter) :
    (ctx.enter depth f).result = .ok node ↔ ctx.parsed? f = some node := by
  rw [enter_result, expand_ok_iff]

theorem enter_bind_result {α : Type} (ctx : CompileContext) (depth : Nat) {f node : Filter}
    (parsed : ctx.parsed? f = some node) (next : Filter → Compilation α) :
    (ctx.enter depth f >>= next).result = (next node).result := by
  rw [Compilation.result_bind, (enter_ok_iff ctx depth f node).mpr parsed]
  rfl

theorem internalName_ok_iff (ctx : CompileContext) (node : Filter) (internal : String) :
    (ctx.internalName node).result = .ok internal ↔
      ∃ name, node.effectiveName? = some name ∧ ctx.resolve name = internal := by
  rw [internalName, Compilation.require_ok_iff, Option.map_eq_some_iff]

-- A name of its own is what the schema is asked about.
theorem leaf_cardinality (ctx : CompileContext) {own : String} (test : Test)
    (aliasFilter : Option Filter) (marker : Cardinality) (proper : own ≠ "") :
    ctx.cardinality (.leaf own test aliasFilter marker) =
      marker.orElse (ctx.schema.detect own) := by
  simp [cardinality, Filter.marker, Filter.properName?, Filter.name?, Option.filter, proper]

theorem leaf_contributes (ctx : CompileContext) {own : String} (test : Test)
    (aliasFilter : Option Filter) (marker : Cardinality) (proper : own ≠ "") :
    ctx.contributes (.leaf own test aliasFilter marker) = ctx.schema.requiresConsistency own := by
  simp [contributes, Filter.properName?, Filter.name?, Option.filter, proper]

theorem own_cardinality (ctx : CompileContext) {name : String} (test : Test)
    (proper : name ≠ "") : ctx.cardinality (.test name test) = ctx.schema.detect name :=
  ctx.leaf_cardinality test none .unknown proper

end CompileContext

def Filter.operands : Filter → List Filter
  | .junction _ operands => operands
  | .not operand => [operand]
  | _ => []

def Filter.HasOperand (node g : Filter) : Prop := g ∈ node.operands

/-- The nodes that edges lead to from a filter. RAW text is looked at as its parse. -/
inductive Filter.Reaches (parsed? : Filter → Option Filter) (edge : Filter → Filter → Prop) :
    Filter → Filter → Prop where
  | self {f node : Filter} (parsed : parsed? f = some node) : Reaches parsed? edge f node
  | through {f node g h : Filter} (parsed : parsed? f = some node) (next : edge node g)
      (later : Reaches parsed? edge g h) : Reaches parsed? edge f h

theorem Filter.reaches_iff {parsed? : Filter → Option Filter} {edge : Filter → Filter → Prop}
    {f node : Filter} (parsed : parsed? f = some node) (h : Filter) :
    Filter.Reaches parsed? edge f h ↔
      h = node ∨ ∃ g, edge node g ∧ Filter.Reaches parsed? edge g h := by
  constructor
  · rintro (found | ⟨found, next, later⟩)
    · exact .inl (Option.some.inj (found.symm.trans parsed))
    · cases parsed.symm.trans found
      exact .inr ⟨_, next, later⟩
  · rintro (rfl | ⟨g, next, later⟩)
    · exact .self parsed
    · exact .through parsed next later

end FilterQuery
