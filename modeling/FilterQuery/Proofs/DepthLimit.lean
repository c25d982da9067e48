import FilterQuery.Proofs.FirstFault
import FilterQuery.Proofs.PlainDisjunction

/-!
The limit on depth cuts compilations off and does nothing else. It is what ends the recursion, since
RAW text may parse to more RAW text without end; and it is all that a higher limit removes: what is
not cut off under one limit is the same compilation under every higher one. A filter without RAW
text that is no deeper than the limit is never cut off.
-/
namespace FilterQuery

def CompileContext.limited (ctx : CompileContext) (limit : Nat) : CompileContext :=
  { ctx with maxDepth := limit }

namespace Compilation

variable {α β : Type} {limit : Nat}

/-- The first compilation is cut off at the limit, or it is the second one, trace and all. -/
def CutsOff (limit : Nat) (c d : Compilation α) : Prop :=
  c.result = .error (.tooDeep limit) ∨ c = d

theorem cuts_off_refl (c : Compilation α) : CutsOff limit c c := .inr rfl

theorem bind_of_error {c : Compilation α} {e : CompileError} (failed : c.result = .error e)
    (next : α → Compilation β) : c >>= next = ⟨.error e, c.trace⟩ := by
  change Compilation.bind c next = _
  rw [Compilation.bind, failed]

theorem bind_of_ok {c : Compilation α} {a : α} (done : c.result = .ok a)
    (next : α → Compilation β) :
    c >>= next = ⟨(next a).result, c.trace ++ (next a).trace⟩ := by
  change Compilation.bind c next = _
  rw [Compilation.bind, done]

theorem cuts_off_bind {c d : Compilation α} {next other : α → Compilation β}
    (first : CutsOff limit c d) (later : ∀ a, CutsOff limit (next a) (other a)) :
    CutsOff limit (c >>= next) (d >>= other) := by
  rcases first with cut | rfl
  · exact .inl (by rw [bind_of_error cut])
  · cases done : c.result with
    | error e => exact .inr (by rw [bind_of_error done, bind_of_error done])
    | ok a =>
        rcases later a with cut | same
        · exact .inl (by rw [bind_of_ok done, cut])
        · exact .inr (by rw [bind_of_ok done, bind_of_ok done, same])

theorem cuts_off_each {child other : Filter → Compilation α}
    (parts : ∀ g, CutsOff limit (child g) (other g)) (operands : List Filter) :
    CutsOff limit (each child operands) (each other operands) := by
  induction operands with
  | nil => exact cuts_off_refl _
  | cons operand rest ih =>
      apply cuts_off_bind (parts operand)
      intro compiled
      exact cuts_off_bind ih fun _ => cuts_off_refl _

end Compilation

open Compilation

section Recursion

variable {α : Type} {ctx : CompileContext}
  {compileNode : (Filter → Compilation α) → Filter → Compilation α}

/-- Compilation from a depth on, as a recursion that nothing but the limit ends. -/
def Recurses (ctx : CompileContext)
    (compileNode : (Filter → Compilation α) → Filter → Compilation α)
    (compileFrom : Nat → Filter → Compilation α) : Prop :=
  ∀ depth f, compileFrom depth f =
    if ctx.maxDepth ≤ depth then fail (.tooDeep ctx.maxDepth)
    else ctx.enter depth f >>= compileNode (compileFrom (depth + 1))

variable {compileAt : Nat → Nat → Filter → Compilation α}
  (tooDeep : ∀ depth f, compileAt 0 depth f = fail (.tooDeep ctx.maxDepth))
  (entered : ∀ levels depth f, compileAt (levels + 1) depth f =
    ctx.enter depth f >>= compileNode (compileAt levels (depth + 1)))

include tooDeep entered

theorem levels_recurse :
    Recurses ctx compileNode fun depth => compileAt (ctx.maxDepth - depth) depth := by
  intro depth f
  change compileAt (ctx.maxDepth - depth) depth f =
    if ctx.maxDepth ≤ depth then _
    else ctx.enter depth f >>= compileNode (compileAt (ctx.maxDepth - (depth + 1)) (depth + 1))
  split
  · rename_i bottom
    rw [Nat.sub_eq_zero_of_le bottom, tooDeep]
  · rename_i within
    obtain ⟨levels, left⟩ := Nat.exists_eq_add_of_lt (Nat.lt_of_not_le within)
    have here : ctx.maxDepth - depth = levels + 1 := by omega
    have below : ctx.maxDepth - (depth + 1) = levels := by omega
    rw [here, below, entered]

-- On the levels that are left: at the limit the recursion says by itself what it is.
theorem recursion_unique {compileFrom : Nat → Filter → Compilation α}
    (recurses : Recurses ctx compileNode compileFrom) (levels depth : Nat)
    (left : ctx.maxDepth - depth = levels) : compileFrom depth = compileAt levels depth := by
  induction levels generalizing depth with
  | zero =>
      have bottom : ctx.maxDepth ≤ depth := by omega
      funext f
      rw [recurses depth f, if_pos bottom, tooDeep]
  | succ levels ih =>
      have within : ¬ ctx.maxDepth ≤ depth := by omega
      funext f
      rw [recurses depth f, if_neg within, entered, ih (depth + 1) (by omega)]

end Recursion

theorem cuts_off_levels {α : Type} {ctx : CompileContext} {limit : Nat}
    {compileAt compileAt' : Nat → Nat → Filter → Compilation α}
    {compileNode compileNode' : (Filter → Compilation α) → Filter → Compilation α}
    (tooDeep : ∀ depth f, compileAt 0 depth f = fail (.tooDeep limit))
    (entered : ∀ levels depth f, compileAt (levels + 1) depth f =
      ctx.enter depth f >>= compileNode (compileAt levels (depth + 1)))
    (entered' : ∀ levels depth f, compileAt' (levels + 1) depth f =
      ctx.enter depth f >>= compileNode' (compileAt' levels (depth + 1)))
    (node : ∀ child other, (∀ g, CutsOff limit (child g) (other g)) →
      ∀ f, CutsOff limit (compileNode child f) (compileNode' other f))
    {levels more : Nat} (enough : levels ≤ more) (depth : Nat) (f : Filter) :
    CutsOff limit (compileAt levels depth f) (compileAt' more depth f) := by
  induction levels generalizing more depth f with
  | zero => exact .inl (by rw [tooDeep]; rfl)
  | succ levels ih =>
      obtain ⟨further, rfl⟩ := Nat.exists_eq_add_of_lt enough
      rw [entered, entered']
      apply cuts_off_bind (cuts_off_refl _)
      apply node
      intro g
      exact ih (Nat.le_add_right _ _) (depth + 1) g

section Nodes

variable {ctx : CompileContext} {limit limit' : Nat}

namespace Directory

theorem node_cuts_off {child other : Filter → Compilation (Compiled DirectoryQuery)}
    (parts : ∀ g, CutsOff limit (child g) (other g)) (node : Filter) :
    CutsOff limit (compileNode (ctx.limited limit) child node)
      (compileNode (ctx.limited limit') other node) := by
  cases node with
  | lowercase name => exact cuts_off_refl _
  | raw text => exact cuts_off_refl _
  | leaf own test aliasFilter marker => cases test <;> exact cuts_off_refl _
  | not operand => exact cuts_off_bind (parts operand) fun _ => cuts_off_refl _
  | junction op operands =>
      rw [compileNode, compileNode]
      split
      · exact cuts_off_refl _
      · exact cuts_off_bind (cuts_off_each parts operands) fun _ => cuts_off_refl _

end Directory

namespace Document

variable {child other : Filter → Compilation (Compiled Expr)}

theorem equality_cuts_off (parts : ∀ g, CutsOff limit (child g) (other g)) (asks : Bool)
    (node : Filter) (value : AssertionValue) (aliasFilter : Option Filter) :
    CutsOff limit (compileEquality (ctx.limited limit) child asks node value aliasFilter)
      (compileEquality (ctx.limited limit') other asks node value aliasFilter) := by
  -- Neither the name nor the cardinality of a node depends on the limit.
  change CutsOff limit (compileEquality ctx child asks node value aliasFilter)
    (compileEquality ctx other asks node value aliasFilter)
  apply cuts_off_bind (cuts_off_refl _)
  intro internal
  cases aliasFilter with
  | none => cases ctx.cardinality node <;> exact cuts_off_refl _
  | some g =>
      cases ctx.cardinality node <;> exact cuts_off_bind (parts _) fun _ => cuts_off_refl _

theorem node_cuts_off (parts : ∀ g, CutsOff limit (child g) (other g)) (node : Filter) :
    CutsOff limit (compileNode (ctx.limited limit) child node)
      (compileNode (ctx.limited limit') other node) := by
  cases node with
  | lowercase name => exact cuts_off_refl _
  | raw text => exact cuts_off_refl _
  | not operand => exact cuts_off_bind (parts operand) fun _ => cuts_off_refl _
  | leaf own test aliasFilter marker =>
      cases test with
      | compare op value =>
          cases op with
          | equality => exact equality_cuts_off parts _ _ _ _
          | _ => exact cuts_off_refl _
      | _ => exact cuts_off_refl _
  | junction op operands =>
      change CutsOff limit (compileJunction ctx child op operands)
        (compileJunction ctx other op operands)
      rw [compileJunction, compileJunction]
      split
      · exact cuts_off_refl _
      · exact cuts_off_bind (cuts_off_each parts operands) fun _ => cuts_off_refl _

end Document

end Nodes

def RawFree (f : Filter) : Prop := ∀ part, Document.Part f part → part.kind ≠ .raw

theorem RawFree.child {f g : Filter} (free : RawFree f) (child : g ∈ f.children) : RawFree g :=
  fun part inside => free part (.inside child inside)

theorem RawFree.of_children {f : Filter} (own : f.kind ≠ .raw)
    (each : ∀ g ∈ f.children, RawFree g) : RawFree f := by
  rintro part (_ | ⟨child, inside⟩)
  · exact own
  · exact each _ child part inside

theorem RawFree.withName {f : Filter} (free : RawFree f) (name : String) :
    RawFree (f.withName name) := by
  intro part inside
  obtain ⟨before, written, same⟩ := inside.of_withName
  exact same ▸ free before written

namespace Filter

theorem depth_positive (f : Filter) : 0 < f.depth := by
  cases f <;> simp only [depth] <;> omega

theorem depth_le_all {operands : List Filter} {g : Filter} (inside : g ∈ operands) :
    g.depth ≤ depthOfAll operands := by
  induction operands with
  | nil => cases inside
  | cons operand rest ih =>
      rw [depthOfAll]
      rcases List.mem_cons.mp inside with rfl | later
      · exact Nat.le_max_left _ _
      · exact Nat.le_trans (ih later) (Nat.le_max_right _ _)

theorem depth_child {f g : Filter} (child : g ∈ f.children) : g.depth < f.depth := by
  cases f with
  | leaf own test aliasFilter marker =>
      cases Option.mem_toList.mp child
      simp only [depth, depthOfAlias]
      omega
  | junction op operands =>
      have below : g.depth ≤ depthOfAll operands := depth_le_all child
      rw [depth]
      omega
  | not operand =>
      cases List.mem_singleton.mp child
      rw [depth]
      omega
  | _ => cases child

-- Children stand in an option, in a list or alone; the depth meets them all alike.
theorem children_induction {P : Filter → Prop} (node : ∀ f, (∀ g ∈ f.children, P g) → P f)
    (f : Filter) : P f := by
  generalize size : f.depth = depth
  induction depth using Nat.strongRecOn generalizing f with
  | ind depth ih =>
      apply node
      intro g child
      exact ih g.depth (size ▸ depth_child child) g rfl

theorem depth_withName (f : Filter) (name : String) : (f.withName name).depth = f.depth := by
  cases f <;> rfl

end Filter

section Walk

variable {ctx : CompileContext} {backend : Backend} {f node g : Filter}

theorem part_child (part : g ∈ backend.parts ctx node) :
    ∃ child ∈ node.children, g = child ∨ ∃ name, g = child.withName name := by
  rcases List.mem_append.mp part with operand | walked
  · refine ⟨g, ?_, .inl rfl⟩
    cases node with
    | junction op operands => exact operand
    | not operand => exact operand
    | _ => cases operand
  · unfold Backend.walkedAlias at walked
    split at walked
    · rename_i own value aliasFilter marker
      refine ⟨aliasFilter, List.mem_singleton.mpr rfl, ?_⟩
      split at walked
      · rw [Option.mem_toList, Option.map_eq_some_iff] at walked
        obtain ⟨name, _, rfl⟩ := walked
        exact .inr ⟨_, rfl⟩
      · exact .inl (List.mem_singleton.mp walked)
    · cases walked

theorem walk_depth {levels depth : Nat} {s : Stop} (free : RawFree f)
    (inside : s ∈ backend.walk ctx levels depth f) : s.depth < depth + f.depth := by
  have here := f.depth_positive
  induction levels generalizing depth f with
  | zero =>
      cases List.mem_singleton.mp inside
      exact Nat.lt_add_of_pos_right here
  | succ levels ih =>
      have parsed : ctx.parsed? f = some f := ctx.parsed_self (free f (.self f))
      rw [Backend.walk, parsed, List.mem_cons, Option.elim, List.mem_flatMap] at inside
      rcases inside with rfl | ⟨g, part, later⟩
      · exact Nat.lt_add_of_pos_right here
      · obtain ⟨child, below, renamed⟩ := part_child part
        have shallower := Filter.depth_child below
        have inner : RawFree g ∧ g.depth = child.depth := by
          rcases renamed with rfl | ⟨name, rfl⟩
          · exact ⟨free.child below, rfl⟩
          · exact ⟨(free.child below).withName name, child.depth_withName name⟩
        have deep := ih inner.1 later g.depth_positive
        omega

theorem refusal_no_depth (node : Filter) (limit : Nat) :
    backend.refusal? node ≠ some (.tooDeep limit) := by
  unfold Backend.refusal?
  split
  · simp
  · split
    · simp
    · split <;> simp
    · split <;> simp

theorem deep_stop {s : Stop} {limit : Nat} (fault : s.fault? ctx backend = some (.tooDeep limit)) :
    ctx.maxDepth ≤ s.depth := by
  unfold Stop.fault? at fault
  split at fault
  · assumption
  · split at fault
    · split at fault
      · exact absurd fault (refusal_no_depth _ _)
      · cases fault
    · exact absurd fault (refusal_no_depth _ _)

theorem report_fault {stops : List Stop} {e : CompileError}
    (reported : (Stop.report ctx backend stops).1 = some e) :
    ∃ s ∈ stops, s.fault? ctx backend = some e := by
  induction stops with
  | nil => cases reported
  | cons s rest ih =>
      rw [Stop.report] at reported
      cases fault : s.fault? ctx backend with
      | some found =>
          rw [fault] at reported
          exact ⟨s, List.mem_cons_self, fault.trans reported⟩
      | none =>
          rw [fault] at reported
          obtain ⟨t, later, found⟩ := ih reported
          exact ⟨t, List.mem_cons_of_mem s later, found⟩

theorem within_limit {α : Type} {c : Compilation α} {levels : Nat} (free : RawFree f)
    (fits : f.depth ≤ ctx.maxDepth)
    (reports : outcome c = Stop.report ctx backend (backend.walk ctx levels 0 f)) (limit : Nat) :
    c.result ≠ .error (.tooDeep limit) := by
  intro failed
  rw [outcome_of_error failed] at reports
  obtain ⟨s, inside, fault⟩ := report_fault (congrArg Prod.fst reports).symm
  have deep := deep_stop fault
  have shallow := walk_depth free inside
  omega

end Walk

/-- A backend whose limit ends its recursion, cuts off compilations and does not change them, and
cuts off no filter that is within it. -/
structure OnlyCutOff {α : Type} (compile : CompileContext → Filter → Compilation α)
    (compileNode : CompileContext → (Filter → Compilation α) → Filter → Compilation α) : Prop where
  ends : ∀ ctx, ∃! compileFrom, Recurses ctx (compileNode ctx) compileFrom
  ends_as : ∀ ctx compileFrom, Recurses ctx (compileNode ctx) compileFrom →
    compileFrom 0 = compile ctx
  cuts_off : ∀ (ctx : CompileContext) (f : Filter) (limit limit' : Nat), limit ≤ limit' →
    CutsOff limit (compile (ctx.limited limit) f) (compile (ctx.limited limit') f)
  admits : ∀ ctx f, RawFree f → f.depth ≤ ctx.maxDepth →
    ∀ limit, (compile ctx f).result ≠ .error (.tooDeep limit)

theorem levels_only_cut_off {α : Type} {backend : Backend}
    {compileAt : CompileContext → Nat → Nat → Filter → Compilation α}
    {compileNode : CompileContext → (Filter → Compilation α) → Filter → Compilation α}
    (tooDeep : ∀ ctx depth f, compileAt ctx 0 depth f = fail (.tooDeep ctx.maxDepth))
    (entered : ∀ ctx levels depth f, compileAt ctx (levels + 1) depth f =
      ctx.enter depth f >>= compileNode ctx (compileAt ctx levels (depth + 1)))
    (node : ∀ (ctx : CompileContext) (limit limit' : Nat) child other,
      (∀ g, CutsOff limit (child g) (other g)) → ∀ f,
        CutsOff limit (compileNode (ctx.limited limit) child f)
          (compileNode (ctx.limited limit') other f))
    (reports : ∀ ctx f, outcome (compileAt ctx ctx.maxDepth 0 f) =
      Stop.report ctx backend (backend.walk ctx ctx.maxDepth 0 f)) :
    OnlyCutOff (fun ctx => compileAt ctx ctx.maxDepth 0) compileNode := by
  have unique (ctx : CompileContext) (compileFrom)
      (recurses : Recurses ctx (compileNode ctx) compileFrom) (depth : Nat) :
      compileFrom depth = compileAt ctx (ctx.maxDepth - depth) depth :=
    recursion_unique (tooDeep ctx) (entered ctx) recurses _ depth rfl
  constructor
  · intro ctx
    refine ⟨_, levels_recurse (tooDeep ctx) (entered ctx), ?_⟩
    intro compileFrom recurses
    exact funext (unique ctx compileFrom recurses)
  · intro ctx compileFrom recurses
    exact unique ctx compileFrom recurses 0
  · intro ctx f limit limit' enough
    exact cuts_off_levels (tooDeep (ctx.limited limit)) (entered (ctx.limited limit))
      (entered (ctx.limited limit')) (node ctx limit limit') enough 0 f
  · intro ctx f free fits
    exact within_limit free fits (reports ctx f)

/-- In either backend the limit on depth cuts compilations off and does nothing else. -/
theorem depth_limit_only_cuts_off :
    OnlyCutOff Document.compile Document.compileNode ∧
      OnlyCutOff Directory.compile Directory.compileNode := by
  constructor
  · exact levels_only_cut_off (fun _ _ _ => rfl) (fun _ _ _ _ => rfl)
      (fun _ _ _ _ _ => Document.node_cuts_off) Document.outcome_compile
  · exact levels_only_cut_off (fun _ _ _ => rfl) (fun _ _ _ _ => rfl)
      (fun _ _ _ _ _ => Directory.node_cuts_off) Directory.outcome_compile

def endlessParser : CompileContext := ⟨.empty, id, fun text => .ok (.and [.raw text]), 64⟩

theorem endless_text_cut_off :
    (Document.compile (endlessParser.limited 3) (.raw "a")).result = .error (.tooDeep 3) ∧
      (Directory.compile (endlessParser.limited 3) (.raw "a")).result = .error (.tooDeep 3) ∧
      Document.compile (endlessParser.limited 2) (.not (.presence "a")) =
        Document.compile endlessParser (.not (.presence "a")) ∧
      Directory.compile (endlessParser.limited 2) (.not (.presence "a")) =
        Directory.compile endlessParser (.not (.presence "a")) := by
  obtain ⟨document, directory⟩ := depth_limit_only_cuts_off
  have leaf : RawFree (.presence "a") := .of_children (by decide) fun g inside => nomatch inside
  have free : RawFree (.not (.presence "a")) :=
    .of_children (by decide) fun g inside => List.mem_singleton.mp inside ▸ leaf
  have fits : (Filter.not (.presence "a")).depth ≤ 2 := by decide
  refine ⟨rfl, rfl, ?_, ?_⟩
  · have cut := document.cuts_off endlessParser (.not (.presence "a")) 2 64 (by decide)
    exact cut.resolve_left (document.admits (endlessParser.limited 2) _ free fits 2)
  · have cut := directory.cuts_off endlessParser (.not (.presence "a")) 2 64 (by decide)
    exact cut.resolve_left (directory.admits (endlessParser.limited 2) _ free fits 2)

end FilterQuery
