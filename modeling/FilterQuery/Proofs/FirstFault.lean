import FilterQuery.Compile.Document
import FilterQuery.Compile.Directory
import FilterQuery.Proofs.DocumentSteps

/-!
Where a compilation fails, and what the visitor has seen by then. A walk goes through a filter from
the root, each node before its parts and the parts from left to right. A compilation goes the same
way and ends at the first stop that has a fault: with the error of that fault, and with a visit for
each stop up to there.
-/
namespace FilterQuery

structure Stop where
  depth : Nat
  filter : Filter

namespace Backend

/-- Kinds of nodes that a backend has no form for. RAW text is one where it is what text parses to. -/
def rejects : Backend → Kind → Bool
  | _, .raw => true
  | .document, .approximateMatch => true
  | .directory, .lowercase => true
  | _, _ => false

def refusal? (backend : Backend) (node : Filter) : Option CompileError :=
  if backend.rejects node.kind then some (.unsupportedKind node.kind backend)
  else
    match node with
    | .not _ => none
    | .junction op operands => if operands = [] then some (.emptyJunction op.kind) else none
    | leaf => if leaf.effectiveName? = none then some (.unresolvedName leaf.kind) else none

/-- Only the document backend goes into an alias, and only under an equality. Where the attribute is
an array, the alias is renamed to the loop variable. -/
def walkedAlias (ctx : CompileContext) : Backend → Filter → List Filter
  | .document, node@(.leaf _ (.compare .equality _) (some aliasFilter) _) =>
    if ctx.cardinality node = .multi then
      (node.effectiveName?.map fun name =>
        aliasFilter.withName (Document.elementName (ctx.resolve name))).toList
    else [aliasFilter]
  | _, _ => []

def parts (ctx : CompileContext) (backend : Backend) (node : Filter) : List Filter :=
  node.operands ++ backend.walkedAlias ctx node

/-- The stops of a walk from a filter at a depth below which so many levels are left. RAW text has
the parts of its parse, and a filter that stands too deep has none. -/
def walk (ctx : CompileContext) (backend : Backend) : Nat → Nat → Filter → List Stop
  | 0, depth, f => [⟨depth, f⟩]
  | levels + 1, depth, f =>
    ⟨depth, f⟩ :: ((ctx.parsed? f).elim [] (backend.parts ctx)).flatMap
      (walk ctx backend levels (depth + 1))

end Backend

namespace Stop

variable (ctx : CompileContext) (backend : Backend)

def fault? (s : Stop) : Option CompileError :=
  if ctx.maxDepth ≤ s.depth then some (.tooDeep ctx.maxDepth)
  else
    match s.filter with
    | .raw text =>
      match ctx.parseRaw text with
      | .ok node => backend.refusal? node
      | .error cause => some (.unparsedRaw text cause)
    | node => backend.refusal? node

def node (s : Stop) : Filter := (ctx.parsed? s.filter).getD s.filter

def isEntered (s : Stop) : Bool := s.depth < ctx.maxDepth && (ctx.parsed? s.filter).isSome

def shown (s : Stop) : List Filter := if s.isEntered ctx then [s.node ctx] else []

end Stop

/-- A compilation that succeeds exactly when no stop has a fault, and ends at the first that has. -/
structure EndsAtFirstFault {α : Type} (ctx : CompileContext) (backend : Backend)
    (stops : List Stop) (c : Compilation α) : Prop where
  succeeds_iff : (∃ a, c.result = .ok a) ↔ ∀ s ∈ stops, s.fault? ctx backend = none
  visits_all : (∃ a, c.result = .ok a) → c.visited = stops.map (·.node ctx)
  fails_at : ∀ before s after e, stops = before ++ s :: after →
    (∀ t ∈ before, t.fault? ctx backend = none) → s.fault? ctx backend = some e →
      c.result = .error e ∧ c.visited = before.map (·.node ctx) ++ s.shown ctx

namespace Compilation

variable {α β : Type}

def failure? (c : Compilation α) : Option CompileError :=
  match c.result with
  | .ok _ => none
  | .error e => some e

def outcome (c : Compilation α) : Option CompileError × List Filter := (c.failure?, c.visited)

theorem outcome_of_error {c : Compilation α} {e : CompileError} (failed : c.result = .error e) :
    outcome c = (some e, c.visited) := by
  rw [outcome, failure?, failed]

theorem outcome_of_ok {c : Compilation α} {a : α} (done : c.result = .ok a) :
    outcome c = (none, c.visited) := by
  rw [outcome, failure?, done]

theorem outcome_bind_error {c : Compilation α} {e : CompileError} (failed : c.result = .error e)
    (next : α → Compilation β) : outcome (c >>= next) = outcome c := by
  rw [outcome_of_error failed]
  change outcome (Compilation.bind c next) = _
  unfold Compilation.bind
  rw [failed]
  rfl

theorem outcome_bind_ok {c : Compilation α} {a : α} (done : c.result = .ok a)
    (next : α → Compilation β) :
    outcome (c >>= next) = ((outcome (next a)).1, c.visited ++ (outcome (next a)).2) := by
  change outcome (Compilation.bind c next) = _
  unfold Compilation.bind
  rw [done]
  simp only [outcome, visited, List.filterMap_append]
  rfl

end Compilation

namespace Stop

variable (ctx : CompileContext) (backend : Backend)

def report : List Stop → Option CompileError × List Filter
  | [] => (none, [])
  | s :: rest =>
    match s.fault? ctx backend with
    | some e => (some e, s.shown ctx)
    | none => ((report rest).1, s.shown ctx ++ (report rest).2)

variable {ctx backend}

theorem report_append (before rest : List Stop) :
    report ctx backend (before ++ rest) =
      if (report ctx backend before).1 = none then
        ((report ctx backend rest).1,
          (report ctx backend before).2 ++ (report ctx backend rest).2)
      else report ctx backend before := by
  induction before with
  | nil => rfl
  | cons s later ih =>
      rw [List.cons_append, report, report]
      cases s.fault? ctx backend with
      | some e => rfl
      | none =>
          rw [ih]
          by_cases passed : (report ctx backend later).1 = none <;> simp [passed]

theorem clean_shown {s : Stop} (clean : s.fault? ctx backend = none) :
    s.shown ctx = [s.node ctx] := by
  obtain ⟨depth, f⟩ := s
  unfold fault? at clean
  split at clean
  · cases clean
  · rename_i within
    have shallow : depth < ctx.maxDepth := Nat.lt_of_not_le within
    cases parsed : ctx.parsed? f with
    | some node => simp [shown, isEntered, shallow, parsed]
    | none =>
        obtain ⟨text, cause, rfl, parse⟩ := (ctx.parsed_none_iff f).mp parsed
        simp [parse] at clean

theorem report_clean {stops : List Stop} (clean : ∀ s ∈ stops, s.fault? ctx backend = none) :
    report ctx backend stops = (none, stops.map (·.node ctx)) := by
  induction stops with
  | nil => rfl
  | cons s rest ih =>
      obtain ⟨here, others⟩ := List.forall_mem_cons.mp clean
      rw [report, here, ih others, clean_shown here]
      rfl

theorem report_none_iff (stops : List Stop) :
    (report ctx backend stops).1 = none ↔ ∀ s ∈ stops, s.fault? ctx backend = none := by
  induction stops with
  | nil => simp [report]
  | cons s rest ih =>
      rw [report, List.forall_mem_cons]
      cases s.fault? ctx backend <;> simp [ih]

end Stop

namespace Compilation

variable {α β : Type} {ctx : CompileContext} {backend : Backend} {stops later : List Stop}

theorem report_bind {c : Compilation α} {next : α → Compilation β}
    (first : outcome c = Stop.report ctx backend stops)
    (second : ∀ a, c.result = .ok a → outcome (next a) = Stop.report ctx backend later) :
    outcome (c >>= next) = Stop.report ctx backend (stops ++ later) := by
  rw [Stop.report_append, ← first]
  cases done : c.result with
  | error e =>
      rw [outcome_bind_error done, outcome_of_error done]
      rfl
  | ok a =>
      rw [outcome_bind_ok done, second a done, outcome_of_ok done]
      rfl

theorem report_then {c : Compilation α} {next : α → Compilation β}
    (first : outcome c = Stop.report ctx backend stops)
    (silent : ∀ a, c.result = .ok a → outcome (next a) = (none, [])) :
    outcome (c >>= next) = Stop.report ctx backend stops := by
  rw [← List.append_nil stops]
  exact report_bind first silent

theorem report_each {compile : Filter → Compilation α} {walked : Filter → List Stop}
    (parts : ∀ g, outcome (compile g) = Stop.report ctx backend (walked g))
    (operands : List Filter) :
    outcome (each compile operands) = Stop.report ctx backend (operands.flatMap walked) := by
  induction operands with
  | nil => rfl
  | cons operand rest ih =>
      rw [List.flatMap_cons]
      apply report_bind (parts operand)
      intro compiled _
      exact report_then ih fun _ _ => rfl

theorem succeeds_iff_no_failure (c : Compilation α) :
    (∃ a, c.result = .ok a) ↔ c.failure? = none := by
  unfold failure?
  cases c.result <;> simp

theorem fails_iff_failure (c : Compilation α) (e : CompileError) :
    c.result = .error e ↔ c.failure? = some e := by
  unfold failure?
  cases c.result <;> simp

theorem ends_at_first_fault {c : Compilation α}
    (reported : outcome c = Stop.report ctx backend stops) :
    EndsAtFirstFault ctx backend stops c := by
  obtain ⟨failure, visits⟩ := Prod.mk.inj reported
  have succeeds : (∃ a, c.result = .ok a) ↔ ∀ s ∈ stops, s.fault? ctx backend = none := by
    rw [succeeds_iff_no_failure, failure, Stop.report_none_iff]
  refine ⟨succeeds, ?_, ?_⟩
  · intro done
    rw [visits, Stop.report_clean (succeeds.mp done)]
  · rintro before s after e rfl clean fault
    have whole : Stop.report ctx backend (before ++ s :: after) =
        (some e, before.map (·.node ctx) ++ s.shown ctx) := by
      rw [Stop.report_append, Stop.report_clean clean, Stop.report, fault]
      rfl
    rw [fails_iff_failure, failure, visits, whole]
    exact ⟨rfl, rfl⟩

end Compilation

open Compilation

section Stop

variable {ctx : CompileContext} {backend : Backend} {depth : Nat} {f node : Filter}

theorem fault_parsed (within : depth < ctx.maxDepth) (parsed : ctx.parsed? f = some node) :
    (Stop.mk depth f).fault? ctx backend = backend.refusal? node := by
  rw [Stop.fault?, if_neg (Nat.not_le_of_lt within)]
  cases f with
  | raw text => simp [(ctx.parsed_raw_iff text node).mp parsed]
  | _ => cases parsed; rfl

theorem shown_parsed (within : depth < ctx.maxDepth) (parsed : ctx.parsed? f = some node) :
    (Stop.mk depth f).shown ctx = [node] := by
  simp [Stop.shown, Stop.isEntered, Stop.node, within, parsed]

theorem enter_visits (parsed : ctx.parsed? f = some node) :
    (ctx.enter depth f).visited = [node] := by
  cases f with
  | raw text =>
      have expanded : ctx.expand (.raw text) = ⟨.ok node, [.event (.rawText text)]⟩ := by
        simp only [CompileContext.expand, (ctx.parsed_raw_iff text node).mp parsed]
        rfl
      rw [CompileContext.enter, expanded]
      rfl
  | _ => cases parsed; rfl

theorem enter_unparsed (depth : Nat) {text : String} {cause : RawError}
    (parse : ctx.parseRaw text = .error cause) :
    ctx.enter depth (.raw text) =
      ⟨.error (.unparsedRaw text cause), [.event (.rawText text)]⟩ := by
  have failed : ctx.expand (.raw text) =
      ⟨.error (.unparsedRaw text cause), [.event (.rawText text)]⟩ := by
    simp only [CompileContext.expand, parse]
    rfl
  rw [CompileContext.enter, failed]
  rfl

/-- What a compilation has to report of an entered node: that it is refused, before any of its parts
is compiled, or else what there is to report of its parts. -/
def Backend.reported (ctx : CompileContext) (backend : Backend) (walked : Filter → List Stop)
    (node : Filter) : Option CompileError × List Filter :=
  match backend.refusal? node with
  | some e => (some e, [])
  | none => Stop.report ctx backend ((backend.parts ctx node).flatMap walked)

theorem report_enter {α : Type} {compileNode : Filter → Compilation α}
    {walked : Filter → List Stop} (within : depth < ctx.maxDepth)
    (inner : ∀ node, outcome (compileNode node) = backend.reported ctx walked node) :
    outcome (ctx.enter depth f >>= compileNode) = Stop.report ctx backend
      (⟨depth, f⟩ :: ((ctx.parsed? f).elim [] (backend.parts ctx)).flatMap walked) := by
  cases parsed : ctx.parsed? f with
  | none =>
      obtain ⟨text, cause, rfl, parse⟩ := (ctx.parsed_none_iff f).mp parsed
      have fault : (Stop.mk depth (.raw text)).fault? ctx backend =
          some (.unparsedRaw text cause) := by
        simp [Stop.fault?, within, parse]
      have unseen : (Stop.mk depth (.raw text)).shown ctx = [] := by
        simp [Stop.shown, Stop.isEntered, parsed]
      rw [Stop.report, fault, unseen, enter_unparsed depth parse]
      rfl
  | some node =>
      have entered := (CompileContext.enter_ok_iff ctx depth f node).mpr parsed
      rw [outcome_bind_ok entered, enter_visits parsed, inner, Backend.reported, Stop.report,
        fault_parsed within parsed, shown_parsed within parsed]
      cases backend.refusal? node <;> rfl

-- The induction is the same for both backends; what differs is what they report of a node.
theorem report_walk {α : Type} {compileAt : Nat → Nat → Filter → Compilation α}
    {compileNode : (Filter → Compilation α) → Filter → Compilation α}
    (tooDeep : ∀ depth f, compileAt 0 depth f = fail (.tooDeep ctx.maxDepth))
    (entered : ∀ levels depth f, compileAt (levels + 1) depth f =
      ctx.enter depth f >>= compileNode (compileAt levels (depth + 1)))
    (reported : ∀ child walked, (∀ g, outcome (child g) = Stop.report ctx backend (walked g)) →
      ∀ node, outcome (compileNode child node) = backend.reported ctx walked node)
    (levels depth : Nat) (f : Filter) (left : levels + depth = ctx.maxDepth) :
    outcome (compileAt levels depth f) =
      Stop.report ctx backend (backend.walk ctx levels depth f) := by
  induction levels generalizing depth f with
  | zero =>
      have bottom : ctx.maxDepth ≤ depth := by omega
      have fault : (Stop.mk depth f).fault? ctx backend = some (.tooDeep ctx.maxDepth) :=
        if_pos bottom
      have unseen : (Stop.mk depth f).shown ctx = [] := by
        simp [Stop.shown, Stop.isEntered, Nat.not_lt_of_le bottom]
      rw [tooDeep, Backend.walk, Stop.report, fault, unseen]
      rfl
  | succ levels ih =>
      rw [entered, Backend.walk]
      apply report_enter (by omega)
      apply reported
      intro g
      exact ih (depth + 1) g (by omega)

end Stop

section Node

variable {α : Type} {ctx : CompileContext} {backend : Backend} {walked : Filter → List Stop}

theorem outcome_named (node : Filter) (next : String → Compilation α) :
    outcome (ctx.internalName node >>= next) =
      match node.effectiveName? with
      | none => (some (.unresolvedName node.kind), [])
      | some name => outcome (next (ctx.resolve name)) := by
  unfold CompileContext.internalName
  cases node.effectiveName? <;> rfl

theorem reported_leaf (own : String) (test : Test) (aliasFilter : Option Filter)
    (marker : Cardinality) (can : backend.rejects test.kind = false) :
    backend.reported ctx walked (.leaf own test aliasFilter marker) =
      match (Filter.leaf own test aliasFilter marker).effectiveName? with
      | none => (some (.unresolvedName test.kind), [])
      | some _ => Stop.report ctx backend
          ((backend.walkedAlias ctx (.leaf own test aliasFilter marker)).flatMap walked) := by
  simp only [Backend.reported, Backend.refusal?, Filter.kind, can, Backend.parts, Filter.operands]
  cases (Filter.leaf own test aliasFilter marker).effectiveName? <;> rfl

theorem reported_not (operand : Filter) :
    backend.reported ctx walked (.not operand) = Stop.report ctx backend (walked operand) := by
  have accepted : backend.refusal? (.not operand) = none := by cases backend <;> rfl
  have only : (backend.parts ctx (.not operand)).flatMap walked = walked operand := by
    simp [Backend.parts, Filter.operands, Backend.walkedAlias]
  rw [Backend.reported, accepted, only]

theorem reported_junction (op : Junction) (operands : List Filter) :
    backend.reported ctx walked (.junction op operands) =
      if operands = [] then (some (.emptyJunction op.kind), [])
      else Stop.report ctx backend (operands.flatMap walked) := by
  have can : backend.rejects op.kind = false := by cases backend <;> cases op <;> rfl
  have all : backend.parts ctx (.junction op operands) = operands := by
    simp [Backend.parts, Filter.operands, Backend.walkedAlias]
  simp only [Backend.reported, Backend.refusal?, Filter.kind, can, all]
  by_cases empty : operands = [] <;> simp [empty]

end Node

namespace Directory

variable {ctx : CompileContext} {walked : Filter → List Stop}
  {child : Filter → Compilation (Compiled DirectoryQuery)}

theorem accepts_leaf (test : Test) : Backend.directory.rejects test.kind = false := by
  rcases test with ⟨op, value⟩ | components | _
  · cases op <;> rfl
  · rfl
  · rfl

theorem leaf_reported (own : String) (test : Test) (aliasFilter : Option Filter)
    (marker : Cardinality) (query : String → DirectoryQuery) :
    outcome (compileLeaf ctx (.leaf own test aliasFilter marker) query) =
      Backend.directory.reported ctx walked (.leaf own test aliasFilter marker) := by
  rw [compileLeaf, outcome_named, reported_leaf _ _ _ _ (accepts_leaf test)]
  cases (Filter.leaf own test aliasFilter marker).effectiveName? <;> rfl

theorem node_reported (parts : ∀ g, outcome (child g) = Stop.report ctx .directory (walked g))
    (node : Filter) :
    outcome (compileNode ctx child node) = Backend.directory.reported ctx walked node := by
  cases node with
  | raw text => rfl
  | lowercase name => rfl
  | leaf own test aliasFilter marker => cases test <;> exact leaf_reported _ _ _ _ _
  | not operand =>
      rw [reported_not]
      exact report_then (parts operand) fun _ _ => rfl
  | junction op operands =>
      rw [reported_junction, compileNode]
      cases operands with
      | nil => rfl
      | cons first rest => exact report_then (report_each parts _) fun _ _ => rfl

end Directory

namespace Document

variable {ctx : CompileContext} {walked : Filter → List Stop}
  {child : Filter → Compilation (Compiled Expr)}

theorem test_reported (own : String) (test : Test) (aliasFilter : Option Filter)
    (marker : Cardinality) (can : Backend.document.rejects test.kind = false)
    (other : test.kind ≠ .equality) (asks : Bool) (condition : Expr → Expr) :
    outcome (compileTest ctx asks (.leaf own test aliasFilter marker) condition) =
      Backend.document.reported ctx walked (.leaf own test aliasFilter marker) := by
  have unwalked : Backend.document.walkedAlias ctx (.leaf own test aliasFilter marker) = [] := by
    unfold Backend.walkedAlias
    split
    · rename_i same
      cases same
      exact absurd rfl other
    · rfl
  rw [compileTest, outcome_named, reported_leaf _ _ _ _ can, unwalked]
  cases (Filter.leaf own test aliasFilter marker).effectiveName? <;> rfl

theorem equality_reported (parts : ∀ g, outcome (child g) = Stop.report ctx .document (walked g))
    (own : String) (value : AssertionValue) (aliasFilter : Option Filter) (marker : Cardinality)
    (asks : Bool) :
    outcome (compileEquality ctx child asks (.leaf own (.compare .equality value) aliasFilter marker)
        value aliasFilter) =
      Backend.document.reported ctx walked
        (.leaf own (.compare .equality value) aliasFilter marker) := by
  rw [compileEquality, outcome_named, reported_leaf _ _ _ _ rfl]
  cases named : (Filter.leaf own (.compare .equality value) aliasFilter marker).effectiveName? with
  | none => rfl
  | some name =>
      cases aliasFilter with
      | none =>
          cases ctx.cardinality (.leaf own (.compare .equality value) none marker) <;> rfl
      | some aliasFilter =>
          have single : ∀ g, [g].flatMap walked = walked g := by simp
          cases shape : ctx.cardinality
              (.leaf own (.compare .equality value) (some aliasFilter) marker) with
          | multi =>
              simp only [Backend.walkedAlias, shape, named, Option.map_some, if_true,
                Option.toList, single]
              exact report_then (parts _) fun _ _ => rfl
          | _ =>
              simp only [Backend.walkedAlias, shape, reduceCtorEq, if_false, single]
              exact report_then (parts _) fun _ _ => rfl

theorem lowercase_reported (name : String) :
    outcome (compileNode ctx child (.lowercase name)) =
      Backend.document.reported ctx walked (.lowercase name) := by
  by_cases empty : name = ""
  · subst empty
    rfl
  · have named : (Filter.lowercase name).effectiveName? = some name := by
      simp [Filter.effectiveName?, Filter.properName?, Filter.name?, empty]
    have accepted : Backend.document.refusal? (.lowercase name) = none := by
      simp [Backend.refusal?, Backend.rejects, Filter.kind, named]
    rw [compileNode, if_neg empty, Backend.reported, accepted]
    rfl

theorem junction_reported (parts : ∀ g, outcome (child g) = Stop.report ctx .document (walked g))
    (op : Junction) (operands : List Filter) :
    outcome (compileJunction ctx child op operands) =
      Backend.document.reported ctx walked (.junction op operands) := by
  rw [reported_junction, compileJunction]
  cases operands with
  | nil => rfl
  | cons first rest =>
      apply report_then (report_each parts _)
      intro compiled done
      -- All operands have been compiled by now, so there is something to join.
      cases (each_ok_iff _ _ _).mp done
      split <;> rfl

theorem node_reported (parts : ∀ g, outcome (child g) = Stop.report ctx .document (walked g))
    (node : Filter) :
    outcome (compileNode ctx child node) = Backend.document.reported ctx walked node := by
  cases node with
  | raw text => rfl
  | lowercase name => exact lowercase_reported name
  | not operand =>
      rw [reported_not]
      exact report_then (parts operand) fun _ _ => rfl
  | junction op operands => exact junction_reported parts op operands
  | leaf own test aliasFilter marker =>
      cases test with
      | presence => exact test_reported _ _ _ _ rfl (by simp [Test.kind]) _ _
      | substring components => exact test_reported _ _ _ _ rfl (by simp [Test.kind]) _ _
      | compare op value =>
          cases op with
          | equality => exact equality_reported parts _ _ _ _ _
          | atLeast => exact test_reported _ _ _ _ rfl (by simp [Test.kind, Comparison.kind]) _ _
          | atMost => exact test_reported _ _ _ _ rfl (by simp [Test.kind, Comparison.kind]) _ _
          | approximate => rfl

end Document

theorem Document.outcome_compile (ctx : CompileContext) (f : Filter) :
    outcome (Document.compile ctx f) =
      Stop.report ctx .document (Backend.document.walk ctx ctx.maxDepth 0 f) := by
  apply report_walk (fun _ _ => rfl) (fun _ _ _ => rfl)
  · intro child walked parts node
    exact Document.node_reported parts node
  · exact Nat.add_zero _

theorem Directory.outcome_compile (ctx : CompileContext) (f : Filter) :
    outcome (Directory.compile ctx f) =
      Stop.report ctx .directory (Backend.directory.walk ctx ctx.maxDepth 0 f) := by
  apply report_walk (fun _ _ => rfl) (fun _ _ _ => rfl)
  · intro child walked parts node
    exact Directory.node_reported parts node
  · exact Nat.add_zero _

/-- A compilation with either backend succeeds when no stop of its walk has a fault, and has then
visited them all; else it ends at the first that has. -/
theorem compile_ends_at_first_fault (ctx : CompileContext) (f : Filter) :
    EndsAtFirstFault ctx .document (Backend.document.walk ctx ctx.maxDepth 0 f)
        (Document.compile ctx f) ∧
      EndsAtFirstFault ctx .directory (Backend.directory.walk ctx ctx.maxDepth 0 f)
        (Directory.compile ctx f) := by
  constructor
  · apply ends_at_first_fault
    apply report_walk (fun _ _ => rfl) (fun _ _ _ => rfl)
    · intro child walked parts node
      exact Document.node_reported parts node
    · exact Nat.add_zero _
  · apply ends_at_first_fault
    apply report_walk (fun _ _ => rfl) (fun _ _ _ => rfl)
    · intro child walked parts node
      exact Directory.node_reported parts node
    · exact Nat.add_zero _

def foldedTags : Filter :=
  .withCardinality .multi (.withAlias (.equality "tags" (.string "a")) (.lowercase ""))

def twiceFaulty : Filter := .and [foldedTags, .raw "or", .presence ""]

def emptyOrParser : CompileContext := ⟨.empty, id, fun _ => .ok (.or []), 4⟩

theorem compile_ends_behind_an_alias :
    (Document.compile emptyOrParser twiceFaulty).result = .error (.emptyJunction .or) ∧
      (Document.compile emptyOrParser twiceFaulty).visited =
        [twiceFaulty, foldedTags, .lowercase "tags_", .or []] ∧
      (Directory.compile emptyOrParser twiceFaulty).result = .error (.emptyJunction .or) ∧
      (Directory.compile emptyOrParser twiceFaulty).visited =
        [twiceFaulty, foldedTags, .or []] := by
  obtain ⟨document, directory⟩ := compile_ends_at_first_fault emptyOrParser twiceFaulty
  have documented := document.fails_at
    [⟨0, twiceFaulty⟩, ⟨1, foldedTags⟩, ⟨2, .lowercase "tags_"⟩] ⟨1, .raw "or"⟩
    [⟨1, .presence ""⟩] _ rfl (by decide) rfl
  have asked := directory.fails_at
    [⟨0, twiceFaulty⟩, ⟨1, foldedTags⟩] ⟨1, .raw "or"⟩ [⟨1, .presence ""⟩] _ rfl (by decide) rfl
  exact ⟨documented.1, documented.2, asked.1, asked.2⟩

end FilterQuery
