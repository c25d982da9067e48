import FilterQuery.Proofs.Consistency
import FilterQuery.Proofs.FirstFault

/-!
What the two backends have in common. A filter that both have forms for leads them past the same
stops, and they find the same fault first or none; where they succeed, the flag comes over the same
edges. So all that tells the two compilations apart is the expression, and in an error the name of
the backend.
-/
namespace FilterQuery

open Compilation

/-- The error in its place with the name of a backend, where it carries one. -/
def CompileError.onBackend (backend : Backend) : CompileError → CompileError
  | .unsupportedKind kind _ => .unsupportedKind kind backend
  | other => other

/-- No alias, and only kinds that either backend knows. RAW text counts as its parse, and what that
parse is made of counts as well. -/
def Shared (ctx : CompileContext) (f : Filter) : Prop :=
  ∀ node, f.Reaches ctx.parsed? Filter.HasOperand node →
    node.alias? = none ∧ node.kind ≠ .lowercase ∧ node.kind ≠ .approximateMatch

/-- A document and a directory compilation that succeed together, with one flag, or fail together,
with one error up to the backend in it, after one and the same sequence of visits. -/
structure DifferInExpression (c : Compilation (Compiled Expr))
    (d : Compilation (Compiled DirectoryQuery)) : Prop where
  succeed_together : (∃ a, c.result = .ok a) ↔ ∃ b, d.result = .ok b
  same_flag : ∀ a b, c.result = .ok a → d.result = .ok b → a.consistency = b.consistency
  same_error : ∀ e, c.result = .error e → d.result = .error (e.onBackend .directory)
  same_visits : c.visited = d.visited

variable {ctx : CompileContext} {f node : Filter}

theorem Shared.operand (shared : Shared ctx f) (parsed : ctx.parsed? f = some node) {g : Filter}
    (inside : node.HasOperand g) : Shared ctx g :=
  fun h reached => shared h (.through parsed inside reached)

theorem Shared.of_operands (parsed : ctx.parsed? f = some node)
    (own : node.alias? = none ∧ node.kind ≠ .lowercase ∧ node.kind ≠ .approximateMatch)
    (each : ∀ g, node.HasOperand g → Shared ctx g) : Shared ctx f := by
  intro h reached
  rcases (Filter.reaches_iff parsed h).mp reached with rfl | ⟨g, inside, later⟩
  · exact own
  · exact each g inside h later

theorem directory_parts (ctx : CompileContext) (node : Filter) :
    Backend.directory.parts ctx node = node.operands := by
  simp [Backend.parts, Backend.walkedAlias]

theorem unaliased_parts (plain : node.alias? = none) :
    Backend.document.parts ctx node = node.operands := by
  have unwalked : Backend.document.walkedAlias ctx node = [] := by
    unfold Backend.walkedAlias
    split
    · cases plain
    · rfl
  rw [Backend.parts, unwalked, List.append_nil]

theorem walk_shared (levels depth : Nat) (shared : Shared ctx f) :
    Backend.document.walk ctx levels depth f = Backend.directory.walk ctx levels depth f := by
  induction levels generalizing depth f with
  | zero => rfl
  | succ levels ih =>
      rw [Backend.walk, Backend.walk]
      cases parsed : ctx.parsed? f with
      | none => rfl
      | some node =>
          simp only [Option.elim, directory_parts, unaliased_parts (shared node (.self parsed)).1]
          congr 1
          apply List.flatMap_congr
          intro g inside
          exact ih (depth + 1) (shared.operand parsed inside)

theorem walk_reaches {levels depth : Nat} {s : Stop}
    (inside : s ∈ Backend.directory.walk ctx levels depth f)
    (parsed : ctx.parsed? s.filter = some node) : f.Reaches ctx.parsed? Filter.HasOperand node := by
  induction levels generalizing depth f with
  | zero =>
      cases List.mem_singleton.mp inside
      exact .self parsed
  | succ levels ih =>
      rw [Backend.walk, List.mem_cons, List.mem_flatMap] at inside
      rcases inside with rfl | ⟨g, part, later⟩
      · exact .self parsed
      · cases found : ctx.parsed? f with
        | none =>
            rw [found] at part
            cases part
        | some root =>
            rw [found, Option.elim, directory_parts] at part
            exact .through found part (ih later)

theorem refusal_shared (known : node.kind ≠ .lowercase ∧ node.kind ≠ .approximateMatch) :
    Backend.directory.refusal? node =
      (Backend.document.refusal? node).map (·.onBackend .directory) := by
  have rejected : Backend.directory.rejects node.kind = Backend.document.rejects node.kind := by
    obtain ⟨folded, approximate⟩ := known
    cases kind : node.kind <;> simp_all [Backend.rejects]
  unfold Backend.refusal?
  rw [rejected]
  split
  · rfl
  · cases node with
    | not operand => rfl
    | junction op operands =>
        by_cases empty : operands = [] <;> simp [empty, CompileError.onBackend]
    | _ =>
        simp only
        split <;> rfl

theorem fault_shared {s : Stop}
    (known : ∀ node, ctx.parsed? s.filter = some node →
      node.kind ≠ .lowercase ∧ node.kind ≠ .approximateMatch) :
    s.fault? ctx .directory = (s.fault? ctx .document).map (·.onBackend .directory) := by
  obtain ⟨depth, g⟩ := s
  by_cases within : depth < ctx.maxDepth
  · cases parsed : ctx.parsed? g with
    | some node => rw [fault_parsed within parsed, fault_parsed within parsed,
        refusal_shared (known node parsed)]
    | none =>
        obtain ⟨text, cause, rfl, parse⟩ := (ctx.parsed_none_iff g).mp parsed
        simp [Stop.fault?, Nat.not_le_of_lt within, parse, CompileError.onBackend]
  · have bottom : ctx.maxDepth ≤ depth := Nat.le_of_not_lt within
    simp [Stop.fault?, bottom, CompileError.onBackend]

-- The first fault is found at one stop by both, so what is reported differs only in its wording.
theorem report_shared (stops : List Stop)
    (alike : ∀ s ∈ stops,
      s.fault? ctx .directory = (s.fault? ctx .document).map (·.onBackend .directory)) :
    Stop.report ctx .directory stops =
      ((Stop.report ctx .document stops).1.map (·.onBackend .directory),
        (Stop.report ctx .document stops).2) := by
  induction stops with
  | nil => rfl
  | cons s rest ih =>
      obtain ⟨here, later⟩ := List.forall_mem_cons.mp alike
      rw [Stop.report, Stop.report, here]
      cases s.fault? ctx .document with
      | some e => rfl
      | none => simp [ih later]

theorem outcome_shared (shared : Shared ctx f) :
    outcome (Directory.compile ctx f) =
      ((outcome (Document.compile ctx f)).1.map (·.onBackend .directory),
        (outcome (Document.compile ctx f)).2) := by
  rw [Directory.outcome_compile, Document.outcome_compile, walk_shared _ _ shared]
  apply report_shared
  intro s inside
  apply fault_shared
  intro node parsed
  exact (shared node (walk_reaches inside parsed)).2

theorem reaches_shared (shared : Shared ctx f) (node : Filter) :
    f.Reaches ctx.parsed? (Document.Forwards ctx.schema) node ↔
      f.Reaches ctx.parsed? Filter.HasOperand node := by
  constructor
  · intro reached
    induction reached with
    | self parsed => exact .self parsed
    | through parsed next _ ih =>
        cases next with
        | operand inside => exact .through parsed inside (ih (shared.operand parsed inside))
        -- The flag of an alias is forwarded too, but there is no alias here.
        | aliased shape => cases (shared _ (.self parsed)).1
  · intro reached
    induction reached with
    | self parsed => exact .self parsed
    | through parsed inside _ ih =>
        exact .through parsed (.operand inside) (ih (shared.operand parsed inside))

/-- On what both backends have forms for, they differ in nothing but the expression. -/
theorem backends_agree (shared : Shared ctx f) :
    DifferInExpression (Document.compile ctx f) (Directory.compile ctx f) := by
  obtain ⟨failure, visits⟩ := Prod.mk.inj (outcome_shared shared)
  refine ⟨?_, ?_, ?_, visits.symm⟩
  · rw [succeeds_iff_no_failure, succeeds_iff_no_failure, failure, Option.map_eq_none_iff]
    rfl
  · intro a b document directory
    rw [Bool.eq_iff_iff, Document.flag_compile_at document, Directory.flag_compile_at directory]
    simp only [reaches_shared shared]
  · intro e failed
    rw [fails_iff_failure] at failed ⊢
    rw [failure]
    exact congrArg (Option.map _) failed

def unparsedTwice : Filter := .not (.and [.presence "a", .raw "again", .or []])

def againParser : CompileContext := ⟨.empty, id, fun _ => .ok (.raw "again"), 4⟩

theorem unparsedTwice_shared : Shared againParser unparsedTwice := by
  have leaf : Shared againParser (.presence "a") :=
    .of_operands rfl (by decide) fun g inside => nomatch inside
  have text : Shared againParser (.raw "again") := by
    have parsed : againParser.parsed? (.raw "again") = some (.raw "again") := rfl
    exact .of_operands parsed (by decide) fun g inside => nomatch inside
  have empty : Shared againParser (.or []) :=
    .of_operands rfl (by decide) fun g inside => nomatch inside
  have all : Shared againParser (.and [.presence "a", .raw "again", .or []]) := by
    refine .of_operands rfl (by decide) ?_
    simp [Filter.HasOperand, Filter.operands, Filter.and, leaf, text, empty]
  refine .of_operands rfl (by decide) ?_
  simp [unparsedTwice, Filter.HasOperand, Filter.operands, all]

theorem backends_agree_on_a_fault :
    Shared againParser unparsedTwice ∧
      (Document.compile againParser unparsedTwice).result =
        .error (.unsupportedKind .raw .document) ∧
      (Directory.compile againParser unparsedTwice).result =
        .error (.unsupportedKind .raw .directory) ∧
      (Directory.compile againParser unparsedTwice).visited =
        [unparsedTwice, .and [.presence "a", .raw "again", .or []], .presence "a", .raw "again"] := by
  have agree := backends_agree unparsedTwice_shared
  exact ⟨unparsedTwice_shared, rfl, agree.same_error _ rfl, agree.same_visits.symm⟩

end FilterQuery
