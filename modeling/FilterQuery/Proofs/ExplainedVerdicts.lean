import FilterQuery.Proofs.Consistency
import FilterQuery.Proofs.Outline

/-!
What an explanation says of a filter is what the document compiler does. Its lines are the outline
of the filter. The cardinality and the consistency in the line of a leaf are all that compilation
takes from the marker and from the schema for that leaf: it goes the same way where the marker is
the printed cardinality and the schema tells nothing but the printed consistency. Aliases are
another matter, since they may be compiled under another name or not at all; a leaf that operands
alone lead to is compiled as it is printed.
-/
namespace FilterQuery

/-- A schema that tells of every attribute alike whether reads have to be consistent, and no more. -/
def CompileContext.telling (ctx : CompileContext) (consistency : Bool) : CompileContext :=
  { ctx with schema := ⟨fun _ => some ⟨.unknown, consistency⟩⟩ }

namespace Compilation

variable {α β : Type}

theorem first_within {c : Compilation α} {next : α → Compilation β} {b : β}
    (done : (c >>= next).result = .ok b) : c.trace <:+: (c >>= next).trace := by
  obtain ⟨a, first, _⟩ := (bind_ok_iff _ _ _).mp done
  rw [bind_of_ok first]
  exact (List.prefix_append _ _).isInfix

theorem later_within {c : Compilation α} {a : α} (first : c.result = .ok a)
    (next : α → Compilation β) : (next a).trace <:+: (c >>= next).trace := by
  rw [bind_of_ok first]
  exact (List.suffix_append _ _).isInfix

theorem each_within {compile : Filter → Compilation α} {operands : List Filter} {all : List α}
    (done : (each compile operands).result = .ok all) {g : Filter} (inside : g ∈ operands) :
    (compile g).trace <:+: (each compile operands).trace := by
  induction operands generalizing all with
  | nil => cases inside
  | cons operand rest ih =>
      obtain ⟨a, first, later⟩ := (bind_ok_iff _ _ _).mp done
      rcases List.mem_cons.mp inside with rfl | member
      · exact first_within done
      · obtain ⟨others, tail, _⟩ := (bind_ok_iff _ _ _).mp later
        refine (ih tail member).trans ((first_within later).trans ?_)
        exact later_within first fun a => do let others ← each compile rest; return a :: others

end Compilation

namespace Document

open Compilation

variable {ctx : CompileContext} {f g : Filter} {c : Compiled Expr}

theorem node_within {child : Filter → Compilation (Compiled Expr)}
    (done : (compileNode ctx child f).result = .ok c) (operand : f.HasOperand g) :
    (child g).trace <:+: (compileNode ctx child f).trace := by
  cases f with
  | not inner =>
      cases List.mem_singleton.mp operand
      exact first_within done
  | junction op operands =>
      change (compileJunction ctx child op operands).result = .ok c at done
      change _ <:+: (compileJunction ctx child op operands).trace
      unfold compileJunction at done ⊢
      split at done
      · cases done
      · rename_i some
        obtain ⟨all, parts, _⟩ := (bind_ok_iff _ _ _).mp done
        rw [if_neg some]
        exact (each_within parts operand).trans (first_within done)
  | _ => cases operand

theorem operand_compiled {child : Filter → Compilation (Compiled Expr)}
    (done : (compileNode ctx child f).result = .ok c) (operand : f.HasOperand g) :
    ∃ d, (child g).result = .ok d := by
  cases f with
  | not inner =>
      cases List.mem_singleton.mp operand
      exact (node_step done).not_operand
  | junction op operands =>
      obtain ⟨all, parts⟩ := (node_step done).junction_operands
      obtain ⟨d, _, part⟩ := exists_related parts g operand
      exact ⟨d, part⟩
  | _ => cases operand

-- RAW text has no operands of its own.
theorem operand_parsed (ctx : CompileContext) (operand : f.HasOperand g) :
    ctx.parsed? f = some f := by
  cases f with
  | raw text => cases operand
  | _ => rfl

theorem operand_runs {levels depth : Nat}
    (done : (compileAt ctx levels depth f).result = .ok c) (operand : f.HasOperand g) :
    ∃ left d, levels = left + 1 ∧ (compileAt ctx left (depth + 1) g).result = .ok d ∧
      (compileAt ctx left (depth + 1) g).trace <:+: (compileAt ctx levels depth f).trace := by
  cases levels with
  | zero => simp [compileAt] at done
  | succ left =>
      obtain ⟨node, entered, inner⟩ := (bind_ok_iff _ _ _).mp done
      have parsed := (CompileContext.enter_ok_iff _ _ _ _).mp entered
      cases parsed.symm.trans (operand_parsed ctx operand)
      obtain ⟨d, part⟩ := operand_compiled inner operand
      exact ⟨left, d, rfl, part, (node_within inner operand).trans (later_within entered _)⟩

theorem runs_at {levels depth : Nat} {node : Filter} {position : List Nat}
    (done : (compileAt ctx levels depth f).result = .ok c)
    (found : f.nodeAt? Filter.operands position = some node) :
    ∃ left d, levels = left + position.length ∧
      (compileAt ctx left (depth + position.length) node).result = .ok d ∧
      (compileAt ctx left (depth + position.length) node).trace <:+:
        (compileAt ctx levels depth f).trace := by
  induction position generalizing f levels depth c with
  | nil =>
      cases found
      exact ⟨levels, c, rfl, done, List.infix_rfl⟩
  | cons i rest ih =>
      obtain ⟨g, part, later⟩ := Option.bind_eq_some_iff.mp found
      obtain ⟨left, d, rfl, inner, within⟩ := operand_runs done (List.mem_of_getElem? part)
      obtain ⟨lower, e, rfl, last, deeper⟩ := ih inner later
      have depths : depth + 1 + rest.length = depth + (i :: rest).length := by
        rw [List.length_cons]
        omega
      rw [depths] at last deeper
      exact ⟨lower, e, rfl, last, deeper.trans within⟩

theorem reaches_at {node : Filter} {position : List Nat} (schema : Schema)
    (found : f.nodeAt? Filter.operands position = some node)
    (parsed : ctx.parsed? node = some node) : f.Reaches ctx.parsed? (Forwards schema) node := by
  induction position generalizing f with
  | nil =>
      cases found
      exact .self parsed
  | cons i rest ih =>
      obtain ⟨g, part, later⟩ := Option.bind_eq_some_iff.mp found
      have operand : f.HasOperand g := List.mem_of_getElem? part
      exact .through (operand_parsed ctx operand) (.operand operand) (ih later)

end Document

namespace Explain

open Document

section Leaf

variable (ctx : CompileContext) (own : String) (test : Test) (aliasFilter : Option Filter)
  (marker : Cardinality)

theorem settle_cardinality (schema : Schema) :
    (settle schema marker own).1 = marker.orElse (schema.detect own) := by
  unfold settle Schema.detect
  cases marker with
  | unknown =>
      by_cases fixed : isObjectClass own <;> simp [Cardinality.isKnown, Cardinality.orElse, fixed]
  | multi => rfl
  | single => rfl

/-- A document compilation goes by a verdict: it takes a node as it takes one with the cardinality
for its marker, under a schema that tells only the consistency. -/
structure GoesBy (node : Filter) (v : Verdict) : Prop where
  cardinality : ctx.cardinality node = v.cardinality
  consistency : ctx.contributes node = v.consistency
  dispatched : ∀ child, compileNode ctx child node =
    compileNode (ctx.telling v.consistency) child (node.withCardinality v.cardinality)
  gathered : memberValue? ctx node =
    memberValue? (ctx.telling v.consistency) (node.withCardinality v.cardinality)

theorem verdict_nameless : verdict? ctx.schema (.leaf "" test aliasFilter marker) = none := rfl

theorem verdict_named (proper : own ≠ "") :
    verdict? ctx.schema (.leaf own test aliasFilter marker) =
      some ⟨own, ctx.cardinality (.leaf own test aliasFilter marker),
        (settle ctx.schema marker own).2, ctx.contributes (.leaf own test aliasFilter marker)⟩ := by
  have named : (Filter.leaf own test aliasFilter marker).properName? = some own := by
    simp [Filter.properName?, Filter.name?, Option.filter, proper]
  rw [verdict?, named, Option.map_some, ctx.leaf_cardinality test aliasFilter marker proper,
    ctx.leaf_contributes test aliasFilter marker proper, ← settle_cardinality]
  rfl

theorem written_cardinality (proper : own ≠ "") (consistency : Bool) :
    (ctx.telling consistency).cardinality
        (.leaf own test aliasFilter (ctx.cardinality (.leaf own test aliasFilter marker))) =
      ctx.cardinality (.leaf own test aliasFilter marker) := by
  cases shape : ctx.cardinality (.leaf own test aliasFilter marker) with
  | unknown =>
      obtain ⟨_, nameless | ⟨ordinary, _⟩⟩ := (cardinality_unknown_iff ctx _ _ _ _).mp shape
      · exact absurd nameless proper
      · exact (cardinality_unknown_iff _ _ _ _ _).mpr ⟨rfl, .inr ⟨ordinary, rfl⟩⟩
  | multi => rfl
  | single => rfl

theorem told_consistency (proper : own ≠ "") (consistency : Bool) :
    (ctx.telling consistency).contributes (.leaf own test aliasFilter marker) = consistency := by
  rw [CompileContext.leaf_contributes _ test aliasFilter marker proper]
  rfl

variable {ctx own test aliasFilter marker}

-- Besides its cardinality and its flag, a leaf takes only the resolver from the context.
theorem leaf_alike {other : CompileContext} {written : Cardinality}
    (shape : other.cardinality (.leaf own test aliasFilter written) =
      ctx.cardinality (.leaf own test aliasFilter marker))
    (flag : other.contributes (.leaf own test aliasFilter written) =
      ctx.contributes (.leaf own test aliasFilter marker))
    (resolver : other.resolve = ctx.resolve) (child : Filter → Compilation (Compiled Expr)) :
    compileNode other child (.leaf own test aliasFilter written) =
      compileNode ctx child (.leaf own test aliasFilter marker) := by
  have internal : other.internalName (.leaf own test aliasFilter written) =
      ctx.internalName (.leaf own test aliasFilter marker) := by
    rw [CompileContext.internalName, resolver]
    rfl
  cases test with
  | presence => simp only [compileNode, compileTest, shape, flag, internal]
  | substring components => simp only [compileNode, compileTest, shape, flag, internal]
  | compare op value =>
      cases op with
      | equality => simp only [compileNode, compileEquality, shape, flag, internal]
      | atLeast => simp only [compileNode, compileTest, shape, flag, internal]
      | atMost => simp only [compileNode, compileTest, shape, flag, internal]
      | approximate => rfl

theorem member_alike {other : CompileContext} {written : Cardinality}
    (shape : other.cardinality (.leaf own test aliasFilter written) =
      ctx.cardinality (.leaf own test aliasFilter marker)) :
    memberValue? other (.leaf own test aliasFilter written) =
      memberValue? ctx (.leaf own test aliasFilter marker) := by
  cases aliasFilter with
  | some aliasFilter => cases test <;> simp [memberValue?]
  | none =>
      cases test with
      | presence => rfl
      | substring components => rfl
      | compare op value => cases op <;> simp [memberValue?, shape]

theorem goes_by {v : Verdict} (proper : own ≠ "")
    (said : verdict? ctx.schema (.leaf own test aliasFilter marker) = some v) :
    GoesBy ctx (.leaf own test aliasFilter marker) v := by
  rw [verdict_named ctx own test aliasFilter marker proper] at said
  cases said
  have shape := written_cardinality ctx own test aliasFilter marker proper
    (ctx.contributes (.leaf own test aliasFilter marker))
  have flag := told_consistency ctx own test aliasFilter
    (ctx.cardinality (.leaf own test aliasFilter marker)) proper
    (ctx.contributes (.leaf own test aliasFilter marker))
  constructor
  · rfl
  · rfl
  · intro child
    exact (leaf_alike shape flag rfl child).symm
  · exact (member_alike shape).symm

theorem describe_nameless :
    describe ctx.schema (.leaf "" test aliasFilter marker) = test.kind.tag := rfl

theorem describe_named {v : Verdict} (proper : own ≠ "")
    (said : verdict? ctx.schema (.leaf own test aliasFilter marker) = some v) :
    describe ctx.schema (.leaf own test aliasFilter marker) =
      test.kind.tag ++ " " ++ (padRight 20 own ++ " cardinality=" ++ v.cardinality.name ++
        " (" ++ v.source.text ++ ") consistency=" ++ toString v.consistency) := by
  have named : v.name = own := by
    rw [verdict_named ctx own test aliasFilter marker proper] at said
    cases said
    rfl
  simp only [describe, said, Verdict.text, named]
  rfl

end Leaf

/-- In a run over a whole filter, the node at a position is compiled by a verdict: at the depth of
the position, with its trace within that of the whole. Its flag is that of the verdict unless an
alias forwards one, and either way the flag of the verdict is forwarded to the whole. -/
structure RunsBy (ctx : CompileContext) (f : Filter) (whole : Compiled Expr) (position : List Nat)
    (node : Filter) (v : Verdict) (levels : Nat) (part : Compiled Expr) : Prop where
  limit : ctx.maxDepth = levels + 1 + position.length
  within : (compileAt ctx (levels + 1) position.length node).trace <:+: (compile ctx f).trace
  compiled : (compileAt ctx (levels + 1) position.length node).result = .ok part
  dispatched : (compileNode (ctx.telling v.consistency)
    (compileAt ctx levels (position.length + 1)) (node.withCardinality v.cardinality)).result =
      .ok part
  flag : part.consistency = true ↔ v.consistency = true ∨ ∃ g, Forwards ctx.schema node g ∧
    ∃ h, g.Reaches ctx.parsed? (Forwards ctx.schema) h ∧ Contributes ctx.schema h
  forwarded : v.consistency = true → whole.consistency = true

theorem runs_by {ctx : CompileContext} {f node : Filter} {whole : Compiled Expr}
    {position : List Nat} {v : Verdict} (done : (compile ctx f).result = .ok whole)
    (found : f.nodeAt? Filter.operands position = some node)
    (parsed : ctx.parsed? node = some node) (goes : GoesBy ctx node v) :
    ∃ levels part, RunsBy ctx f whole position node v levels part := by
  obtain ⟨left, part, limit, compiled, within⟩ := runs_at done found
  rw [Nat.zero_add] at compiled within
  obtain ⟨levels, _, rfl, _⟩ := compile_at_step compiled
  have own : Contributes ctx.schema node ↔ v.consistency = true := by
    rw [← contributes_iff, goes.consistency]
  refine ⟨levels, part, limit, within, compiled, ?_, ?_, ?_⟩
  · rw [← goes.dispatched]
    rw [compileAt, ctx.enter_bind_result _ parsed] at compiled
    exact compiled
  · rw [flag_compile_at compiled, reaches_exists_iff parsed, own]
  · intro asks
    exact (flag_compile_at done).mpr ⟨node, reaches_at ctx.schema found parsed, own.mpr asks⟩

/-- An explanation lists the nodes of a filter in order, as deep as they stand; and it says of a
leaf that only operands lead to what the document compiler goes by. -/
theorem explanation_matches_compiler (ctx : CompileContext) (limit : Nat) (f : Filter) :
    (∃ positions deepest,
      Outlines (f.nodeAt? Filter.children) 0 positions (entries 0 f) ∧
      ((entries 0 f).map (·.level)).max? = some deepest ∧
      explain ctx.schema limit f = String.join
        (("depth " ++ toString (deepest + 1) ++ " (compile limit " ++ toString limit ++ ")\n") ::
          (entries 0 f).map fun e =>
            String.ofList (List.replicate (2 * e.level) ' ') ++ describe ctx.schema e.node ++
              "\n")) ∧
    ∀ position node own test aliasFilter marker, node = .leaf own test aliasFilter marker →
      f.nodeAt? Filter.operands position = some node →
        f.nodeAt? Filter.children position = some node ∧
        (own = "" → verdict? ctx.schema node = none ∧ describe ctx.schema node = test.kind.tag) ∧
        (own ≠ "" → ∃ v, verdict? ctx.schema node = some v ∧
          describe ctx.schema node = test.kind.tag ++ " " ++ (padRight 20 own ++
            " cardinality=" ++ v.cardinality.name ++ " (" ++ v.source.text ++ ") consistency=" ++
              toString v.consistency) ∧
          (∀ c : Cardinality, c.name = v.cardinality.name → c = ctx.cardinality node) ∧
          GoesBy ctx node v ∧
          ∀ whole, (compile ctx f).result = .ok whole →
            ∃ levels part, RunsBy ctx f whole position node v levels part) := by
  constructor
  · obtain ⟨positions, outline⟩ := outlines_entries f 0
    obtain ⟨deepest, largest, depth⟩ := deepest_level f
    refine ⟨positions, deepest, outline, largest, ?_⟩
    rw [explain, header, depth]
    rfl
  · rintro position _ own test aliasFilter marker rfl found
    refine ⟨Filter.node_at_children found, ?_, ?_⟩
    · rintro rfl
      exact ⟨verdict_nameless _ _ _ _, describe_nameless⟩
    · intro proper
      have said := verdict_named ctx own test aliasFilter marker proper
      have goes := goes_by proper said
      refine ⟨_, said, describe_named proper said, ?_, goes, ?_⟩
      · intro c printed
        exact (Cardinality.name_inj printed).trans goes.cardinality.symm
      · intro whole done
        exact runs_by done found rfl goes

def foldedMail : Filter :=
  .leaf "mail" (.compare .equality (.string "x")) (some (.lowercase "")) .unknown

def namelessPresence : Filter := .leaf "" .presence (some (.lowercase "uid")) .unknown

def mailContext : CompileContext := ⟨.ofNamed [("mail", ⟨.multi, true⟩)], id, .none, 4⟩

theorem folded_mail_runs_as_explained :
    describe mailContext.schema namelessPresence = "PRESENCE" ∧
      ∃ whole levels part,
        (compile mailContext (.not (.and [foldedMail, namelessPresence]))).result = .ok whole ∧
        RunsBy mailContext (.not (.and [foldedMail, namelessPresence])) whole [0, 0] foldedMail
          ⟨"mail", .multi, .schema, true⟩ levels part := by
  obtain ⟨_, leaves⟩ :=
    explanation_matches_compiler mailContext 64 (.not (.and [foldedMail, namelessPresence]))
  obtain ⟨_, silent, _⟩ := leaves [0, 1] namelessPresence _ _ _ _ rfl rfl
  obtain ⟨_, _, named⟩ := leaves [0, 0] foldedMail _ _ _ _ rfl rfl
  obtain ⟨v, said, _, _, _, runs⟩ := named (by decide)
  obtain ⟨levels, part, run⟩ := runs _ rfl
  cases said
  exact ⟨(silent rfl).2, _, levels, part, rfl, run⟩

end Explain

end FilterQuery
