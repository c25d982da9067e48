import FilterQuery.Compile.Message
import FilterQuery.Proofs.Membership

/-!
The log of a compilation at the level of debugging, beside the memberships of the expression that
comes out of it. Each membership is announced once, where it is built, and the parts of a node are
compiled in the order in which they stand in its expression; so the log announces the memberships
from left to right. Only where operands are gathered into one membership are their expressions
thrown away, and those have no membership in them.
-/
namespace FilterQuery

mutual
def Expr.memberships : Expr → List (Expr × Expr)
  | .path _ => []
  | .literal _ => []
  | .array _ => []
  | .binary left .isIn right => left.memberships ++ (left, right) :: right.memberships
  | .binary left _ right => left.memberships ++ right.memberships
  | .not operand => operand.memberships
  | .isNotMissing operand => operand.memberships
  | .any _ source condition => source.memberships ++ condition.memberships
  | .call _ args => Expr.membershipsOfAll args
  | .grouped inner => inner.memberships

def Expr.membershipsOfAll : List Expr → List (Expr × Expr)
  | [] => []
  | arg :: rest => arg.memberships ++ Expr.membershipsOfAll rest
end

/-- What the log has to show for a membership. Either literals have been gathered, or one literal is
searched in what may be an array. -/
def Announces (e : Event) : Expr × Expr → Prop
  | (.path name, .array items) =>
      e = .membership name items.length ∧ e.message = "Rewriting OR of equalities as IN"
  | (.literal _, .path name) =>
      e = .bothShapes name ∧
        e.message = "Cardinality unknown, matching both scalar and array shapes"
  | _ => False

namespace Compilation

variable {α β : Type}

def debugEvents (c : Compilation α) : List Event := c.events.filter (·.level == .debug)

theorem debug_bind {c : Compilation α} {a : α} (done : c.result = .ok a)
    (next : α → Compilation β) :
    (c >>= next).debugEvents = c.debugEvents ++ (next a).debugEvents := by
  change (Compilation.bind c next).debugEvents = _
  unfold Compilation.bind
  rw [done]
  simp only [debugEvents, events, List.filterMap_append, List.filter_append]

theorem debug_log_bind {e : Event} (level : e.level = .debug) (next : Unit → Compilation β) :
    (log e >>= next).debugEvents = e :: (next ()).debugEvents := by
  rw [debug_bind rfl]
  simp [debugEvents, events, log, record, level]

def Accounted (c : Compilation (Compiled Expr)) : Prop :=
  ∀ d, c.result = .ok d → List.Forall₂ Announces c.debugEvents d.expression.memberships

theorem accounted_fail (e : CompileError) : Accounted (fail e) := by
  intro d done
  simp at done

theorem accounted_pure {e : Expr} {flag : Bool} (none : e.memberships = []) :
    Accounted (pure ⟨e, flag⟩) := by
  intro d done
  rw [pure_ok_iff] at done
  rw [← done, none]
  exact .nil

theorem accounted_after {c : Compilation α} {next : α → Compilation (Compiled Expr)}
    (silent : c.debugEvents = []) (later : ∀ a, c.result = .ok a → Accounted (next a)) :
    Accounted (c >>= next) := by
  intro d done
  obtain ⟨a, first, second⟩ := (bind_ok_iff _ _ _).mp done
  rw [debug_bind first, silent, List.nil_append]
  exact later a first d second

theorem accounted_around {c : Compilation (Compiled Expr)} {build : Compiled Expr → Compiled Expr}
    (part : Accounted c) (kept : ∀ d, (build d).expression.memberships = d.expression.memberships) :
    Accounted (c >>= fun d => pure (build d)) := by
  intro d done
  obtain ⟨inner, first, second⟩ := (bind_ok_iff _ _ _).mp done
  rw [pure_ok_iff] at second
  rw [debug_bind first, ← second, kept]
  exact (List.append_nil c.debugEvents).symm ▸ part inner first

theorem accounted_each {child : Filter → Compilation (Compiled Expr)}
    (parts : ∀ g, Accounted (child g)) {operands : List Filter} {all : List (Compiled Expr)}
    (done : (each child operands).result = .ok all) :
    List.Forall₂ Announces (each child operands).debugEvents
      (all.flatMap (·.expression.memberships)) := by
  induction operands generalizing all with
  | nil =>
      rw [each] at done ⊢
      cases done
      exact .nil
  | cons operand rest ih =>
      rw [each] at done ⊢
      obtain ⟨first, here, done⟩ := (bind_ok_iff _ _ _).mp done
      obtain ⟨others, later, last⟩ := (bind_ok_iff _ _ _).mp done
      rw [pure_ok_iff] at last
      subst last
      rw [debug_bind here, debug_bind later, List.flatMap_cons]
      refine List.rel_append (parts operand first here) ?_
      exact (List.append_nil _).symm ▸ ih later

theorem enter_silent (ctx : CompileContext) (depth : Nat) {f node : Filter}
    (entered : (ctx.enter depth f).result = .ok node) : (ctx.enter depth f).debugEvents = [] := by
  have parsed := (ctx.enter_ok_iff depth f node).mp entered
  cases f with
  | raw text =>
      have expanded : ctx.expand (.raw text) = ⟨.ok node, [.event (.rawText text)]⟩ := by
        simp only [CompileContext.expand, (ctx.parsed_raw_iff text node).mp parsed]
        rfl
      rw [CompileContext.enter, expanded]
      rfl
  | _ => rfl

theorem name_silent (ctx : CompileContext) (node : Filter) :
    (ctx.internalName node).debugEvents = [] := by
  unfold CompileContext.internalName
  cases node.effectiveName? <;> rfl

end Compilation

namespace Document

open Compilation

theorem condition_memberships {test : Test} {condition : Expr → Expr}
    (can : condition? test = some condition) (e : Expr) :
    (condition e).memberships = e.memberships := by
  cases test with
  | presence => cases can; rfl
  | substring components => cases can; exact List.append_nil _
  | compare op value =>
      cases op with
      | approximate => cases can
      | _ => cases can; exact List.append_nil _

theorem on_attribute_memberships {test : Test} {condition : Expr → Expr}
    (can : condition? test = some condition) (shape : Cardinality) (internal : String) :
    (onAttribute shape internal condition).memberships = [] := by
  have plain : ∀ name, (condition (.path name)).memberships = [] :=
    fun name => condition_memberships can (.path name)
  unfold onAttribute
  split
  · exact plain _
  · exact plain _

theorem join_memberships (op : Junction) (first : Expr) (rest : List Expr) :
    (Expr.join op.binary first rest).memberships =
      first.memberships ++ rest.flatMap Expr.memberships := by
  induction rest generalizing first with
  | nil => simp [Expr.join]
  | cons second rest ih =>
      have folded : Expr.join op.binary first (second :: rest) =
          Expr.join op.binary (.binary first op.binary second) rest := rfl
      have pair : (Expr.binary first op.binary second).memberships =
          first.memberships ++ second.memberships := by
        cases op <;> rfl
      rw [folded, ih, pair, List.flatMap_cons, List.append_assoc]

variable {ctx : CompileContext} {child : Filter → Compilation (Compiled Expr)}

theorem accounted_test (own : Bool) (node : Filter) (test : Test) {condition : Expr → Expr}
    (can : condition? test = some condition) :
    Accounted (compileTest ctx own node condition) := by
  apply accounted_after (name_silent ctx node)
  intro internal _
  exact accounted_pure (on_attribute_memberships can _ _)

theorem accounted_equality (parts : ∀ g, Accounted (child g)) (own : Bool) (node : Filter)
    (value : AssertionValue) (aliasFilter : Option Filter) :
    Accounted (compileEquality ctx child own node value aliasFilter) := by
  apply accounted_after (name_silent ctx node)
  intro internal _
  have compared : ∀ e : Expr, (Expr.eq e (.ofValue value)).memberships = e.memberships :=
    fun e => List.append_nil _
  cases aliasFilter with
  | some aliasFilter =>
      cases ctx.cardinality node with
      | multi => exact accounted_around (parts _) fun d => compared _
      | single => exact accounted_around (parts _) fun d => compared _
      | unknown => exact accounted_around (parts _) fun d => compared _
  | none =>
      have can : condition? (.compare .equality value) = some (.eq · (.ofValue value)) := rfl
      cases ctx.cardinality node with
      | multi => exact accounted_pure (on_attribute_memberships can _ _)
      | single => exact accounted_pure (on_attribute_memberships can _ _)
      | unknown =>
          intro d done
          rw [result_log_bind, pure_ok_iff] at done
          subst done
          rw [debug_log_bind rfl]
          exact .cons ⟨rfl, rfl⟩ .nil

theorem accounted_joined {op : Junction} {compiled : List (Compiled Expr)} {flag : Bool}
    {before : List Event} {d : Compiled Expr}
    (announced : List.Forall₂ Announces before (compiled.flatMap (·.expression.memberships)))
    (done : (joined op compiled >>= fun e => pure ⟨e, flag⟩).result = .ok d) :
    List.Forall₂ Announces
      (before ++ (joined op compiled >>= fun e => pure (⟨e, flag⟩ : Compiled Expr)).debugEvents)
      d.expression.memberships := by
  obtain ⟨e, whole, last⟩ := (bind_ok_iff _ _ _).mp done
  obtain ⟨first, rest, rfl, rfl⟩ := (joined_ok_iff _ _ _).mp whole
  rw [pure_ok_iff] at last
  subst last
  have same : (Expr.grouped (.join op.binary first.expression
      (rest.map (·.expression)))).memberships =
      (first :: rest).flatMap (·.expression.memberships) := by
    rw [Expr.memberships, join_memberships, List.flatMap_map, List.flatMap_cons]
  rw [same, debug_bind whole]
  exact (List.append_nil before).symm ▸ announced

-- Operands that are gathered have announced nothing, so the one event is that of the membership.
theorem accounted_junction {levels depth : Nat}
    (parts : ∀ g, Accounted (compileAt ctx levels depth g)) (op : Junction)
    (operands : List Filter) :
    Accounted (compileJunction ctx (compileAt ctx levels depth) op operands) := by
  intro d done
  unfold compileJunction at done ⊢
  split at done
  · simp at done
  · rename_i some
    rw [if_neg some]
    obtain ⟨compiled, all, later⟩ := (bind_ok_iff _ _ _).mp done
    have announced := accounted_each parts all
    rw [debug_bind all]
    split at later
    · rename_i name values members
      rw [result_log_bind, pure_ok_iff] at later
      subst later
      have plain := member_expressions members ((each_ok_iff _ _ _).mp all)
      have silent : compiled.flatMap (·.expression.memberships) = [] := by
        rw [← List.flatMap_map, plain, List.flatMap_map]
        simp [Expr.eq, Expr.memberships, Expr.ofValue]
      rw [silent, List.forall₂_nil_right_iff] at announced
      have counted : Announces (.membership (ctx.resolve name) values.length)
          (.path (ctx.resolve name), .array (values.map .ofValue)) :=
        ⟨by rw [List.length_map], rfl⟩
      have logged : Event.level (.membership (ctx.resolve name) values.length) = .debug := rfl
      simp only [announced, List.nil_append, debug_log_bind logged]
      exact .cons counted .nil
    · exact accounted_joined announced later

theorem accounted_node {levels depth : Nat}
    (parts : ∀ g, Accounted (compileAt ctx levels depth g)) (node : Filter) :
    Accounted (compileNode ctx (compileAt ctx levels depth) node) := by
  cases node with
  | not operand => exact accounted_around (parts operand) fun _ => rfl
  | junction op operands => exact accounted_junction parts op operands
  | raw text => exact accounted_fail _
  | lowercase name =>
      by_cases empty : name = ""
      · simp only [compileNode, empty, if_true]
        exact accounted_fail _
      · simp only [compileNode, empty, if_false]
        have plain : (Expr.lower (.path name)).memberships = [] := rfl
        exact accounted_pure plain
  | leaf own test aliasFilter marker =>
      cases test with
      | presence => exact accounted_test _ _ .presence rfl
      | substring components => exact accounted_test _ _ (.substring components) rfl
      | compare op value =>
          cases op with
          | equality => exact accounted_equality parts _ _ value aliasFilter
          | atLeast => exact accounted_test _ _ (.compare .atLeast value) rfl
          | atMost => exact accounted_test _ _ (.compare .atMost value) rfl
          | approximate => exact accounted_fail _

theorem accounted_compile_at (ctx : CompileContext) (levels depth : Nat) (f : Filter) :
    Accounted (compileAt ctx levels depth f) := by
  induction levels generalizing depth f with
  | zero => exact accounted_fail _
  | succ levels ih =>
      intro d done
      obtain ⟨node, entered, compiled⟩ := (bind_ok_iff _ _ _).mp done
      rw [compileAt, debug_bind entered, enter_silent ctx depth entered, List.nil_append]
      exact accounted_node (ih (depth + 1)) node d compiled

/-- What a compilation logs for debugging are its memberships, one by one from left to right. -/
theorem log_announces_memberships {ctx : CompileContext} {f : Filter} {c : Compiled Expr}
    (compiled : (compile ctx f).result = .ok c) :
    List.Forall₂ Announces (compile ctx f).debugEvents c.expression.memberships :=
  accounted_compile_at ctx _ _ f c compiled

def searchedTwice : Filter :=
  .and [.leaf "mail" (.compare .equality (.bool true)) (some (.equality "" (.string "a"))) .multi,
    .or [.equality objectClass (.string "a"), .equality objectClass (.string "b")],
    .not (.equality "cn" (.int 1))]

theorem nested_memberships_announced :
    ∃ c, (compile ⟨.empty, id, .none, 3⟩ searchedTwice).result = .ok c ∧
      c.expression.memberships =
        [(.literal (.string "a"), .path "mail_"),
          (.path "objectClass", .array [.string "a", .string "b"]),
          (.literal (.number 1), .path "cn")] ∧
      (compile ⟨.empty, id, .none, 3⟩ searchedTwice).debugEvents =
        [.bothShapes "mail_", .membership "objectClass" 2, .bothShapes "cn"] ∧
      List.Forall₂ Announces (compile ⟨.empty, id, .none, 3⟩ searchedTwice).debugEvents
        c.expression.memberships := by
  have compiled : ∃ c, (compile ⟨.empty, id, .none, 3⟩ searchedTwice).result = .ok c := ⟨_, rfl⟩
  obtain ⟨c, done⟩ := compiled
  refine ⟨c, done, ?_, rfl, log_announces_memberships done⟩
  cases done
  rfl

end Document

end FilterQuery
