import FilterQuery.Like.Weights
import FilterQuery.Proofs.Membership

/-!
What the membership form is worth: nothing that a caller could see. The plain compilation joins
every *or* from its operands and knows no memberships. Wherever truth is all that is asked for, the
two compilations agree, since a membership has the truth of its disjunction and the connectives keep
agreement. Only the value of an alias could tell them apart, so no alias may have an *or* in it.
-/
namespace FilterQuery.Document

def plainJunction (child : Filter → Compilation (Compiled Expr)) (op : Junction)
    (operands : List Filter) : Compilation (Compiled Expr) := do
  if operands.isEmpty then Compilation.fail (.emptyJunction op.kind)
  else
    let compiled ← Compilation.each child operands
    let expression ← joined op compiled
    return ⟨expression, Compiled.anyConsistency compiled⟩

def plainNode (ctx : CompileContext) (child : Filter → Compilation (Compiled Expr)) :
    Filter → Compilation (Compiled Expr)
  | .junction op operands => plainJunction child op operands
  | node => compileNode ctx child node

def plainAt (ctx : CompileContext) : Nat → Nat → Filter → Compilation (Compiled Expr)
  | 0, _, _ => Compilation.fail (.tooDeep ctx.maxDepth)
  | levels + 1, depth, f => do
    let node ← ctx.enter depth f
    plainNode ctx (plainAt ctx levels (depth + 1)) node

def plainCompile (ctx : CompileContext) (f : Filter) : Compilation (Compiled Expr) :=
  plainAt ctx ctx.maxDepth 0 f

/-- The nodes of a filter as it is written, its aliases among them. -/
inductive Part : Filter → Filter → Prop where
  | self (f : Filter) : Part f f
  | inside {f g h : Filter} (child : g ∈ f.children) (part : Part g h) : Part f h

/-- The nodes that compilation may come to: parts, and the parses of RAW text among them. -/
inductive Reached (parse : RawParser) : Filter → Filter → Prop where
  | self (f : Filter) : Reached parse f f
  | inside {f g h : Filter} (child : g ∈ f.children) (later : Reached parse g h) :
      Reached parse f h
  | parsed {text : String} {g h : Filter} (parses : parse text = .ok g)
      (later : Reached parse g h) : Reached parse (.raw text) h

/-- No *or*, and no RAW text that may parse to one. -/
def FreeOfOr (f : Filter) : Prop := ∀ part, Part f part → part.kind ≠ .or ∧ part.kind ≠ .raw

def AliasesFreeOfOr (parse : RawParser) (f : Filter) : Prop :=
  ∀ node, Reached parse f node → ∀ aliasFilter, node.alias? = some aliasFilter →
    FreeOfOr aliasFilter

theorem FreeOfOr.child {f g : Filter} (free : FreeOfOr f) (child : g ∈ f.children) :
    FreeOfOr g :=
  fun part inside => free part (.inside child inside)

-- A new name at the root changes no kind, and the parts below stay as they are.
theorem Part.of_withName {f part : Filter} {name : String} (inside : Part (f.withName name) part) :
    ∃ before, Part f before ∧ before.kind = part.kind := by
  cases f with
  | leaf own test aliasFilter marker =>
      cases inside with
      | self => exact ⟨_, .self _, rfl⟩
      | inside child inside => exact ⟨part, .inside child inside, rfl⟩
  | lowercase own =>
      cases inside with
      | self => exact ⟨_, .self _, rfl⟩
      | inside child inside => simp [Filter.withName, Filter.children] at child
  | _ => exact ⟨part, inside, rfl⟩

theorem FreeOfOr.withName {f : Filter} (free : FreeOfOr f) (name : String) :
    FreeOfOr (f.withName name) := by
  intro part inside
  obtain ⟨before, written, same⟩ := inside.of_withName
  exact same ▸ free before written

variable {ctx : CompileContext} {f g node : Filter}

theorem AliasesFreeOfOr.child (free : AliasesFreeOfOr ctx.parseRaw f) (child : g ∈ f.children) :
    AliasesFreeOfOr ctx.parseRaw g :=
  fun node reached => free node (.inside child reached)

theorem AliasesFreeOfOr.of_children {parse : RawParser} (written : f.kind ≠ .raw)
    (own : ∀ g ∈ f.alias?, FreeOfOr g) (each : ∀ g ∈ f.children, AliasesFreeOfOr parse g) :
    AliasesFreeOfOr parse f := by
  intro node reached
  cases reached with
  | self => exact own
  | inside child later => exact each _ child node later
  | parsed parses later => exact absurd rfl written

theorem AliasesFreeOfOr.parsed (free : AliasesFreeOfOr ctx.parseRaw f)
    (parse : ctx.parsed? f = some node) : AliasesFreeOfOr ctx.parseRaw node := by
  cases f with
  | raw text =>
      intro inner reached
      exact free inner (.parsed ((ctx.parsed_raw_iff text node).mp parse) reached)
  | _ => cases parse; exact free

section Nodes

open Compilation

variable {child other : Filter → Compilation (Compiled Expr)}

def Kept (Related : Compiled Expr → Compiled Expr → Prop) : Prop :=
  ∀ c d, Related c d → ∀ (build : Expr → Expr) (own : Bool),
    Related ⟨build c.expression, own⟩ ⟨build d.expression, own⟩ ∧
      Related ⟨build c.expression, c.consistency || own⟩ ⟨build d.expression, d.consistency || own⟩

theorem kept_eq : Kept Eq := by
  rintro c _ rfl build own
  exact ⟨rfl, rfl⟩

variable {Related : Compiled Expr → Compiled Expr → Prop}

theorem equality_related (same : ∀ c, Related c c) (kept : Kept Related) {own : Bool}
    {value : AssertionValue} {aliasFilter : Option Filter}
    (under : ∀ g ∈ aliasFilter, Corresponds Related (child g) (other g))
    (renamed : ∀ g ∈ aliasFilter, ∀ name,
      Corresponds Related (child (g.withName name)) (other (g.withName name))) :
    Corresponds Related (compileEquality ctx child own node value aliasFilter)
      (compileEquality ctx other own node value aliasFilter) := by
  apply corresponds_bind_same
  intro internal _
  cases aliasFilter with
  | none => cases ctx.cardinality node <;> exact corresponds_of_result_eq rfl same
  | some g =>
      cases ctx.cardinality node with
      | multi =>
          apply corresponds_bind (renamed g rfl _)
          intro tested others _ related
          exact corresponds_pure (kept tested others related
            (fun e => .any (elementName internal) (.path internal) (.eq e (.ofValue value))) own).1
      | single =>
          apply corresponds_bind (under g rfl)
          intro tested others _ related
          exact corresponds_pure (kept tested others related (.eq · (.ofValue value)) own).1
      | unknown =>
          apply corresponds_bind (under g rfl)
          intro tested others _ related
          exact corresponds_pure (kept tested others related (.eq · (.ofValue value)) own).2

theorem leaf_related (same : ∀ c, Related c c) (kept : Kept Related) {own : String} {test : Test}
    {aliasFilter : Option Filter} {marker : Cardinality}
    (under : ∀ g ∈ aliasFilter, Corresponds Related (child g) (other g))
    (renamed : ∀ g ∈ aliasFilter, ∀ name,
      Corresponds Related (child (g.withName name)) (other (g.withName name))) :
    Corresponds Related (compileNode ctx child (.leaf own test aliasFilter marker))
      (plainNode ctx other (.leaf own test aliasFilter marker)) := by
  cases test with
  | compare op value =>
      cases op with
      | equality => exact equality_related same kept under renamed
      | _ => exact corresponds_of_result_eq rfl same
  | _ => exact corresponds_of_result_eq rfl same

theorem and_same {operands : List Filter}
    (parts : ∀ g ∈ operands, Corresponds Eq (child g) (other g)) :
    Corresponds Eq (compileJunction ctx child .and operands)
      (plainJunction other .and operands) := by
  unfold compileJunction plainJunction
  split
  · exact corresponds_fail _
  · apply corresponds_bind (corresponds_each_same operands parts)
    rintro compiled _ _ rfl
    exact corresponds_of_result_eq rfl fun _ => rfl

theorem free_same (levels depth : Nat) (free : FreeOfOr f) :
    Corresponds Eq (compileAt ctx levels depth f) (plainAt ctx levels depth f) := by
  induction levels generalizing depth f with
  | zero => exact corresponds_fail _
  | succ levels ih =>
      apply corresponds_bind_same
      intro node entered
      have parse := (CompileContext.enter_ok_iff _ _ _ _).mp entered
      -- Without RAW text, what is entered is the filter as it is written.
      have written : node = f := by
        cases f with
        | raw text => exact absurd rfl (free _ (.self _)).2
        | _ => exact (Option.some.inj parse).symm
      subst written
      cases node with
      | raw text => exact corresponds_fail _
      | lowercase name => exact corresponds_of_result_eq rfl fun _ => rfl
      | not operand =>
          apply corresponds_bind (ih _ (free.child List.mem_cons_self))
          intro part _ _ same
          exact corresponds_pure (by rw [same])
      | leaf own test aliasFilter marker =>
          have under : ∀ g ∈ aliasFilter, FreeOfOr g := fun g inside =>
            free.child (Option.mem_toList.mpr inside)
          exact leaf_related (fun _ => rfl) kept_eq (fun g inside => ih _ (under g inside))
            fun g inside name => ih _ ((under g inside).withName name)
      | junction op operands =>
          cases op with
          | or => exact absurd rfl (free _ (.self _)).1
          | and => exact @and_same ctx _ _ _ fun g inside => ih _ (free.child inside)

end Nodes

def SameFlag (c d : Compiled Expr) : Prop := c.consistency = d.consistency

theorem kept_flag : Kept SameFlag := by
  intro c d same build own
  constructor
  · rfl
  · simp only [SameFlag] at same ⊢
    rw [same]

theorem same_flags {parts others : List (Compiled Expr)}
    (same : List.Forall₂ SameFlag parts others) :
    Compiled.anyConsistency parts = Compiled.anyConsistency others := by
  induction same with
  | nil => rfl
  | cons here _ ih =>
      simp only [Compiled.anyConsistency, List.any_cons] at ih ⊢
      rw [here, ih]

open FilterQuery.Expr

section Truths

variable [Like.PatternRoom]

def Alike (c d : Compiled Expr) : Prop :=
  c.consistency = d.consistency ∧ ∀ doc scope,
    truth (eval doc scope c.expression) = truth (eval doc scope d.expression)

theorem alike_refl (c : Compiled Expr) : Alike c c := ⟨rfl, fun _ _ => rfl⟩

theorem alike_symm {c d : Compiled Expr} (alike : Alike c d) : Alike d c :=
  ⟨alike.1.symm, fun doc scope => (alike.2 doc scope).symm⟩

theorem alike_trans {c d e : Compiled Expr} (first : Alike c d) (second : Alike d e) : Alike c e :=
  ⟨first.1.trans second.1, fun doc scope => (first.2 doc scope).trans (second.2 doc scope)⟩

theorem alike_not {c d : Compiled Expr} (alike : Alike c d) :
    Alike ⟨.grouped (.not c.expression), c.consistency⟩
      ⟨.grouped (.not d.expression), d.consistency⟩ := by
  constructor
  · exact alike.1
  · intro doc scope
    simp only [eval, truth_negate, alike.2]

theorem alike_flags {parts others : List (Compiled Expr)} (alike : List.Forall₂ Alike parts others) :
    Compiled.anyConsistency parts = Compiled.anyConsistency others :=
  same_flags (alike.imp fun _ _ same => same.1)

theorem alike_truths {parts others : List (Compiled Expr)} (alike : List.Forall₂ Alike parts others)
    (doc : Json) (scope : Scope) :
    (parts.map fun c => truth (eval doc scope c.expression)) =
      others.map fun c => truth (eval doc scope c.expression) := by
  induction alike with
  | nil => rfl
  | cons here _ ih => rw [List.map_cons, List.map_cons, here.2, ih]

theorem joined_truth {op : Junction} {parts : List (Compiled Expr)} {e : Expr}
    (built : (joined op parts).result = .ok e) (doc : Json) (scope : Scope) :
    truth (eval doc scope e) =
      op.verdict (parts.map fun c => truth (eval doc scope c.expression)) := by
  obtain ⟨first, rest, rfl, rfl⟩ := (joined_ok_iff _ _ _).mp built
  rw [eval, truth_join, List.map_cons, List.map_cons, List.map_map]
  rfl

theorem joined_alike {op : Junction} {parts others : List (Compiled Expr)}
    (alike : List.Forall₂ Alike parts others) :
    Compilation.Corresponds (fun e e' => ∀ doc scope,
      truth (eval doc scope e) = truth (eval doc scope e')) (joined op parts) (joined op others) := by
  cases alike with
  | nil => exact Compilation.corresponds_fail _
  | @cons c d cs ds here later =>
      have left := (joined_ok_iff op (c :: cs) _).mpr ⟨c, cs, rfl, rfl⟩
      have right := (joined_ok_iff op (d :: ds) _).mpr ⟨d, ds, rfl, rfl⟩
      apply (Compilation.corresponds_ok_iff left right).mpr
      intro doc scope
      rw [joined_truth left, joined_truth right, alike_truths (.cons here later)]

theorem junction_alike {levels depth : Nat} {op : Junction} {operands : List Filter}
    {other : Filter → Compilation (Compiled Expr)}
    (parts : ∀ g ∈ operands,
      Compilation.Corresponds Alike (compileAt ctx levels depth g) (other g)) :
    Compilation.Corresponds Alike (compileJunction ctx (compileAt ctx levels depth) op operands)
      (plainJunction other op operands) := by
  unfold compileJunction plainJunction
  split
  · exact Compilation.corresponds_fail _
  · apply Compilation.corresponds_bind (Compilation.corresponds_each operands parts)
    intro compiled others done alike
    have compiled_all := (Compilation.each_ok_iff _ _ _).mp done
    split
    · rename_i name values members
      -- The gathered operands were compiled as well, to the comparisons of the membership.
      have same := member_expressions members compiled_all
      have nonempty := member_values_nonempty members
      cases alike with
      | nil => exact absurd (List.map_eq_nil_iff.mp same.symm) nonempty
      | @cons c d cs ds here later =>
          have plain := (joined_ok_iff .or (d :: ds) _).mpr ⟨d, ds, rfl, rfl⟩
          apply (Compilation.corresponds_ok_iff rfl
            ((Compilation.bind_ok_iff _ _ _).mpr ⟨_, plain, rfl⟩)).mpr
          constructor
          · exact alike_flags (.cons here later)
          · intro doc scope
            rw [truth_membership _ _ _ _ nonempty, joined_truth plain,
              ← alike_truths (.cons here later)]
            have truths := congrArg (List.map fun e => truth (eval doc scope e)) same
            rw [List.map_map, List.map_map] at truths
            exact congrArg Junction.or.verdict truths.symm
    · apply Compilation.corresponds_bind (joined_alike alike)
      intro e e' _ same
      exact Compilation.corresponds_pure ⟨alike_flags alike, same⟩

theorem compile_at_alike (levels depth : Nat) (free : AliasesFreeOfOr ctx.parseRaw f) :
    Compilation.Corresponds Alike (compileAt ctx levels depth f) (plainAt ctx levels depth f) := by
  induction levels generalizing depth f with
  | zero => exact Compilation.corresponds_fail _
  | succ levels ih =>
      apply Compilation.corresponds_bind_same
      intro node entered
      have within := free.parsed ((CompileContext.enter_ok_iff _ _ _ _).mp entered)
      cases node with
      | raw text => exact Compilation.corresponds_fail _
      | lowercase name => exact Compilation.corresponds_of_result_eq rfl alike_refl
      | junction op operands => exact junction_alike fun g inside => ih _ (within.child inside)
      | not operand =>
          apply Compilation.corresponds_bind (ih _ (within.child List.mem_cons_self))
          intro part other _ alike
          exact Compilation.corresponds_pure (alike_not alike)
      | leaf own test aliasFilter marker =>
          -- An equality compares the value of its alias, not its truth, so under an alias the two
          -- compilations must be one.
          have under : ∀ g ∈ aliasFilter, FreeOfOr g := fun g inside =>
            within _ (.self _) g inside
          refine Compilation.corresponds_weaken (leaf_related (fun _ => rfl) kept_eq
            (fun g inside => free_same _ _ (under g inside))
            fun g inside name => free_same _ _ ((under g inside).withName name)) ?_
          rintro c _ _ _ rfl
          exact alike_refl c

/-- Memberships are invisible: both compilations fail for one reason, or both succeed with one flag
and with expressions of one truth on every document. -/
theorem membership_invisible (ctx : CompileContext) (f : Filter)
    (free : AliasesFreeOfOr ctx.parseRaw f) :
    Compilation.Corresponds (fun c d => c.consistency = d.consistency ∧ ∀ doc,
      truth (eval doc [] c.expression) = truth (eval doc [] d.expression) ∧
        c.expression.accepts doc = d.expression.accepts doc)
      (compile ctx f) (plainCompile ctx f) := by
  apply Compilation.corresponds_weaken (compile_at_alike ctx.maxDepth 0 free)
  rintro c d _ _ ⟨flags, truths⟩
  refine ⟨flags, fun doc => ⟨truths doc [], ?_⟩⟩
  rw [accepts, accepts, truths doc []]

end Truths

-- An alias is compared as a value, and there a missing membership differs from a null disjunction.
example :
    let either := Filter.or [.equality objectClass (.string "b"), .equality objectClass (.string "c")]
    let f := Filter.not (.leaf "a" (.compare .equality (.int 1)) (some either) .single)
    let accepted (c : Compilation (Compiled Expr)) :=
      c.result.toOption.map (·.expression.accepts (.object []))
    accepted (compile ⟨.empty, id, .none, 4⟩ f) = some false ∧
      accepted (plainCompile ⟨.empty, id, .none, 4⟩ f) = some true := by decide

def noneOfTwoClasses : Filter :=
  .not (.or [.equality objectClass (.string "a"), .equality objectClass (.int 3),
    .equality objectClass (.string "a")])

theorem membership_invisible_under_not :
    ∃ c d, (compile ⟨.empty, id, .none, 4⟩ noneOfTwoClasses).result = .ok c ∧
      c.expression = .grouped (.not
        (membership objectClass [.string "a", .int 3, .string "a"])) ∧
      (plainCompile ⟨.empty, id, .none, 4⟩ noneOfTwoClasses).result = .ok d ∧
      ∀ doc, c.expression.accepts doc = d.expression.accepts doc := by
  have plain : ∀ value, AliasesFreeOfOr .none (.equality objectClass value) := fun value =>
    .of_children (by simp [Filter.kind, Filter.equality, Filter.test, Test.kind, Comparison.kind])
      (by simp [Filter.alias?, Filter.equality, Filter.test])
      (by simp [Filter.children, Filter.equality, Filter.test])
  have free : AliasesFreeOfOr .none noneOfTwoClasses := by
    refine .of_children (by decide) (by simp [noneOfTwoClasses, Filter.alias?]) ?_
    intro g inside
    obtain rfl := List.mem_singleton.mp inside
    refine .of_children (by decide) (by simp [Filter.or, Filter.alias?]) ?_
    simp [Filter.or, Filter.children, plain]
  have alike := membership_invisible ⟨.empty, id, .none, 4⟩ noneOfTwoClasses free
  refine ⟨_, _, rfl, rfl, rfl, fun doc => ?_⟩
  exact (((Compilation.corresponds_ok_iff rfl rfl).mp alike).2 doc).2

end FilterQuery.Document
