import FilterQuery.Proofs.DirectorySteps
import FilterQuery.Proofs.PlainDisjunction

/-!
RAW text compiles as its parse does. In a directory query nothing tells the two apart. In a document
expression an *or* of RAW equalities is joined, while the *or* of their parses may be gathered into
a membership: another expression, of the same truth on every document.
-/
namespace FilterQuery

namespace Filter

mutual
/-- The filter with its RAW text replaced by the parse. Aliases are left as they are, and so is text
that does not parse. -/
def expanded (parse : RawParser) : Filter → Filter
  | .raw text =>
    match parse text with
    | .ok f => f
    | .error _ => .raw text
  | .junction op operands => .junction op (expandedAll parse operands)
  | .not operand => .not (operand.expanded parse)
  | other => other

def expandedAll (parse : RawParser) : List Filter → List Filter
  | [] => []
  | operand :: rest => operand.expanded parse :: expandedAll parse rest
end

mutual
def rawTexts : Filter → List String
  | .raw text => [text]
  | .junction _ operands => rawTextsOfAll operands
  | .not operand => operand.rawTexts
  | _ => []

def rawTextsOfAll : List Filter → List String
  | [] => []
  | operand :: rest => operand.rawTexts ++ rawTextsOfAll rest
end

theorem expanded_all_eq_map (parse : RawParser) (operands : List Filter) :
    expandedAll parse operands = operands.map (expanded parse) := by
  induction operands with
  | nil => rfl
  | cons operand rest ih => rw [expandedAll, ih, List.map_cons]

theorem raw_texts_of_operand {operands : List Filter} {g : Filter} (inside : g ∈ operands) :
    ∀ text ∈ g.rawTexts, text ∈ rawTextsOfAll operands := by
  intro text member
  induction operands with
  | nil => cases inside
  | cons operand rest ih =>
      rw [rawTextsOfAll, List.mem_append]
      rcases List.mem_cons.mp inside with rfl | later
      · exact .inl member
      · exact .inr (ih later)

/-- No RAW text outside aliases parses to RAW text again. -/
def ParsesToProper (parse : RawParser) (f : Filter) : Prop :=
  ∀ text ∈ f.rawTexts, ∀ g, parse text = .ok g → g.kind ≠ .raw

theorem ParsesToProper.operand {parse : RawParser} {op : Junction} {operands : List Filter}
    {g : Filter} (proper : ParsesToProper parse (.junction op operands)) (inside : g ∈ operands) :
    ParsesToProper parse g :=
  fun text member => proper text (raw_texts_of_operand inside text member)

end Filter

open Compilation

variable {ctx : CompileContext} {f node : Filter}

-- The induction is the same for both backends; what differs is how they put operands together.
theorem expanded_corresponds {α : Type} {Related : α → α → Prop} (same : ∀ a, Related a a)
    {compileAt : Nat → Nat → Filter → Compilation α}
    {compileNode : (Filter → Compilation α) → Filter → Compilation α}
    (tooDeep : ∀ depth f g, (compileAt 0 depth f).result = (compileAt 0 depth g).result)
    (entered : ∀ levels depth f node, ctx.parsed? f = some node →
      (compileAt (levels + 1) depth f).result =
        (compileNode (compileAt levels (depth + 1)) node).result)
    (negation : ∀ child g h, Corresponds Related (child g) (child h) →
      Corresponds Related (compileNode child (.not g)) (compileNode child (.not h)))
    (junction : ∀ levels depth op operands change,
      (∀ g ∈ operands,
        Corresponds Related (compileAt levels depth g) (compileAt levels depth (change g))) →
      Corresponds Related (compileNode (compileAt levels depth) (.junction op operands))
        (compileNode (compileAt levels depth) (.junction op (operands.map change))))
    (levels depth : Nat) (proper : f.ParsesToProper ctx.parseRaw) :
    Corresponds Related (compileAt levels depth f)
      (compileAt levels depth (f.expanded ctx.parseRaw)) := by
  induction levels generalizing depth f with
  | zero => exact corresponds_of_result_eq (tooDeep _ _ _) same
  | succ levels ih =>
      cases f with
      | leaf own test aliasFilter marker => exact corresponds_of_result_eq rfl same
      | lowercase name => exact corresponds_of_result_eq rfl same
      | raw text =>
          rw [Filter.expanded]
          cases parse : ctx.parseRaw text with
          | error cause => exact corresponds_of_result_eq rfl same
          | ok g =>
              have parsed := (ctx.parsed_raw_iff text g).mpr parse
              have written := proper text List.mem_cons_self g parse
              apply corresponds_of_result_eq _ same
              rw [entered _ _ _ _ parsed, entered _ _ _ _ (ctx.parsed_self written)]
      | not operand =>
          apply corresponds_congr (entered _ _ _ _ rfl) (entered _ _ _ _ rfl)
          exact negation _ _ _ (ih _ proper)
      | junction op operands =>
          rw [Filter.expanded, Filter.expanded_all_eq_map]
          apply corresponds_congr (entered _ _ _ _ rfl) (entered _ _ _ _ rfl)
          apply junction
          intro g inside
          exact ih _ (proper.operand inside)

namespace Directory

theorem negation_same (child : Filter → Compilation (Compiled DirectoryQuery)) (g h : Filter)
    (same : Corresponds Eq (child g) (child h)) :
    Corresponds Eq (compileNode ctx child (.not g)) (compileNode ctx child (.not h)) := by
  apply corresponds_bind same
  rintro part _ _ rfl
  exact corresponds_pure rfl

theorem junction_same {child : Filter → Compilation (Compiled DirectoryQuery)} (op : Junction)
    (operands : List Filter) (change : Filter → Filter)
    (same : ∀ g ∈ operands, Corresponds Eq (child g) (child (change g))) :
    Corresponds Eq (compileNode ctx child (.junction op operands))
      (compileNode ctx child (.junction op (operands.map change))) := by
  rw [compileNode, compileNode, List.isEmpty_map, each_map]
  split
  · exact corresponds_fail _
  · apply corresponds_bind (corresponds_each_same operands same)
    rintro parts _ _ rfl
    exact corresponds_pure rfl

theorem expanded_same (levels depth : Nat) (proper : f.ParsesToProper ctx.parseRaw) :
    Corresponds Eq (compileAt ctx levels depth f)
      (compileAt ctx levels depth (f.expanded ctx.parseRaw)) :=
  expanded_corresponds (fun _ => rfl) (fun _ _ _ => rfl)
    (fun _ depth _ _ parsed => ctx.enter_bind_result depth parsed _) negation_same
    (fun _ _ => junction_same) levels depth proper

end Directory

namespace Document

theorem plain_junction_map (child : Filter → Compilation (Compiled Expr)) (op : Junction)
    (operands : List Filter) (change : Filter → Filter) :
    plainJunction child op (operands.map change) =
      plainJunction (fun g => child (change g)) op operands := by
  rw [plainJunction, List.isEmpty_map, each_map, plainJunction]

variable [Like.PatternRoom]

theorem negation_alike (child : Filter → Compilation (Compiled Expr)) (g h : Filter)
    (alike : Corresponds Alike (child g) (child h)) :
    Corresponds Alike (compileNode ctx child (.not g)) (compileNode ctx child (.not h)) := by
  apply corresponds_bind alike
  intro part other _ alike
  exact corresponds_pure (alike_not alike)

-- Either side may be gathered where the other is not, so both are compared with the plain junction.
theorem changed_junction_alike (levels depth : Nat) (op : Junction) (operands : List Filter)
    (change : Filter → Filter)
    (alike : ∀ g ∈ operands, Corresponds Alike (compileAt ctx levels depth g)
      (compileAt ctx levels depth (change g))) :
    Corresponds Alike (compileNode ctx (compileAt ctx levels depth) (.junction op operands))
      (compileNode ctx (compileAt ctx levels depth) (.junction op (operands.map change))) := by
  have right : Corresponds Alike
      (compileNode ctx (compileAt ctx levels depth) (.junction op (operands.map change)))
      (plainJunction (compileAt ctx levels depth) op (operands.map change)) :=
    junction_alike fun g _ => corresponds_of_result_eq rfl alike_refl
  rw [plain_junction_map] at right
  refine corresponds_trans ?_ (junction_alike alike) (corresponds_symm ?_ right)
  · exact fun _ _ _ => alike_trans
  · exact fun _ _ => alike_symm

theorem expanded_alike (levels depth : Nat) (proper : f.ParsesToProper ctx.parseRaw) :
    Corresponds Alike (compileAt ctx levels depth f)
      (compileAt ctx levels depth (f.expanded ctx.parseRaw)) :=
  expanded_corresponds alike_refl (fun _ _ _ => rfl)
    (fun _ depth _ _ parsed => ctx.enter_bind_result depth parsed _) negation_alike
    changed_junction_alike levels depth proper

end Document

open FilterQuery.Expr in
/-- RAW text and its parse lead to one directory query, and to document expressions of one flag and
one truth, or both fail for one reason. -/
theorem raw_transparent [Like.PatternRoom] (ctx : CompileContext) (f : Filter)
    (proper : f.ParsesToProper ctx.parseRaw) :
    (Directory.compile ctx f).result = (Directory.compile ctx (f.expanded ctx.parseRaw)).result ∧
      Corresponds (fun c d => c.consistency = d.consistency ∧ ∀ doc,
          truth (eval doc [] c.expression) = truth (eval doc [] d.expression))
        (Document.compile ctx f) (Document.compile ctx (f.expanded ctx.parseRaw)) := by
  constructor
  · exact (corresponds_eq_iff _ _).mp (Directory.expanded_same ctx.maxDepth 0 proper)
  · apply corresponds_weaken (Document.expanded_alike ctx.maxDepth 0 proper)
    rintro c d _ _ ⟨flags, truths⟩
    exact ⟨flags, fun doc => truths doc []⟩

def neitherClass : Filter := .not (.or [.raw "b", .raw "c"])

def classParser : CompileContext :=
  ⟨.empty, id, fun text => .ok (.equality objectClass (.string text)), 4⟩

open Document FilterQuery.Expr in
theorem raw_transparent_under_not :
    ∃ c d, (Document.compile classParser neitherClass).result = .ok c ∧
      c.expression = .grouped (.not (.grouped (.binary
        (.eq (.path objectClass) (.ofValue (.string "b"))) .or
        (.eq (.path objectClass) (.ofValue (.string "c")))))) ∧
      (Document.compile classParser (neitherClass.expanded classParser.parseRaw)).result = .ok d ∧
      d.expression = .grouped (.not (membership objectClass [.string "b", .string "c"])) ∧
      (∀ doc, truth (eval doc [] c.expression) = truth (eval doc [] d.expression)) ∧
      (Directory.compile classParser neitherClass).result =
        (Directory.compile classParser (neitherClass.expanded classParser.parseRaw)).result := by
  have proper : neitherClass.ParsesToProper classParser.parseRaw := by
    rintro text _ _ ⟨⟩
    simp [Filter.equality, Filter.test, Filter.kind, Test.kind, Comparison.kind]
  obtain ⟨directory, document⟩ := raw_transparent classParser neitherClass proper
  refine ⟨_, _, rfl, rfl, rfl, rfl, ?_, directory⟩
  exact ((corresponds_ok_iff rfl rfl).mp document).2

end FilterQuery
