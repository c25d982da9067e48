import FilterQuery.Proofs.DirectoryReader
import FilterQuery.Proofs.DirectorySteps

/-!
The text of a compiled directory query is read as the tree of the filter. Values are escaped, so
that whatever they hold they end where they are meant to; names are written as they are, so they
have to be names that a reader takes. Two things of a filter leave no trace in the text: its aliases
and the empty components of its substring tests.
-/
namespace FilterQuery.Directory

open DirectoryQuery

def asked : Test → String → DirectoryQuery
  | .compare op value, name => .compare op name value.directoryText
  | .presence, name => .presence name
  | .substring components, name => ofComponents name (shown components)

/-- The tree of a filter: RAW text is its parse, a leaf asks about the stored name. -/
inductive TreeOf (ctx : CompileContext) : Filter → DirectoryQuery → Prop where
  | raw {text f q} (parses : ctx.parseRaw text = .ok f) (tree : TreeOf ctx f q) :
      TreeOf ctx (.raw text) q
  | not {operand q} (tree : TreeOf ctx operand q) : TreeOf ctx (.not operand) (.not q)
  | junction {op operands queries} (trees : List.Forall₂ (TreeOf ctx) operands queries) :
      TreeOf ctx (.junction op operands) (.junction op queries)
  | leaf {own test aliasFilter marker name}
      (named : (Filter.leaf own test aliasFilter marker).effectiveName? = some name) :
      TreeOf ctx (.leaf own test aliasFilter marker) (asked test (ctx.resolve name))

theorem visible_question (test : Test) (name : String) :
    (question test name).visible = asked test name := by
  cases test <;> rfl

variable {ctx : CompileContext} {f node : Filter}

theorem tree_parsed_iff (parsed : ctx.parsed? f = some node) (written : node.kind ≠ .raw)
    (q : DirectoryQuery) : TreeOf ctx f q ↔ TreeOf ctx node q := by
  cases f with
  | raw text =>
      have parse := (ctx.parsed_raw_iff text node).mp parsed
      constructor
      · intro tree
        cases tree with
        | raw parses tree =>
            rw [parse] at parses
            cases parses
            exact tree
      · exact .raw parse
  | _ => cases parsed; rfl

theorem trees_unique {operands : List Filter} {compiled : List (Compiled DirectoryQuery)}
    (each : List.Forall₂
      (fun g d => ∀ q, TreeOf ctx g q ↔ q = d.expression.visible) operands compiled)
    (queries : List DirectoryQuery) :
    List.Forall₂ (TreeOf ctx) operands queries ↔
      queries = compiled.map (·.expression.visible) := by
  induction each generalizing queries with
  | nil => simp
  | cons here _ ih =>
      constructor
      · rintro (_ | ⟨tree, later⟩)
        rw [List.map_cons, (here _).mp tree, (ih _).mp later]
      · rintro rfl
        exact .cons ((here _).mpr rfl) ((ih _).mpr rfl)

theorem tree_step {child : Filter → Compiled DirectoryQuery → Prop}
    (trees : ∀ g d, child g d → ∀ q, TreeOf ctx g q ↔ q = d.expression.visible)
    {c : Compiled DirectoryQuery} (step : Step ctx child node c) (q : DirectoryQuery) :
    TreeOf ctx node q ↔ q = c.expression.visible := by
  cases step with
  | not done =>
      constructor
      · intro tree
        cases tree with
        | not inner => rw [visible, (trees _ _ done _).mp inner]
      · rintro rfl
        exact .not ((trees _ _ done _).mpr rfl)
  | junction some done =>
      have each := done.imp trees
      constructor
      · intro tree
        cases tree with
        | junction all =>
            rw [visible, visible_all_eq_map, (trees_unique each _).mp all, List.map_map]
            rfl
      · rintro rfl
        rw [visible, visible_all_eq_map, List.map_map]
        exact .junction ((trees_unique each _).mpr rfl)
  | leaf leaf named =>
      subst leaf
      rw [visible_question]
      constructor
      · intro tree
        cases tree with
        | leaf found => rw [Option.some.inj (named.symm.trans found)]
      · rintro rfl
        exact .leaf named

theorem tree_compile_at {levels depth : Nat} {c : Compiled DirectoryQuery}
    (compiled : (compileAt ctx levels depth f).result = .ok c) (q : DirectoryQuery) :
    TreeOf ctx f q ↔ q = c.expression.visible := by
  induction levels generalizing depth f c q with
  | zero => simp [compileAt] at compiled
  | succ levels ih =>
      obtain ⟨left, node, same, parsed, step⟩ := compile_at_step compiled
      cases same
      rw [tree_parsed_iff parsed step.not_raw]
      exact tree_step (fun g d done q => ih done q) step q

section Leaves

variable {holds : Test → String → Prop}

def EachLeaf (holds : Test → String → Prop) (ctx : CompileContext) (f : Filter) : Prop :=
  ∀ own test aliasFilter marker name,
    f.Reaches ctx.parsed? Filter.HasOperand (.leaf own test aliasFilter marker) →
      (Filter.leaf own test aliasFilter marker).effectiveName? = some name →
        holds test (ctx.resolve name)

theorem each_leaf_iff {own name : String} {test : Test} {aliasFilter : Option Filter}
    {marker : Cardinality} (parsed : ctx.parsed? f = some (.leaf own test aliasFilter marker))
    (named : (Filter.leaf own test aliasFilter marker).effectiveName? = some name) :
    EachLeaf holds ctx f ↔ holds test (ctx.resolve name) := by
  constructor
  · intro each
    exact each own test aliasFilter marker name (.self parsed) named
  · intro here _ _ _ _ other reached found
    rcases (Filter.reaches_iff parsed _).mp reached with same | ⟨_, next, _⟩
    · cases same
      cases named.symm.trans found
      exact here
    · cases next

theorem each_leaf_compound_iff (parsed : ctx.parsed? f = some node) (nameless : node.name? = none) :
    EachLeaf holds ctx f ↔ ∀ g ∈ node.operands, EachLeaf holds ctx g := by
  constructor
  · intro each g operand own test aliasFilter marker name reached
    exact each own test aliasFilter marker name (.through parsed operand reached)
  · intro each own test aliasFilter marker name reached
    rcases (Filter.reaches_iff parsed _).mp reached with rfl | ⟨g, operand, later⟩
    · cases nameless
    · exact each g operand own test aliasFilter marker name later

end Leaves

/-- Every leaf that the operands of a filter lead to has a stored name that the reader takes. -/
def NamesDescribed (accepts : String → Bool) (ctx : CompileContext) (f : Filter) : Prop :=
  ∀ own test aliasFilter marker name,
    f.Reaches ctx.parsed? Filter.HasOperand (.leaf own test aliasFilter marker) →
      (Filter.leaf own test aliasFilter marker).effectiveName? = some name →
        Described accepts (ctx.resolve name)

variable {accepts : String → Bool}

theorem readable_question {test : Test} {name : String} (named : Described accepts name) :
    Readable accepts (question test name) := by
  cases test with
  | compare op value => exact .compare named
  | presence => exact .presence named
  | substring components => exact .substring named

theorem readable_compile_at {levels depth : Nat} {c : Compiled DirectoryQuery}
    (compiled : (compileAt ctx levels depth f).result = .ok c)
    (described : NamesDescribed accepts ctx f) : Readable accepts c.expression := by
  induction levels generalizing depth f c with
  | zero => simp [compileAt] at compiled
  | succ levels ih =>
      obtain ⟨left, node, same, parsed, step⟩ := compile_at_step compiled
      cases same
      have operand : ∀ g, node.HasOperand g → NamesDescribed accepts ctx g := by
        intro g inside own test aliasFilter marker name reached
        exact described own test aliasFilter marker name (.through parsed inside reached)
      cases step with
      | not done => exact .not (ih done (operand _ (List.mem_singleton.mpr rfl)))
      | @junction op operands parts some done =>
          refine .junction (expressions_nonempty some done) fun q member => ?_
          obtain ⟨d, inside, rfl⟩ := List.mem_map.mp member
          obtain ⟨g, part, compiled⟩ := Compilation.exists_related done.flip d inside
          exact ih compiled (operand g part)
      | leaf leaf named =>
          subst leaf
          exact readable_question (described _ _ _ _ _ (.self parsed) named)

/-- The reader finds the tree of the filter in the text, and a filter has no second tree. -/
theorem text_reads_back {c : Compiled DirectoryQuery} (compiled : (compile ctx f).result = .ok c)
    (described : NamesDescribed accepts ctx f) :
    ∃ q, read? accepts c.expression.text = some q ∧ ∀ tree, TreeOf ctx f tree ↔ tree = q := by
  have read := read_text (readable_compile_at compiled described)
  exact ⟨_, read, tree_compile_at compiled⟩

theorem NamesDescribed.leaf {own name : String} {test : Test} {aliasFilter : Option Filter}
    {marker : Cardinality} (parsed : ctx.parsed? f = some (.leaf own test aliasFilter marker))
    (named : (Filter.leaf own test aliasFilter marker).effectiveName? = some name)
    (described : Described accepts (ctx.resolve name)) : NamesDescribed accepts ctx f :=
  (each_leaf_iff parsed named).mpr described

theorem NamesDescribed.compound (parsed : ctx.parsed? f = some node) (nameless : node.name? = none)
    (operands : ∀ g ∈ node.operands, NamesDescribed accepts ctx g) :
    NamesDescribed accepts ctx f :=
  (each_leaf_compound_iff parsed nameless).mpr operands

def delimiters : Filter :=
  .and [.equality "cn" (.string "*)(\\\x00"), .not (.raw "any"),
    .leaf "" (.substring ⟨some "", ["", "a*"], none⟩) (some (.presence "sn;lang-en")) .unknown]

def emptySubstring : CompileContext :=
  ⟨.empty, id, fun _ => .ok (.test "2.5.4.4" (.substring ⟨some "", [""], none⟩)), 4⟩

def startsAlphanumeric (name : String) : Bool := name.toList.head?.any Char.isAlphanum

theorem delimiters_read_back :
    ∃ c, (compile emptySubstring delimiters).result = .ok c ∧
      c.expression.text = "(&(cn=\\2a\\29\\28\\5c\\00)(!(2.5.4.4=*))(sn;lang-en=*a\\2a*))" ∧
      read? startsAlphanumeric c.expression.text = some (.junction .and
        [.compare .equality "cn" "*)(\\\x00", .not (.presence "2.5.4.4"),
          .substring "sn;lang-en" ⟨none, ["a*"], none⟩]) := by
  have cn : Described startsAlphanumeric "cn" := ⟨by decide, by decide, by decide⟩
  have oid : Described startsAlphanumeric "2.5.4.4" := ⟨by decide, by decide, by decide⟩
  have sn : Described startsAlphanumeric "sn;lang-en" := ⟨by decide, by decide, by decide⟩
  have described : NamesDescribed startsAlphanumeric emptySubstring delimiters := by
    refine .compound rfl rfl (List.forall_mem_cons.mpr ⟨.leaf rfl rfl cn, ?_⟩)
    refine List.forall_mem_cons.mpr ⟨?_, List.forall_mem_singleton.mpr (.leaf rfl rfl sn)⟩
    exact .compound rfl rfl (List.forall_mem_singleton.mpr (.leaf rfl rfl oid))
  obtain ⟨c, compiled, written, shape⟩ :
      ∃ c, (compile emptySubstring delimiters).result = .ok c ∧
        c.expression.text =
          "(&(cn=\\2a\\29\\28\\5c\\00)(!(2.5.4.4=*))(sn;lang-en=*a\\2a*))" ∧
        c.expression.visible = .junction .and
          [.compare .equality "cn" "*)(\\\x00", .not (.presence "2.5.4.4"),
            .substring "sn;lang-en" ⟨none, ["a*"], none⟩] :=
    ⟨_, rfl, by rfl, by rfl⟩
  obtain ⟨q, read, unique⟩ := text_reads_back compiled described
  have same : q = c.expression.visible :=
    ((unique _).mp ((tree_compile_at compiled _).mpr rfl)).symm
  exact ⟨c, compiled, written, by rw [read, same, shape]⟩

end FilterQuery.Directory
