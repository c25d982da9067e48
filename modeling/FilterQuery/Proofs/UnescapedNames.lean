import FilterQuery.Proofs.DirectoryReadBack
import FilterQuery.Proofs.QuerySkeleton

/-!
What the names in a filter do to the structure of its directory query. They come from whoever wrote
the filter or from a resolver, and unlike values they are not escaped. The text of the query still
has the structure of the filter if each leaf by itself is written as a test; a leaf that is not
spoils the text, or lets it ask more questions than the filter has.
-/
namespace FilterQuery

open DirectoryQuery

namespace DirectoryQuery

theorem reserved_bracket : ∀ {c : Char}, c ∈ brackets → c ∈ reserved := by
  simp [brackets, reserved]

theorem Unbracketed.append {front back : List Char} (first : Unbracketed front)
    (second : Unbracketed back) : Unbracketed (front ++ back) :=
  List.forall_mem_append.mpr ⟨first, second⟩

theorem Unbracketed.cons {c : Char} {cs : List Char} (here : c ∉ brackets)
    (later : Unbracketed cs) : Unbracketed (c :: cs) :=
  List.forall_mem_cons.mpr ⟨here, later⟩

theorem digit_unbracketed {c : Char} {digit : Nat} (read : Json.hexValue? c = some digit) :
    c ∉ brackets := by
  simp only [brackets, List.mem_cons, List.not_mem_nil, or_false]
  rintro (rfl | rfl) <;> cases read

theorem octets_unbracketed {cs : List Char} {octets : List UInt8}
    (read : readOctets cs = some octets) : Unbracketed cs := by
  induction cs using readOctets.induct generalizing octets with
  | case1 => simp [Unbracketed]
  | case2 high low cs ih =>
      simp only [readOctets, Option.bind_eq_bind, Option.bind_eq_some_iff] at read
      obtain ⟨_, first, _, second, _, later, _⟩ := read
      exact .cons (by decide)
        (.cons (digit_unbracketed first) (.cons (digit_unbracketed second) (ih later)))
  | case3 c cs other special =>
      rw [readOctets, if_pos special] at read
      · cases read
      · exact other
  | case4 c cs other plain ih =>
      rw [readOctets, if_neg plain] at read
      · obtain ⟨_, later, _⟩ := Option.map_eq_some_iff.mp read
        exact .cons (fun bracket => plain (reserved_bracket bracket)) (ih later)
      · exact other

theorem value_unbracketed {cs : List Char} {value : String} (read : readValue cs = some value) :
    Unbracketed cs := by
  obtain ⟨_, octets, _⟩ := Option.bind_eq_some_iff.mp read
  exact octets_unbracketed octets

theorem end_unbracketed {cs : List Char} {component : Option String}
    (read : readEnd cs = some component) : Unbracketed cs := by
  unfold readEnd at read
  split at read
  · subst cs
    exact List.forall_mem_nil _
  · obtain ⟨_, value, _⟩ := Option.map_eq_some_iff.mp read
    exact value_unbracketed value

theorem inner_unbracketed {cs : List Char} {component : String}
    (read : readInner cs = some component) : Unbracketed cs := by
  unfold readInner at read
  split at read
  · cases read
  · exact value_unbracketed read

theorem inners_unbracketed {pieces : List (List Char)} {parts : List String}
    (read : pieces.mapM readInner = some parts) : ∀ piece ∈ pieces, Unbracketed piece := by
  induction pieces generalizing parts with
  | nil => exact List.forall_mem_nil _
  | cons piece rest ih =>
      simp only [List.mapM_cons, Option.bind_eq_bind, Option.bind_eq_some_iff] at read
      obtain ⟨_, here, _, later, _⟩ := read
      exact List.forall_mem_cons.mpr ⟨inner_unbracketed here, ih later⟩

theorem stars_unbracketed {pieces : List (List Char)}
    (each : ∀ piece ∈ pieces, Unbracketed piece) : Unbracketed (['*'].intercalate pieces) := by
  induction pieces with
  | nil => exact List.forall_mem_nil _
  | cons piece rest ih =>
      obtain ⟨here, later⟩ := List.forall_mem_cons.mp each
      cases rest with
      | nil => simpa using here
      | cons next rest =>
          rw [List.intercalate_cons_cons, List.append_assoc]
          exact here.append (.cons (by decide) (ih later))

theorem equal_unbracketed {name : String} {cs : List Char} {test : DirectoryQuery}
    (read : readEqual name cs = some test) : Unbracketed cs := by
  have whole : ['*'].intercalate (cs.splitOn '*') = cs := List.intercalate_splitOn '*'
  rw [← whole]
  apply stars_unbracketed
  unfold readEqual at read
  split at read
  · cases read
  · rename_i value one
    obtain ⟨_, found, _⟩ := Option.map_eq_some_iff.mp read
    rw [one]
    exact List.forall_mem_singleton.mpr (value_unbracketed found)
  · rename_i initial rest several many
    simp only [Option.bind_eq_bind, Option.bind_eq_some_iff] at read
    obtain ⟨_, first, _, between, _, last, _⟩ := read
    obtain rfl | ⟨inner, final, rfl⟩ := List.eq_nil_or_concat rest
    · exact (several rfl).elim
    · rw [List.concat_eq_append] at between last many
      rw [List.dropLast_concat] at between
      rw [List.getLastD_concat] at last
      rw [many]
      refine List.forall_mem_cons.mpr ⟨end_unbracketed first, List.forall_mem_append.mpr ?_⟩
      exact ⟨inners_unbracketed between, List.forall_mem_singleton.mpr (end_unbracketed last)⟩

theorem operation_unbracketed {name : String} {cs : List Char} {test : DirectoryQuery}
    (read : readOperation name cs = some test) : Unbracketed cs := by
  unfold readOperation at read
  split at read
  · exact .cons (by decide) (equal_unbracketed read)
  · obtain ⟨_, value, _⟩ := Option.map_eq_some_iff.mp read
    exact .cons (by decide) (.cons (by decide) (value_unbracketed value))
  · obtain ⟨_, value, _⟩ := Option.map_eq_some_iff.mp read
    exact .cons (by decide) (.cons (by decide) (value_unbracketed value))
  · obtain ⟨_, value, _⟩ := Option.map_eq_some_iff.mp read
    exact .cons (by decide) (.cons (by decide) (value_unbracketed value))
  · cases read

theorem name_char_unbracketed {c : Char} (named : isNameChar c) : c ∉ brackets := by
  simp only [brackets, List.mem_cons, List.not_mem_nil, or_false]
  rintro (rfl | rfl) <;> exact absurd named (by decide)

theorem test_unbracketed {accepts : String → Bool} {cs : List Char} {test : DirectoryQuery}
    (read : readTest accepts cs = some test) : Unbracketed cs := by
  rw [← List.takeWhile_append_dropWhile (p := isNameChar) (l := cs)]
  rw [readTest] at read
  split at read
  · cases read
  · refine .append ?_ (operation_unbracketed read)
    intro c inside
    exact name_char_unbracketed (List.all_eq_true.mp List.all_takeWhile c inside)

def testsNamed (accepts : String → Bool) : TestSyntax where
  isTest body := (readTest accepts body).isSome
  unbracketed _ taken := test_unbracketed (Option.some_get taken).symm

end DirectoryQuery

namespace DirectoryQuery

theorem shown_text (component : Option String) :
    (component.filter (· ≠ "")).getD "" = component.getD "" := by
  rcases component with _ | text
  · rfl
  · by_cases empty : text = "" <;> simp [Option.filter, empty]

theorem components_shown (c : Components) : writeComponents (shown c) = writeComponents c := by
  simp only [writeComponents, shown, shown_text, List.filter_filter, Bool.and_self]

theorem skeleton_of_components (name : String) (c : Components) :
    (ofComponents name c).skeleton = .test (name.toList ++ '=' :: writeComponents c) := by
  unfold ofComponents
  split
  · subst c
    rfl
  · rfl

mutual
theorem skeleton_visible (q : DirectoryQuery) : q.visible.skeleton = q.skeleton := by
  cases q with
  | compare op name value => rfl
  | presence name => rfl
  | substring name c => rw [visible, skeleton_of_components, components_shown, skeleton]
  | junction op operands => rw [visible, skeleton, skeletons_visible operands, skeleton]
  | not operand => rw [visible, skeleton, skeleton_visible operand, skeleton]

theorem skeletons_visible (queries : List DirectoryQuery) :
    skeletons (visibleAll queries) = skeletons queries := by
  cases queries with
  | nil => rfl
  | cons q rest =>
      rw [visibleAll, skeletons, skeleton_visible q, skeletons_visible rest, skeletons]
end

end DirectoryQuery

namespace Directory

variable {ctx : CompileContext} {f node : Filter} {isTest : List Char → Prop}

theorem skeleton_question (test : Test) (name : String) :
    ∃ body, (question test name).skeleton = .test body := by
  cases test <;> exact ⟨_, rfl⟩

def LeafBuilt (isTest : List Char → Prop) (test : Test) (name : String) : Prop :=
  (question test name).skeleton.Built isTest

theorem each_built {operands : List Filter} {compiled : List (Compiled DirectoryQuery)}
    (each : List.Forall₂ (fun g d =>
      EachLeaf (LeafBuilt isTest) ctx g ↔ d.expression.skeleton.Built isTest) operands compiled) :
    (∀ g ∈ operands, EachLeaf (LeafBuilt isTest) ctx g) ↔
      ∀ d ∈ compiled, d.expression.skeleton.Built isTest := by
  induction each with
  | nil => simp
  | cons here _ ih => simp only [List.forall_mem_cons, here, ih]

theorem built_step {child : Filter → Compiled DirectoryQuery → Prop}
    (parts : ∀ g d, child g d →
      (EachLeaf (LeafBuilt isTest) ctx g ↔ d.expression.skeleton.Built isTest))
    (parsed : ctx.parsed? f = some node) {c : Compiled DirectoryQuery}
    (step : Step ctx child node c) :
    EachLeaf (LeafBuilt isTest) ctx f ↔ c.expression.skeleton.Built isTest := by
  cases step with
  | @not operand d done =>
      rw [each_leaf_compound_iff parsed rfl]
      constructor
      · intro each
        exact .not ((parts _ _ done).mp (each operand (List.mem_singleton_self _)))
      · intro built
        cases built with
        | not inner => exact List.forall_mem_singleton.mpr ((parts _ _ done).mpr inner)
  | @junction op operands compiled some done =>
      have each : (∀ g ∈ (Filter.junction op operands).operands,
          EachLeaf (LeafBuilt isTest) ctx g) ↔ _ := each_built (done.imp parts)
      rw [each_leaf_compound_iff parsed rfl, each, skeleton, skeletons_eq_map]
      constructor
      · intro all
        refine .junction ?_ (by simpa using all)
        simpa using expressions_nonempty some done
      · intro built
        cases built with
        | junction _ all => simpa using all
  | leaf leaf named =>
      subst leaf
      exact each_leaf_iff parsed named

theorem built_compile_at {levels depth : Nat} {c : Compiled DirectoryQuery}
    (compiled : (compileAt ctx levels depth f).result = .ok c) :
    EachLeaf (LeafBuilt isTest) ctx f ↔ c.expression.skeleton.Built isTest := by
  induction levels generalizing depth f c with
  | zero => simp [compileAt] at compiled
  | succ levels ih =>
      obtain ⟨left, node, same, parsed, step⟩ := compile_at_step compiled
      cases same
      exact built_step (fun g d done => ih done) parsed step

def LegibleLeaf (tests : TestSyntax) (test : Test) (name : String) : Prop :=
  ∃ body, tests.Splits (question test name).text (.test body)

theorem leaf_legible_iff (tests : TestSyntax) (test : Test) (name : String) :
    LegibleLeaf tests test name ↔ LeafBuilt tests.isTest test name := by
  obtain ⟨body, shape⟩ := skeleton_question test name
  have written : (question test name).text.toList = (Skeleton.test body).write := by
    rw [text, String.toList_ofList, ← write_skeleton, shape]
  rw [LegibleLeaf, LeafBuilt, shape]
  constructor
  · rintro ⟨other, same, built⟩
    rw [written, Skeleton.write, Skeleton.write] at same
    rwa [List.append_cancel_right (List.cons.inj same).2] at built
  · intro built
    exact ⟨body, written.symm, built⟩

/-- A reader finds the structure of the filter in the text exactly if each leaf by itself is one of
its tests. Otherwise the text is unreadable, or it is read with another number of nodes. -/
theorem names_keep_structure_iff (tests : TestSyntax) {c : Compiled DirectoryQuery}
    (compiled : (compile ctx f).result = .ok c) :
    ∃ tree, (∀ t, TreeOf ctx f t ↔ t = tree) ∧ List.TFAE
      [EachLeaf (LegibleLeaf tests) ctx f,
       ∀ s, tests.Splits c.expression.text s ↔ s = tree.skeleton,
       ∃ s, tests.Splits c.expression.text s ∧ s.size = tree.skeleton.size] := by
  refine ⟨_, tree_compile_at compiled, ?_⟩
  have leaves : EachLeaf (LegibleLeaf tests) ctx f ↔
      c.expression.skeleton.Built tests.isTest := by
    simp only [EachLeaf, leaf_legible_iff]
    exact built_compile_at compiled
  have shape : c.expression.skeleton.Built (fun _ => True) := by
    refine (built_compile_at compiled).mp fun _ test _ _ _ _ _ => ?_
    obtain ⟨body, same⟩ := skeleton_question test _
    rw [LeafBuilt, same]
    exact .test trivial
  rw [leaves, skeleton_visible]
  exact splits_tfae shape

def equalsSign : Filter :=
  .and [.equality "a=b" (.string "x"), .not (.leaf "" .presence (some (.lowercase "cn")) .unknown)]

def namesAsWritten : CompileContext := ⟨.empty, id, .none, 4⟩

-- The reader takes the second equals sign for a part of the value.
theorem equals_sign_keeps_structure :
    ∃ c tree, (compile namesAsWritten equalsSign).result = .ok c ∧
      c.expression.text = "(&(a=b=x)(!(cn=*)))" ∧ TreeOf namesAsWritten equalsSign tree ∧
      ∀ s, (testsNamed startsAlphanumeric).Splits c.expression.text s ↔ s = tree.skeleton := by
  have one : LegibleLeaf (testsNamed startsAlphanumeric)
      (.compare .equality (.string "x")) "a=b" := ⟨"a=b=x".toList, by rfl, .test (by rfl)⟩
  have two : LegibleLeaf (testsNamed startsAlphanumeric) .presence "cn" :=
    ⟨"cn=*".toList, by rfl, .test (by rfl)⟩
  have legible : EachLeaf (LegibleLeaf (testsNamed startsAlphanumeric)) namesAsWritten
      equalsSign := by
    refine (each_leaf_compound_iff rfl rfl).mpr (List.forall_mem_cons.mpr ⟨?_, ?_⟩)
    · exact (each_leaf_iff rfl rfl).mpr one
    · refine List.forall_mem_singleton.mpr ((each_leaf_compound_iff rfl rfl).mpr ?_)
      exact List.forall_mem_singleton.mpr ((each_leaf_iff rfl rfl).mpr two)
  obtain ⟨c, compiled, written⟩ : ∃ c, (compile namesAsWritten equalsSign).result = .ok c ∧
      c.expression.text = "(&(a=b=x)(!(cn=*)))" := ⟨_, rfl, by rfl⟩
  obtain ⟨tree, unique, same⟩ :=
    names_keep_structure_iff (testsNamed startsAlphanumeric) compiled
  exact ⟨c, tree, compiled, written, (unique tree).mpr rfl, (same.out 0 1).mp legible⟩

def bracketsInName : Filter := .or [.equality "cn=*)(uid" (.string "x")]

/-- One leaf is read as two, and not by any reader as the one that it is. -/
theorem brackets_in_name_widen :
    ∃ c, (compile namesAsWritten bracketsInName).result = .ok c ∧
      c.expression.text = "(|(cn=*)(uid=x))" ∧
      read? startsAlphanumeric c.expression.text =
        some (.junction .or [.presence "cn", .compare .equality "uid" "x"]) ∧
      ∃ tree, TreeOf namesAsWritten bracketsInName tree ∧
        tree = .junction .or [.compare .equality "cn=*)(uid" "x"] ∧
        ∀ tests : TestSyntax, ¬ tests.Splits c.expression.text tree.skeleton := by
  refine ⟨_, rfl, by rfl, by rfl, _, .junction (.cons (.leaf rfl) .nil), by rfl, ?_⟩
  rintro tests ⟨_, built⟩
  cases built with
  | junction _ all =>
      cases all _ List.mem_cons_self with
      | test taken => exact tests.unbracketed _ taken '(' (by decide) (by decide)

end Directory
end FilterQuery
