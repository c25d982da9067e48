import FilterQuery.Directory.Text
import FilterQuery.Filter.Raw
import FilterQuery.Proofs.DepthLimit
import FilterQuery.Proofs.DirectoryReader
import FilterQuery.Proofs.DirectorySteps
import FilterQuery.Proofs.Membership

/-!
RAW text that comes through as it was written. The simple parser takes assertions `(name=value)`
and nothing else, and what it reads is written in the same characters again unless the value has
some that a query must escape. So junctions and negations of such text are compiled to the texts
themselves, put together.
-/
namespace FilterQuery

namespace RawParser

-- A name that went on past the first equals sign would have that sign in it.
theorem split_assertion_iff (cs name value : List Char) :
    splitAssertion cs = some (name, value) ↔ cs = name ++ '=' :: value ∧ '=' ∉ name := by
  fun_induction splitAssertion cs generalizing name with
  | case1 => simp
  | case2 rest =>
      cases name with
      | nil => simp
      | cons first others =>
          simp only [Option.some.injEq, Prod.mk.injEq, List.cons_append, List.cons.injEq,
            List.mem_cons]
          constructor
          · rintro ⟨⟨⟩, _⟩
          · rintro ⟨⟨rfl, _⟩, free⟩
            exact absurd (.inl rfl) free
  | case3 c rest other ih =>
      rw [Option.map_eq_some_iff]
      constructor
      · rintro ⟨⟨before, behind⟩, split, same⟩
        obtain ⟨rfl, rfl⟩ := Prod.mk.inj same
        obtain ⟨rfl, free⟩ := (ih before).mp split
        refine ⟨rfl, ?_⟩
        rintro (_ | ⟨_, inside⟩)
        · exact other rfl
        · exact free inside
      · rintro ⟨written, free⟩
        cases name with
        | nil => exact absurd (List.cons.inj written).1 other
        | cons first others =>
            obtain ⟨rfl, rest⟩ := List.cons.inj written
            have split := (ih others).mpr ⟨rest, fun inside => free (.tail c inside)⟩
            exact ⟨(others, value), split, rfl⟩

theorem unwrap_iff (cs body : List Char) :
    unwrap? cs = some body ↔ cs = '(' :: (body ++ [')']) := by
  fun_cases unwrap? cs with
  | case1 rest closed =>
      obtain ⟨inner, rfl⟩ := List.getLast?_eq_some_iff.mp closed
      rw [List.dropLast_concat, Option.some.injEq, List.cons.injEq, List.append_left_inj]
      exact ⟨fun same => ⟨rfl, same⟩, And.right⟩
  | case2 rest unclosed =>
      refine ⟨nofun, fun written => ?_⟩
      obtain ⟨_, rfl⟩ := List.cons.inj written
      exact absurd List.getLast?_concat unclosed
  | case3 cs unopened =>
      exact ⟨nofun, fun written => absurd written (unopened _)⟩

/-- The text is a name and a value in parentheses, apart at the first equals sign. -/
structure Asserts (text name value : String) : Prop where
  written : text = "(" ++ name ++ "=" ++ value ++ ")"
  named : name ≠ ""
  first : '=' ∉ name.toList

def asserted (name value : String) : Filter :=
  if value = "*" then .presence name else .equality name (.string value)

theorem asserted_of_chars {name value : List Char} :
    asserted (String.ofList name) (String.ofList value) =
      if value = ['*'] then .presence (String.ofList name)
      else .equality (String.ofList name) (.string (String.ofList value)) := by
  have star : "*" = String.ofList ['*'] := rfl
  simp only [asserted, star, String.ofList_inj]

theorem assertion_iff (cs : List Char) (f : Filter) :
    assertion? cs = some f ↔ ∃ name value, (unwrap? cs).bind splitAssertion = some (name, value) ∧
      name ≠ [] ∧ f = asserted (String.ofList name) (String.ofList value) := by
  unfold assertion?
  rcases (unwrap? cs).bind splitAssertion with _ | ⟨name, value⟩
  · simp
  · cases name with
    | nil => simp
    | cons c others =>
        by_cases star : value = ['*']
        · simp [star, asserted_of_chars, eq_comm]
        · simp [star, asserted_of_chars, eq_comm]

theorem body_iff (cs name value : List Char) :
    (unwrap? cs).bind splitAssertion = some (name, value) ↔
      cs = '(' :: (name ++ '=' :: value ++ [')']) ∧ '=' ∉ name := by
  simp only [Option.bind_eq_some_iff, unwrap_iff, split_assertion_iff]
  constructor
  · rintro ⟨body, rfl, rfl, first⟩
    exact ⟨rfl, first⟩
  · rintro ⟨rfl, first⟩
    exact ⟨name ++ '=' :: value, rfl, rfl, first⟩

theorem asserts_iff (text name value : String) :
    Asserts text name value ↔
      (unwrap? text.toList).bind splitAssertion = some (name.toList, value.toList) ∧
        name.toList ≠ [] := by
  rw [body_iff]
  constructor
  · rintro ⟨rfl, named, first⟩
    exact ⟨⟨by simp, first⟩, by simpa using named⟩
  · rintro ⟨⟨written, first⟩, named⟩
    exact ⟨String.toList_inj.mp (by simpa using written), by simpa using named, first⟩

theorem simple_iff (text : String) (f : Filter) :
    simple text = .ok f ↔ ∃ name value, Asserts text name value ∧ f = asserted name value := by
  have read : simple text = .ok f ↔ assertion? text.toList = some f := by
    unfold simple
    cases assertion? text.toList <;> simp
  rw [read, assertion_iff]
  simp only [asserts_iff]
  constructor
  · rintro ⟨name, value, split, named, rfl⟩
    exact ⟨.ofList name, .ofList value, by simpa using ⟨split, named⟩, rfl⟩
  · rintro ⟨name, value, ⟨split, named⟩, rfl⟩
    exact ⟨name.toList, value.toList, split, named, by simp⟩

end RawParser

/-- A value that means the same unescaped: a lone star, or none of what a query reserves. -/
def PlainValue (value : String) : Prop :=
  value = "*" ∨ ∀ c ∈ DirectoryQuery.reserved, c ∉ value.toList

namespace DirectoryQuery

theorem escape_char_plain {c : Char} (plain : c ∉ reserved) : escapeChar c = [c] := by
  simp only [reserved, List.mem_cons, List.not_mem_nil, or_false, not_or] at plain
  obtain ⟨star, opening, closing, backslash, null⟩ := plain
  rw [escapeChar, if_neg star, if_neg opening, if_neg closing, if_neg backslash, if_neg null]

theorem escape_unreserved {text : String} (plain : ∀ c ∈ reserved, c ∉ text.toList) :
    escape text = text.toList := by
  calc escape text = text.toList.flatMap fun c => [c] :=
        List.flatMap_congr fun c inside => escape_char_plain fun special => plain c special inside
    _ = text.toList := List.flatMap_singleton' _

end DirectoryQuery

namespace Filter

mutual
def rawJoined : Filter → String
  | .raw text => text
  | .junction .and operands => "(&" ++ rawJoinedAll operands ++ ")"
  | .junction .or operands => "(|" ++ rawJoinedAll operands ++ ")"
  | .not operand => "(!" ++ operand.rawJoined ++ ")"
  | _ => ""

def rawJoinedAll : List Filter → String
  | [] => ""
  | operand :: rest => operand.rawJoined ++ rawJoinedAll rest
end

/-- Junctions of something and negations down to RAW text with assertions of plain values. -/
inductive OfPlainRaw : Filter → Prop where
  | raw {text : String} (name value : String) (asserts : RawParser.Asserts text name value)
      (plain : PlainValue value) : OfPlainRaw (.raw text)
  | junction {op : Junction} {operands : List Filter} (nonempty : operands ≠ [])
      (each : ∀ g ∈ operands, OfPlainRaw g) : OfPlainRaw (.junction op operands)
  | not {operand : Filter} (inner : OfPlainRaw operand) : OfPlainRaw (.not operand)

end Filter

namespace Directory

def plainContext (schema : Schema) (maxDepth : Nat) : CompileContext :=
  ⟨schema, .identity, RawParser.simple, maxDepth⟩

variable {schema : Schema} {maxDepth : Nat} {ctx : CompileContext} {f : Filter}

def Writes (text : String) (c : Compiled DirectoryQuery) : Prop :=
  c.expression.write = text.toList

theorem asserted_written {text name value : String} (asserts : RawParser.Asserts text name value)
    (plain : PlainValue value) :
    ∃ test, RawParser.asserted name value = .test name test ∧
      (question test name).write = text.toList := by
  obtain ⟨rfl, _, _⟩ := asserts
  rw [RawParser.asserted]
  split
  · rename_i star
    subst star
    exact ⟨.presence, rfl, by simp [question, DirectoryQuery.write]⟩
  · rename_i unstarred
    have same := DirectoryQuery.escape_unreserved (plain.resolve_left unstarred)
    refine ⟨.compare .equality (.string value), rfl, ?_⟩
    simp [question, DirectoryQuery.write, AssertionValue.directoryText, Comparison.symbol, same]

theorem raw_writes {text name value : String} (asserts : RawParser.Asserts text name value)
    (plain : PlainValue value) (levels depth : Nat) :
    ∃ c, (compileAt (plainContext schema maxDepth) (levels + 1) depth (.raw text)).result = .ok c ∧
      Writes text c := by
  obtain ⟨test, read, written⟩ := asserted_written asserts plain
  have parse : RawParser.simple text = .ok (.test name test) :=
    (RawParser.simple_iff _ _).mpr ⟨name, value, asserts, read.symm⟩
  have parsed := ((plainContext schema maxDepth).parsed_raw_iff text _).mpr parse
  have named : (Filter.test name test).effectiveName? = some name :=
    Document.own_name_iff.mpr ⟨asserts.named, rfl⟩
  rw [compileAt, CompileContext.enter_bind_result _ _ parsed]
  exact ⟨_, leaf_compiles_at named, written⟩

section Operands

variable {child : Filter → Compilation (Compiled DirectoryQuery)}

theorem each_writes {operands : List Filter}
    (each : ∀ g ∈ operands, ∃ c, (child g).result = .ok c ∧ Writes g.rawJoined c) :
    ∃ compiled, (Compilation.each child operands).result = .ok compiled ∧
      DirectoryQuery.writeAll (compiled.map (·.expression)) =
        (Filter.rawJoinedAll operands).toList := by
  induction operands with
  | nil => exact ⟨[], rfl, rfl⟩
  | cons operand rest ih =>
      obtain ⟨⟨c, first, written⟩, others⟩ := List.forall_mem_cons.mp each
      obtain ⟨compiled, later, all⟩ := ih others
      refine ⟨c :: compiled, ?_, ?_⟩
      · rw [Compilation.each, Compilation.bind_ok_iff]
        exact ⟨c, first, (Compilation.bind_ok_iff _ _ _).mpr ⟨compiled, later, rfl⟩⟩
      · rw [List.map_cons, DirectoryQuery.writeAll, written, all, Filter.rawJoinedAll,
          String.toList_append]

theorem junction_writes {op : Junction} {operands : List Filter} (nonempty : operands ≠ [])
    (each : ∀ g ∈ operands, ∃ c, (child g).result = .ok c ∧ Writes g.rawJoined c) :
    ∃ c, (compileNode ctx child (.junction op operands)).result = .ok c ∧
      Writes (Filter.junction op operands).rawJoined c := by
  obtain ⟨compiled, done, written⟩ := each_writes each
  refine ⟨⟨.junction op (compiled.map (·.expression)), Compiled.anyConsistency compiled⟩, ?_, ?_⟩
  · rw [compileNode, if_neg (by simpa using nonempty)]
    exact (Compilation.bind_ok_iff _ _ _).mpr ⟨compiled, done, rfl⟩
  · cases op <;> simp [Writes, DirectoryQuery.write, Filter.rawJoined, Junction.symbol, written]

theorem not_writes {operand : Filter}
    (inner : ∃ c, (child operand).result = .ok c ∧ Writes operand.rawJoined c) :
    ∃ c, (compileNode ctx child (.not operand)).result = .ok c ∧
      Writes (Filter.not operand).rawJoined c := by
  obtain ⟨c, done, written⟩ := inner
  refine ⟨⟨.not c.expression, c.consistency⟩, ?_, ?_⟩
  · exact (Compilation.bind_ok_iff _ _ _).mpr ⟨c, done, rfl⟩
  · have same : c.expression.write = operand.rawJoined.toList := written
    simp [Writes, DirectoryQuery.write, Filter.rawJoined, same]

end Operands

theorem tree_writes {levels : Nat} (tree : f.OfPlainRaw) (fits : f.depth ≤ levels) (depth : Nat) :
    ∃ c, (compileAt (plainContext schema maxDepth) levels depth f).result = .ok c ∧
      Writes f.rawJoined c := by
  induction levels generalizing f depth with
  | zero => exact absurd f.depth_positive (by omega)
  | succ levels ih =>
      have below : ∀ g ∈ f.children, g.depth ≤ levels := fun g inside => by
        have shallower := Filter.depth_child inside
        omega
      cases tree with
      | raw name value asserts plain => exact raw_writes asserts plain levels depth
      | junction nonempty each =>
          rw [compileAt, CompileContext.enter_bind_result _ _ rfl]
          exact junction_writes nonempty fun g inside =>
            ih (each g inside) (below g inside) (depth + 1)
      | not inner =>
          rw [compileAt, CompileContext.enter_bind_result _ _ rfl]
          exact not_writes (ih inner (below _ List.mem_cons_self) (depth + 1))

/-- The simple parser takes an assertion with a name and no other text. Trees of such text whose
values need no escape are compiled, within the limit on depth, to the texts put together. -/
theorem raw_text_verbatim :
    (∀ text, (∃ f, RawParser.simple text = .ok f) ↔
      ∃ name value, RawParser.Asserts text name value) ∧
    ∀ (schema : Schema) (maxDepth : Nat) (f : Filter), f.OfPlainRaw → f.depth ≤ maxDepth →
      ∃ c, (compile (plainContext schema maxDepth) f).result = .ok c ∧
        c.expression.text = f.rawJoined := by
  constructor
  · intro text
    simp only [RawParser.simple_iff]
    constructor
    · rintro ⟨_, name, value, asserts, _⟩
      exact ⟨name, value, asserts⟩
    · rintro ⟨name, value, asserts⟩
      exact ⟨_, name, value, asserts, rfl⟩
  · intro schema maxDepth f tree fits
    obtain ⟨c, done, written⟩ := tree_writes tree fits 0
    exact ⟨c, done, by rw [DirectoryQuery.text, written, String.ofList_toList]⟩

def rawAccounts : Filter :=
  .and [.raw "(cn=a=b)", .not (.raw "(mail=)"), .or [.raw "(uid=*)", .raw "((sn)=x)"]]

theorem accounts_verbatim :
    (∃ c, (compile (plainContext .empty 3) rawAccounts).result = .ok c ∧
      c.expression.text = "(&(cn=a=b)(!(mail=))(|(uid=*)((sn)=x)))") ∧
    ∀ text ∈ ["(", "()", "(=x)", "(cn)", "cn=x"],
      ¬ ∃ name value, RawParser.Asserts text name value := by
  obtain ⟨accepts, verbatim⟩ := raw_text_verbatim
  have cn : (Filter.raw "(cn=a=b)").OfPlainRaw :=
    .raw "cn" "a=b" ⟨rfl, by decide, by decide⟩ (.inr (by simp [DirectoryQuery.reserved]))
  have mail : (Filter.raw "(mail=)").OfPlainRaw :=
    .raw "mail" "" ⟨rfl, by decide, by decide⟩ (.inr (by simp))
  have uid : (Filter.raw "(uid=*)").OfPlainRaw :=
    .raw "uid" "*" ⟨rfl, by decide, by decide⟩ (.inl rfl)
  have sn : (Filter.raw "((sn)=x)").OfPlainRaw :=
    .raw "(sn)" "x" ⟨rfl, by decide, by decide⟩ (.inr (by simp [DirectoryQuery.reserved]))
  have either : (Filter.or [.raw "(uid=*)", .raw "((sn)=x)"]).OfPlainRaw :=
    .junction (List.cons_ne_nil _ _) (by simpa using ⟨uid, sn⟩)
  have tree : rawAccounts.OfPlainRaw :=
    .junction (List.cons_ne_nil _ _) (by simpa using ⟨cn, .not mail, either⟩)
  have refused : ∀ text ∈ ["(", "()", "(=x)", "(cn)", "cn=x"],
      (RawParser.simple text).toOption = none := by decide
  constructor
  · exact verbatim .empty 3 rawAccounts tree (by decide)
  · intro text listed taken
    obtain ⟨f, read⟩ := (accepts text).mpr taken
    simpa [read, Except.toOption] using refused text listed

end Directory
end FilterQuery
