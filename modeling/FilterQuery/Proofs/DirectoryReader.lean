import FilterQuery.Directory.Text
import FilterQuery.Proofs.QueryTokens
import Mathlib.Data.List.Forall2

/-!
A reader of directory queries in the string form of RFC 4515. What structures a query, brackets and
stars among them, has to be escaped inside a value, so the reader finds the end of a test and the
parts of a substring test before it looks into any value. The text of a query reads back as the
query without the empty components that no text can show; where none is left, a substring test is
one for presence.
-/
namespace FilterQuery.DirectoryQuery

def reserved : List Char := ['*', '(', ')', '\\', '\x00']

/-- The octets of a value: one for a backslash and two hexadecimal digits, else those that encode
the character. -/
def readOctets : List Char → Option (List UInt8)
  | [] => some []
  | '\\' :: high :: low :: cs => do
    let high ← Json.hexValue? high
    let low ← Json.hexValue? low
    let octets ← readOctets cs
    return UInt8.ofNat (high * 16 + low) :: octets
  | c :: cs => if c ∈ reserved then none else (readOctets cs).map (String.utf8EncodeChar c ++ ·)

def readValue (cs : List Char) : Option String :=
  (readOctets cs).bind fun octets => String.fromUTF8? octets.toByteArray

def isNameChar (c : Char) : Bool := c.isAlphanum || c ∈ ['-', ';', '.']

def readEnd (cs : List Char) : Option (Option String) :=
  if cs = [] then some none else (readValue cs).map some

def readInner (cs : List Char) : Option String := if cs = [] then none else readValue cs

def ofComponents (name : String) (c : Components) : DirectoryQuery :=
  if c = ⟨none, [], none⟩ then .presence name else .substring name c

/-- What stands behind an equals sign: a value, or components with stars between them. -/
def readEqual (name : String) (cs : List Char) : Option DirectoryQuery :=
  match cs.splitOn '*' with
  | [] => none
  | [value] => (readValue value).map (.compare .equality name)
  | initial :: rest => do
    let initial ← readEnd initial
    let any ← rest.dropLast.mapM readInner
    let final ← readEnd (rest.getLastD [])
    return ofComponents name ⟨initial, any, final⟩

/-- What stands behind the name. Rules for extensible matching are no tests here. -/
def readOperation (name : String) : List Char → Option DirectoryQuery
  | '=' :: cs => readEqual name cs
  | '>' :: '=' :: cs => (readValue cs).map (.compare .atLeast name)
  | '<' :: '=' :: cs => (readValue cs).map (.compare .atMost name)
  | '~' :: '=' :: cs => (readValue cs).map (.compare .approximate name)
  | _ => none

/-- A test without its brackets. Readers differ in the names that they take; `accepts` is what this
one asks of a name besides its characters. -/
def readTest (accepts : String → Bool) (cs : List Char) : Option DirectoryQuery :=
  let name := String.ofList (cs.takeWhile isNameChar)
  if name = "" ∨ !accepts name then none else readOperation name (cs.dropWhile isNameChar)

def close : List Char → Option (List Char)
  | ')' :: rest => some rest
  | _ => none

def readAll (read : List Char → Option (DirectoryQuery × List Char)) :
    Nat → List Char → Option (List DirectoryQuery × List Char)
  | 0, _ => none
  | steps + 1, cs => do
    let (first, rest) ← read cs
    match close rest with
    | some rest => return ([first], rest)
    | none => (readAll read steps rest).map fun (later, rest) => (first :: later, rest)

def readWithin (accepts : String → Bool) : Nat → List Char → Option (DirectoryQuery × List Char)
  | 0, _ => none
  | steps + 1, '(' :: '&' :: cs =>
    (readAll (readWithin accepts steps) steps cs).map fun (operands, rest) =>
      (.junction .and operands, rest)
  | steps + 1, '(' :: '|' :: cs =>
    (readAll (readWithin accepts steps) steps cs).map fun (operands, rest) =>
      (.junction .or operands, rest)
  | steps + 1, '(' :: '!' :: cs => do
    let (operand, rest) ← readWithin accepts steps cs
    let rest ← close rest
    return (.not operand, rest)
  | _ + 1, '(' :: cs => do
    let test ← readTest accepts (cs.takeWhile (· ≠ ')'))
    let rest ← close (cs.dropWhile (· ≠ ')'))
    return (test, rest)
  | _ + 1, _ => none

def read? (accepts : String → Bool) (text : String) : Option DirectoryQuery :=
  match readWithin accepts (text.toList.length + 1) text.toList with
  | some (q, []) => some q
  | _ => none

def shown (c : Components) : Components :=
  ⟨c.initial.filter (· ≠ ""), c.any.filter (· ≠ ""), c.final.filter (· ≠ "")⟩

mutual
def visible : DirectoryQuery → DirectoryQuery
  | .compare op name value => .compare op name value
  | .presence name => .presence name
  | .substring name components => ofComponents name (shown components)
  | .junction op operands => .junction op (visibleAll operands)
  | .not operand => .not operand.visible

def visibleAll : List DirectoryQuery → List DirectoryQuery
  | [] => []
  | operand :: rest => operand.visible :: visibleAll rest
end

theorem visible_all_eq_map (queries : List DirectoryQuery) :
    visibleAll queries = queries.map visible := by
  induction queries with
  | nil => rfl
  | cons q rest ih => rw [visibleAll, ih, List.map_cons]

structure Described (accepts : String → Bool) (name : String) : Prop where
  written : name ≠ ""
  plain : name.toList.all isNameChar
  accepted : accepts name

inductive Readable (accepts : String → Bool) : DirectoryQuery → Prop where
  | compare {op : Comparison} {name value : String} (named : Described accepts name) :
      Readable accepts (.compare op name value)
  | presence {name : String} (named : Described accepts name) : Readable accepts (.presence name)
  | substring {name : String} {components : Components} (named : Described accepts name) :
      Readable accepts (.substring name components)
  | junction {op : Junction} {operands : List DirectoryQuery} (some : operands ≠ [])
      (all : ∀ q ∈ operands, Readable accepts q) : Readable accepts (.junction op operands)
  | not {operand : DirectoryQuery} (inner : Readable accepts operand) :
      Readable accepts (.not operand)

theorem octets_pair {c high low : Char} {h l : Nat} (first : Json.hexValue? high = some h)
    (second : Json.hexValue? low = some l)
    (octet : String.utf8EncodeChar c = [UInt8.ofNat (h * 16 + l)]) (cs : List Char) :
    readOctets ('\\' :: high :: low :: cs) =
      (readOctets cs).map (String.utf8EncodeChar c ++ ·) := by
  rw [readOctets, first, second, octet]
  cases readOctets cs <;> rfl

theorem octets_plain {c : Char} (free : c ∉ reserved) (cs : List Char) :
    readOctets (c :: cs) = (readOctets cs).map (String.utf8EncodeChar c ++ ·) := by
  rw [readOctets.eq_def]
  split
  · rename_i empty
    cases empty
  · rename_i same
    cases same
    exact absurd free (by decide)
  · rename_i same
    cases same
    exact if_neg free

theorem octets_char (c : Char) (cs : List Char) :
    readOctets (escapeChar c ++ cs) = (readOctets cs).map (String.utf8EncodeChar c ++ ·) := by
  unfold escapeChar
  -- Five characters are escaped, and each of them is one octet.
  iterate 5
    split
    · subst c
      exact octets_pair (by rfl) (by rfl) (by rfl) cs
  exact octets_plain (by simp [reserved, *]) cs

theorem octets_escape (text : String) :
    readOctets (escape text) = some (text.toList.flatMap String.utf8EncodeChar) := by
  unfold escape
  induction text.toList with
  | nil => rfl
  | cons c rest ih => rw [List.flatMap_cons, octets_char, ih, List.flatMap_cons]; rfl

theorem value_escape (text : String) : readValue (escape text) = some text := by
  have valid : text.toByteArray.IsValidUTF8 := text.isValidUTF8
  have bytes : (text.toList.flatMap String.utf8EncodeChar).toByteArray = text.toByteArray :=
    String.utf8Encode_toList
  rw [readValue, octets_escape, Option.bind_some, bytes, String.fromUTF8?, dif_pos valid]
  rfl

-- Escapes that stand for the octets of one character are read together.
example : readValue "caf\\c3\\A9\\2a".toList = some "café*" := by rfl

theorem escaped_char (d : Char) : ∀ c ∈ escapeChar d, c = '\\' ∨ c ∉ reserved := by
  unfold escapeChar
  iterate 5
    split
    · simp [reserved]
  simp [reserved, *]

theorem escape_plain {text : String} {c : Char} (inside : c ∈ escape text) :
    c = '\\' ∨ c ∉ reserved := by
  obtain ⟨d, _, written⟩ := List.mem_flatMap.mp inside
  exact escaped_char d c written

theorem star_free (text : String) : '*' ∉ escape text := fun inside =>
  absurd (escape_plain inside) (by decide)

theorem closing_free (text : String) : ')' ∉ escape text := fun inside =>
  absurd (escape_plain inside) (by decide)

theorem escape_nil_iff (text : String) : escape text = [] ↔ text = "" := by
  constructor
  · intro none
    have same := value_escape text
    rw [none] at same
    exact (Option.some.inj same).symm
  · rintro rfl
    rfl

theorem split_inner (parts : List String) (final : String) :
    (parts.flatMap (fun part => escape part ++ ['*']) ++ escape final).splitOn '*' =
      parts.map escape ++ [escape final] := by
  induction parts with
  | nil => exact List.splitOn_eq_singleton (star_free final)
  | cons part rest ih =>
      rw [List.flatMap_cons, List.append_assoc, List.append_assoc, List.singleton_append,
        List.splitOn_append_cons_self_of_not_mem (star_free part), ih]
      rfl

theorem split_components (c : Components) :
    (writeComponents c).splitOn '*' = escape (c.initial.getD "") ::
      ((c.any.filter (· ≠ "")).map escape ++ [escape (c.final.getD "")]) := by
  rw [writeComponents, List.splitOn_append_cons_self_of_not_mem (star_free _), split_inner]

theorem read_end (component : Option String) :
    readEnd (escape (component.getD "")) = some (component.filter (· ≠ "")) := by
  rcases component with _ | text
  · rfl
  · by_cases empty : text = ""
    · subst empty
      rfl
    · have written : escape text ≠ [] := fun none => empty ((escape_nil_iff text).mp none)
      simp [readEnd, written, value_escape, Option.filter, empty]

theorem read_inner (parts : List String) (all : ∀ part ∈ parts, part ≠ "") :
    (parts.map escape).mapM readInner = some parts := by
  induction parts with
  | nil => rfl
  | cons part rest ih =>
      obtain ⟨written, later⟩ := List.forall_mem_cons.mp all
      have here : readInner (escape part) = some part := by
        rw [readInner, if_neg (written ∘ (escape_nil_iff part).mp), value_escape]
      rw [List.map_cons, List.mapM_cons, here, ih later]
      rfl

theorem read_components (name : String) (c : Components) :
    readEqual name (writeComponents c) = some (ofComponents name (shown c)) := by
  have inner := read_inner (c.any.filter (· ≠ "")) (by simp)
  rw [readEqual, split_components]
  split
  · rename_i none
    cases none
  · rename_i one
    simp at one
  · rename_i initial rest _ same
    obtain ⟨rfl, rfl⟩ := List.cons.inj same
    rw [read_end, List.dropLast_concat, inner, List.getLastD_concat, read_end]
    rfl

theorem read_single (name value : String) :
    readEqual name (escape value) = some (.compare .equality name value) := by
  rw [readEqual, List.splitOn_eq_singleton (star_free value)]
  simp only [value_escape, Option.map_some]

section Names

variable {accepts : String → Bool} {name : String}

-- A name ends where the symbol of its test begins, since no symbol begins with a letter of names.
theorem name_ends (described : Described accepts name) {c : Char} (other : isNameChar c = false)
    (cs : List Char) :
    (name.toList ++ c :: cs).takeWhile isNameChar = name.toList ∧
      (name.toList ++ c :: cs).dropWhile isNameChar = c :: cs := by
  have all := List.all_eq_true.mp described.plain
  rw [List.takeWhile_append_of_pos all, List.dropWhile_append_of_pos all]
  simp [other]

theorem read_test (described : Described accepts name) {c : Char} (other : isNameChar c = false)
    (cs : List Char) :
    readTest accepts (name.toList ++ c :: cs) = readOperation name (c :: cs) := by
  obtain ⟨front, behind⟩ := name_ends described other cs
  rw [readTest, front, behind, String.ofList_toList]
  simp [described.written, described.accepted]

theorem read_comparison (described : Described accepts name) (op : Comparison) (value : String) :
    readTest accepts (name.toList ++ op.symbol.toList ++ escape value) =
      some (.compare op name value) := by
  rw [List.append_assoc]
  cases op with
  | equality => exact (read_test described (by decide) _).trans (read_single name value)
  | _ =>
      refine (read_test described (by decide) _).trans ?_
      change (readValue (escape value)).map _ = _
      rw [value_escape]
      rfl

theorem read_presence (described : Described accepts name) :
    readTest accepts (name.toList ++ "=*".toList) = some (.presence name) :=
  read_test described (by decide) _

theorem read_substring (described : Described accepts name) (c : Components) :
    readTest accepts (name.toList ++ '=' :: writeComponents c) =
      some (ofComponents name (shown c)) :=
  (read_test described (by decide) _).trans (read_components name c)

section Written

variable (name : String) (rest : List Char)

theorem write_compare (op : Comparison) (value : String) :
    (compare op name value).write ++ rest =
      '(' :: ((name.toList ++ op.symbol.toList ++ escape value) ++ ')' :: rest) := by
  simp [write]

theorem write_presence :
    (presence name).write ++ rest = '(' :: ((name.toList ++ "=*".toList) ++ ')' :: rest) := by
  simp [write]

theorem write_substring (c : Components) :
    (substring name c).write ++ rest =
      '(' :: ((name.toList ++ '=' :: writeComponents c) ++ ')' :: rest) := by
  simp [write]

theorem write_junction (op : Junction) (operands : List DirectoryQuery) :
    (junction op operands).write ++ rest =
      '(' :: op.symbol :: (writeAll operands ++ ')' :: rest) := by
  simp [write]

theorem write_not (operand : DirectoryQuery) :
    (DirectoryQuery.not operand).write ++ rest = '(' :: '!' :: (operand.write ++ ')' :: rest) := by
  simp [write]

end Written

theorem symbol_closing_free (op : Comparison) : ')' ∉ op.symbol.toList := by
  cases op <;> decide

theorem name_closing_free (described : Described accepts name) : ')' ∉ name.toList := fun inside =>
  absurd (List.all_eq_true.mp described.plain _ inside) (by decide)

theorem components_closing_free (c : Components) : ')' ∉ writeComponents c := by
  simp only [writeComponents, List.mem_append, List.mem_cons, List.mem_flatMap, List.not_mem_nil,
    or_false, closing_free, false_or]
  simp

theorem nameless_test {c : Char} (other : isNameChar c = false) (cs : List Char) :
    readTest accepts (c :: cs) = none := by
  simp [readTest, other]

theorem read_bracketed {body : List Char} {test : DirectoryQuery}
    (read : readTest accepts body = some test) (free : ')' ∉ body) (rest : List Char) {steps : Nat}
    (enough : 0 < steps) :
    readWithin accepts steps ('(' :: (body ++ ')' :: rest)) = some (test, rest) := by
  obtain ⟨steps, rfl⟩ := Nat.exists_eq_succ_of_ne_zero (Nat.ne_of_gt enough)
  have inside : ∀ c ∈ body, (decide (c ≠ ')')) = true := fun c member => by
    rw [decide_eq_true_eq]
    rintro rfl
    exact free member
  -- The sign of a junction or a negation cannot stand where a test has its name.
  have unsigned : ∀ c cs, isNameChar c = false → c ≠ ')' → body ++ ')' :: rest ≠ c :: cs := by
    rintro c cs other unclosed same
    cases body with
    | nil => exact unclosed (List.cons.inj same).1.symm
    | cons d body =>
        obtain ⟨rfl, _⟩ := List.cons.inj same
        rw [nameless_test other] at read
        cases read
  rw [readWithin, List.takeWhile_append_of_pos inside, List.dropWhile_append_of_pos inside]
  · simp [read, close]
  · exact fun cs => unsigned '&' cs (by decide) (by decide)
  · exact fun cs => unsigned '|' cs (by decide) (by decide)
  · exact fun cs => unsigned '!' cs (by decide) (by decide)

theorem write_opens (q : DirectoryQuery) : ∃ cs, q.write = '(' :: cs := by
  cases q <;> exact ⟨_, rfl⟩

theorem write_longer (q : DirectoryQuery) (rest : List Char) :
    rest.length < (q.write ++ rest).length := by
  obtain ⟨cs, written⟩ := write_opens q
  simp only [written, List.length_append, List.length_cons]
  omega

def Reads (accepts : String → Bool) (q r : DirectoryQuery) : Prop :=
  ∀ (rest : List Char) (steps : Nat), (q.write ++ rest).length < steps →
    readWithin accepts steps (q.write ++ rest) = some (r, rest)

theorem reads_test {q test : DirectoryQuery} {body : List Char}
    (written : ∀ rest, q.write ++ rest = '(' :: (body ++ ')' :: rest))
    (read : readTest accepts body = some test) (free : ')' ∉ body) : Reads accepts q test := by
  intro rest steps enough
  rw [written]
  exact read_bracketed read free rest (Nat.zero_lt_of_lt enough)

theorem reads_not {operand r : DirectoryQuery} (inner : Reads accepts operand r) :
    Reads accepts (.not operand) (.not r) := by
  intro rest
  apply Query.with_steps
  intro steps enough
  rw [write_not] at enough ⊢
  have inside : (operand.write ++ ')' :: rest).length < steps := by
    simp only [List.length_cons] at enough
    omega
  rw [readWithin, inner _ steps inside]
  rfl

-- No operand begins with a closing bracket, so one that stands behind an operand ends the list.
theorem read_operands {operands results : List DirectoryQuery} {levels : Nat} (rest : List Char)
    (some : operands ≠ []) (each : List.Forall₂ (Reads accepts) operands results)
    (fits : (writeAll operands ++ ')' :: rest).length < levels) :
    ∀ steps, (writeAll operands ++ ')' :: rest).length < steps →
      readAll (readWithin accepts levels) steps (writeAll operands ++ ')' :: rest) =
        .some (results, rest) := by
  induction each with
  | nil => exact absurd rfl some
  | @cons first r later rs here others ih =>
      apply Query.with_steps
      intro steps enough
      rw [writeAll, List.append_assoc] at fits enough ⊢
      have read := here _ levels fits
      cases others with
      | nil =>
          rw [readAll, read]
          rfl
      | @cons second _ later _ _ _ =>
          have shorter := write_longer first (writeAll (second :: later) ++ ')' :: rest)
          have tail := ih (List.cons_ne_nil _ _) (Nat.lt_trans shorter fits) steps
            (Nat.lt_of_lt_of_le shorter enough)
          obtain ⟨cs, opens⟩ := write_opens second
          have unclosed : close (writeAll (second :: later) ++ ')' :: rest) = none := by
            rw [writeAll, opens]
            rfl
          rw [readAll, read]
          simp only [Option.bind_eq_bind, Option.bind_some, unclosed]
          rw [tail]
          rfl

theorem reads_junction (op : Junction) {operands results : List DirectoryQuery}
    (some : operands ≠ []) (each : List.Forall₂ (Reads accepts) operands results) :
    Reads accepts (.junction op operands) (.junction op results) := by
  intro rest
  apply Query.with_steps
  intro steps enough
  rw [write_junction] at enough ⊢
  have inside : (writeAll operands ++ ')' :: rest).length < steps := by
    simp only [List.length_cons] at enough
    omega
  have read := read_operands rest some each inside steps inside
  cases op <;> rw [Junction.symbol, readWithin, read] <;> rfl

theorem reads_query {q : DirectoryQuery} (readable : Readable accepts q) :
    Reads accepts q q.visible := by
  induction readable with
  | @compare op name value named =>
      apply reads_test (write_compare name · op value) (read_comparison named op value)
      simp [name_closing_free named, symbol_closing_free, closing_free]
  | @presence name named =>
      apply reads_test (write_presence name) (read_presence named)
      simp [name_closing_free named]
  | @substring name c named =>
      apply reads_test (write_substring name · c) (read_substring named c)
      simp [name_closing_free named, components_closing_free]
  | @junction op operands some all ih =>
      rw [visible, visible_all_eq_map]
      apply reads_junction op some
      rw [List.forall₂_map_right_iff, List.forall₂_same]
      exact ih
  | not _ ih => exact reads_not ih

/-- The text of a query is read as the query without its empty components. -/
theorem read_text {q : DirectoryQuery} (readable : Readable accepts q) :
    read? accepts q.text = some q.visible := by
  have read := reads_query readable [] _ (Nat.lt_succ_self _)
  rw [List.append_nil] at read
  rw [read?, text, String.toList_ofList, read]

end Names

end FilterQuery.DirectoryQuery
