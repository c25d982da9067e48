import Mathlib.Tactic.IntervalCases
import FilterQuery.Json.Text
import FilterQuery.Proofs.QueryTokens

/-!
The compact text of a JSON value is read as that value. A string ends at a quote that is not
escaped, a number in front of a comma or a closing bracket, and nothing else in the text can be
taken for either. Values with doubles are left out: only their shortest texts would have to be read
back, and no stored filter holds one.
-/
namespace FilterQuery.Json

def closers : List Char := [',', ']', '\x7d']

/-- A text in front of which a number ends. -/
def Ends (cs : List Char) : Prop := ∀ c ∈ cs.head?, c ∈ closers

theorem ends_nil : Ends [] := by simp [Ends]

theorem ends_cons {c : Char} (cs : List Char) (closes : c ∈ closers) : Ends (c :: cs) := by
  rintro d ⟨⟩
  exact closes

theorem digit_char {d : Nat} (small : d < 10) : digit? (Nat.digitChar d) = some d := by
  have all : ∀ d < 10, digit? (Nat.digitChar d) = some d := by decide
  exact all d small

theorem closer_no_digit {c : Char} (closes : c ∈ closers) : digit? c = none := by
  simp only [closers, List.mem_cons, List.not_mem_nil, or_false] at closes
  rcases closes with rfl | rfl | rfl <;> rfl

section Decimals

variable {digits : List Nat} {rest : List Char}

theorem span_ends (ends : Ends rest) : spanDigits rest = ([], rest) := by
  cases rest with
  | nil => rfl
  | cons c cs => rw [spanDigits, closer_no_digit (ends c rfl)]

theorem span_digits (small : ∀ d ∈ digits, d < 10) (ends : Ends rest) :
    spanDigits (digits.map Nat.digitChar ++ rest) = (digits, rest) := by
  induction digits with
  | nil => exact span_ends ends
  | cons d later ih =>
      obtain ⟨here, others⟩ := List.forall_mem_cons.mp small
      rw [List.map_cons, List.cons_append, spanDigits, digit_char here, ih others]

/-- The digits of a number as it is written: a zero stands in front of no other digit. -/
theorem decimal_digits (n : Nat) : ∃ digits : List Nat,
    Nat.toDigits 10 n = digits.map Nat.digitChar ∧ (∀ d ∈ digits, d < 10) ∧
      Number.ofDigits digits = n ∧ digits ≠ [] ∧ ∀ d later, digits ≠ 0 :: d :: later := by
  induction n using Nat.strongRecOn with
  | ind n ih =>
      rw [Nat.toDigits_eq_if (by decide)]
      split
      · rename_i small
        exact ⟨[n], rfl, by simpa using small, by simp [Number.ofDigits], by simp, by simp⟩
      · rename_i large
        obtain ⟨digits, written, small, value, some, trimmed⟩ := ih (n / 10) (by omega)
        refine ⟨digits ++ [n % 10], by simp [written], ?_, ?_, by simp, ?_⟩
        · intro d inside
          rcases List.mem_append.mp inside with front | last
          · exact small d front
          · rw [List.mem_singleton.mp last]
            omega
        · rw [Number.ofDigits, List.foldl_append, ← Number.ofDigits, value]
          exact Nat.div_add_mod' n 10
        · -- A leading zero would be the whole of the digits in front, and those are no zero.
          intro d later same
          cases digits with
          | nil => exact some rfl
          | cons first more =>
              obtain ⟨rfl, behind⟩ := List.cons.inj same
              cases more with
              | nil =>
                  simp [Number.ofDigits] at value
                  omega
              | cons second more => exact trimmed _ _ rfl

theorem read_whole (small : ∀ d ∈ digits, d < 10) (some : digits ≠ [])
    (trimmed : ∀ d later, digits ≠ 0 :: d :: later) (ends : Ends rest) :
    readWhole (digits.map Nat.digitChar ++ rest) = .ok (digits, rest) := by
  rw [readWhole, span_digits small ends]
  split
  · rename_i same
    exact absurd (Prod.mk.inj same).1 some
  · rename_i same
    exact absurd (Prod.mk.inj same).1 (trimmed _ _)
  · rename_i same
    cases same
    rfl

theorem no_fraction (ends : Ends rest) : readFraction rest = .ok (none, rest) := by
  unfold readFraction
  split
  · exact absurd (ends '.' rfl) (by decide)
  · rfl

theorem no_exponent (ends : Ends rest) : readExponent rest = .ok (none, rest) := by
  cases rest with
  | nil => rfl
  | cons c cs =>
      have closes := ends c rfl
      have lower : c ≠ 'e' := by rintro rfl; exact absurd closes (by decide)
      have upper : c ≠ 'E' := by rintro rfl; exact absurd closes (by decide)
      simp [readExponent, lower, upper]

theorem read_decimal (small : ∀ d ∈ digits, d < 10) (some : digits ≠ [])
    (trimmed : ∀ d later, digits ≠ 0 :: d :: later) (ends : Ends rest) :
    readDecimal ('-' :: (digits.map Nat.digitChar ++ rest)) =
        .ok (⟨true, digits, none, none⟩, rest) ∧
      readDecimal (digits.map Nat.digitChar ++ rest) = .ok (⟨false, digits, none, none⟩, rest) := by
  have whole := read_whole small some trimmed ends
  have unsigned : ∀ cs, digits.map Nat.digitChar ++ rest ≠ '-' :: cs := by
    intro cs same
    cases digits with
    | nil => exact some rfl
    | cons d later =>
        have sign := digit_char (small d List.mem_cons_self)
        rw [(List.cons.inj same).1] at sign
        cases sign
  constructor
  · simp only [readDecimal, whole, bind, Except.bind, no_fraction ends, no_exponent ends]
    rfl
  · unfold readDecimal
    split
    rename_i negative cs sign
    split at sign
    · rename_i same
      exact absurd same (unsigned _)
    · cases sign
      simp only [whole, bind, Except.bind, no_fraction ends, no_exponent ends]
      rfl

theorem read_whole_number {cs : List Char} {d : Number.Decimal} {i : Int}
    (read : readDecimal cs = .ok (d, rest)) (whole : d.integer? = some i) (word : Number.IsWord i) :
    readNumber cs = (.number (@Number.int i word), rest) := by
  rw [readNumber, read]
  simp only [Number.ofDecimal_integer whole word]

theorem read_integer {i : Int} (word : Number.IsWord i) (ends : Ends rest) :
    readNumber ((toString i).toList ++ rest) = (.number (@Number.int i word), rest) := by
  obtain ⟨digits, written, small, value, some, trimmed⟩ := decimal_digits i.natAbs
  obtain ⟨signed, unsigned⟩ := read_decimal small some trimmed ends
  rw [Query.toString_digits, written]
  split
  · rename_i negative
    have above : 0 < i.natAbs := by omega
    have back : -(i.natAbs : Int) = i := by omega
    have whole : Number.Decimal.integer? ⟨true, digits, none, none⟩ = Option.some i := by
      simp only [Number.Decimal.integer?, value, above, back, if_true, Bool.not_true,
        Bool.false_eq_true, if_false]
    exact read_whole_number signed whole word
  · rename_i positive
    have back : (i.natAbs : Int) = i := by omega
    have whole : Number.Decimal.integer? ⟨false, digits, none, none⟩ = Option.some i := by
      simp only [Number.Decimal.integer?, value, back, Bool.not_false, if_true]
    exact read_whole_number unsigned whole word

end Decimals

def StartsNumber (c : Char) : Prop := c = '-' ∨ ∃ d < 10, c = Nat.digitChar d

theorem integer_opens (i : Int) : ∃ c cs, (toString i).toList = c :: cs ∧ StartsNumber c := by
  obtain ⟨digits, written, small, -, some, -⟩ := decimal_digits i.natAbs
  rw [Query.toString_digits, written]
  split
  · exact ⟨_, _, rfl, .inl rfl⟩
  · cases digits with
    | nil => exact absurd rfl some
    | cons d later => exact ⟨_, _, rfl, .inr ⟨d, small d List.mem_cons_self, rfl⟩⟩

def Opens (c : Char) : Prop := isBlank c = false ∧ c ≠ ']'

theorem number_opens {c : Char} (starts : StartsNumber c) : Opens c := by
  have all : ∀ d < 10, isBlank (Nat.digitChar d) = false ∧ Nat.digitChar d ≠ ']' := by decide
  rcases starts with rfl | ⟨d, small, rfl⟩
  · exact ⟨rfl, by decide⟩
  · exact all d small

theorem read_number {c : Char} (starts : StartsNumber c) (steps : Nat) (cs : List Char) :
    readValue (steps + 1) (c :: cs) = readNumber (c :: cs) := by
  rcases starts with rfl | ⟨d, small, rfl⟩
  · rfl
  · interval_cases d <;> rfl

theorem skip_opened {c : Char} (opens : Opens c) (cs : List Char) :
    skipBlanks (c :: cs) = c :: cs := by
  rw [skipBlanks, List.dropWhile_cons_of_neg (by simp [opens.1])]

/-- A value without doubles. -/
inductive Legible : Json → Prop where
  | null : Legible .null
  | bool (value : Bool) : Legible (.bool value)
  | integer {i : Int} (word : Number.IsWord i) : Legible (.number (@Number.int i word))
  | string (text : String) : Legible (.string text)
  | array {items : List Json} (parts : ∀ item ∈ items, Legible item) : Legible (.array items)
  | object {members : List (String × Json)} (parts : ∀ m ∈ members, Legible m.2) :
      Legible (.object members)

theorem write_opens {j : Json} (legible : Legible j) (rest : List Char) :
    ∃ c cs, j.write rest = c :: cs ∧ Opens c := by
  cases legible with
  | null => exact ⟨_, _, rfl, rfl, by decide⟩
  | bool value => cases value <;> exact ⟨_, _, rfl, rfl, by decide⟩
  | @integer i word =>
      obtain ⟨c, cs, written, starts⟩ := integer_opens i
      refine ⟨c, cs ++ rest, ?_, number_opens starts⟩
      rw [write, writeNumber, written, List.cons_append]
  | string text => exact ⟨_, _, rfl, rfl, by decide⟩
  | @array items parts => cases items <;> exact ⟨_, _, rfl, rfl, by decide⟩
  | @object members parts => cases members <;> exact ⟨_, _, rfl, rfl, by decide⟩

mutual
theorem write_longer (j : Json) (rest : List Char) : rest.length ≤ (j.write rest).length := by
  match j with
  | .null | .bool _ | .number _ | .string _ =>
      simp only [write, List.length_append]
      omega
  | .array [] | .object [] =>
      simp only [write, List.length_cons]
      omega
  | .array (item :: items) =>
      have first := write_longer item (writeItems items rest)
      have others := items_longer items rest
      simp only [write, List.length_cons]
      omega
  | .object ((name, value) :: members) =>
      have first := write_longer value (writeMembers members rest)
      have others := members_longer members rest
      simp only [write, List.length_cons, List.length_append]
      omega

theorem items_longer (items : List Json) (rest : List Char) :
    rest.length ≤ (writeItems items rest).length := by
  match items with
  | [] => simp [writeItems]
  | item :: items =>
      have first := write_longer item (writeItems items rest)
      have others := items_longer items rest
      simp only [writeItems, List.length_cons]
      omega

theorem members_longer (members : List (String × Json)) (rest : List Char) :
    rest.length ≤ (writeMembers members rest).length := by
  match members with
  | [] => simp [writeMembers]
  | (name, value) :: members =>
      have first := write_longer value (writeMembers members rest)
      have others := members_longer members rest
      simp only [writeMembers, List.length_cons, List.length_append]
      omega
end

theorem read_string (text : String) (cs : List Char) :
    readString (escape text.toList ++ '"' :: cs) = (.ok text, cs) := by
  rw [readString, Query.scan_escape]
  simp only [Query.pair_text, String.ofList_toList]

def ReadsBack (j : Json) : Prop :=
  ∀ rest, Ends rest → ∀ steps, 2 * (j.write rest).length < steps →
    readValue steps (j.write rest) = (Draft.ofValue j, rest)

section Lists

variable {steps : Nat} {cs behind rest : List Char} {read : Draft}

theorem read_last_item (item : readValue steps cs = (read, ']' :: rest)) :
    readItems (steps + 1) cs = ([read], none, rest) := by
  rw [readItems, item]
  rfl

theorem read_more_items {reads : List Draft} (item : readValue steps cs = (read, ',' :: behind))
    (later : readItems steps behind = (reads, none, rest)) :
    readItems (steps + 1) cs = (read :: reads, none, rest) := by
  have comma : skipBlanks (',' :: behind) = ',' :: behind := rfl
  simp only [readItems, item, comma, later]

def writeMember (name : String) (value : List Char) : List Char :=
  escape name.toList ++ '"' :: ':' :: value

theorem quoted_member (name : String) (value : List Char) :
    quote name ++ ':' :: value = '"' :: writeMember name value := by
  rw [quote, writeMember, List.cons_append, List.append_assoc, List.singleton_append]

theorem read_last_member (name : String) (value : readValue steps cs = (read, '\x7d' :: rest)) :
    readMembers (steps + 1) (writeMember name cs) = ([(.name name, read)], none, rest) := by
  have colon : skipBlanks (':' :: cs) = ':' :: cs := rfl
  have brace : skipBlanks ('\x7d' :: rest) = '\x7d' :: rest := rfl
  simp only [readMembers, writeMember, read_string, colon, value, brace]

theorem read_more_members (name : String) {reads : List (Key × Draft)}
    (value : readValue steps cs = (read, ',' :: '"' :: behind))
    (later : readMembers steps behind = (reads, none, rest)) :
    readMembers (steps + 1) (writeMember name cs) = ((.name name, read) :: reads, none, rest) := by
  have colon : skipBlanks (':' :: cs) = ':' :: cs := rfl
  have comma : skipBlanks (',' :: '"' :: behind) = ',' :: '"' :: behind := rfl
  have quote : skipBlanks ('"' :: behind) = '"' :: behind := rfl
  simp only [readMembers, writeMember, read_string, colon, value, comma, quote, later]

theorem read_array {c : Char} {reads : List Draft} (opens : Opens c)
    (items : readItems steps (c :: cs) = (reads, none, rest)) :
    readValue (steps + 1) ('[' :: c :: cs) = (.array reads none, rest) := by
  have bracket : skipBlanks ('[' :: c :: cs) = '[' :: c :: cs := rfl
  simp only [readValue, bracket, skip_opened opens]
  split
  · rename_i closed
    exact absurd (List.cons.inj closed).1 opens.2
  · contradiction
  · rw [items]

theorem read_object {reads : List (Key × Draft)}
    (members : readMembers steps cs = (reads, none, rest)) :
    readValue (steps + 1) ('\x7b' :: '"' :: cs) = (.object reads none, rest) := by
  have brace : skipBlanks ('\x7b' :: '"' :: cs) = '\x7b' :: '"' :: cs := rfl
  have quote : skipBlanks ('"' :: cs) = '"' :: cs := rfl
  simp only [readValue, brace, quote, members]

end Lists

-- A list of items is read one step at a time, and every item with the steps that are left then.
theorem read_items {first : Json} {items : List Json} (readable : ∀ j ∈ first :: items, ReadsBack j)
    (rest : List Char) :
    ∀ steps, 2 * (first.write (writeItems items rest)).length + 1 < steps →
      readItems steps (first.write (writeItems items rest)) =
        (Draft.ofValues (first :: items), none, rest) := by
  induction items generalizing first with
  | nil =>
      apply Query.with_steps
      intro steps enough
      apply read_last_item
      exact readable first List.mem_cons_self _ (ends_cons rest (by decide)) steps enough
  | cons second items ih =>
      have later := ih fun j inside => readable j (List.mem_cons_of_mem first inside)
      apply Query.with_steps
      intro steps enough
      have shorter := write_longer first (writeItems (second :: items) rest)
      rw [writeItems, List.length_cons] at shorter
      rw [writeItems] at enough ⊢
      apply read_more_items
      · exact readable first List.mem_cons_self _ (ends_cons _ (by decide)) steps enough
      · exact later steps (by omega)

theorem read_members {name : String} {value : Json} {members : List (String × Json)}
    (readable : ∀ m ∈ (name, value) :: members, ReadsBack m.2) (rest : List Char) :
    ∀ steps, 2 * (writeMember name (value.write (writeMembers members rest))).length < steps →
      readMembers steps (writeMember name (value.write (writeMembers members rest))) =
        (Draft.ofMembers ((name, value) :: members), none, rest) := by
  induction members generalizing name value with
  | nil =>
      apply Query.with_steps
      intro steps enough
      simp only [writeMember, List.length_append, List.length_cons] at enough
      apply read_last_member
      refine readable _ List.mem_cons_self _ (ends_cons rest (by decide)) steps ?_
      change 2 * (value.write (writeMembers [] rest)).length < steps
      omega
  | cons second members ih =>
      have later := ih fun m inside => readable m (List.mem_cons_of_mem (name, value) inside)
      apply Query.with_steps
      intro steps enough
      simp only [writeMember, List.length_append, List.length_cons] at enough
      have shorter := write_longer value (writeMembers (second :: members) rest)
      have item := readable _ List.mem_cons_self (writeMembers (second :: members) rest)
        (ends_cons _ (by decide)) steps (by
          change 2 * (value.write (writeMembers (second :: members) rest)).length < steps
          omega)
      rw [writeMembers, quoted_member] at item shorter enough ⊢
      simp only [List.length_cons] at shorter
      apply read_more_members name item
      exact later steps (by omega)

theorem reads_back {j : Json} (legible : Legible j) : ReadsBack j := by
  induction legible with
  | null => exact fun rest ends => Query.with_steps fun steps enough => rfl
  | bool value =>
      cases value with
      | false => exact fun rest ends => Query.with_steps fun steps enough => rfl
      | true => exact fun rest ends => Query.with_steps fun steps enough => rfl
  | @integer i word =>
      intro rest ends
      apply Query.with_steps
      intro steps enough
      obtain ⟨c, cs, written, starts⟩ := integer_opens i
      have read := read_integer word ends
      rw [write, writeNumber, written, List.cons_append] at *
      rw [read_number starts, read]
      rfl
  | string text =>
      intro rest ends
      apply Query.with_steps
      intro steps enough
      have quote : skipBlanks ('"' :: (escape text.toList ++ '"' :: rest)) =
        '"' :: (escape text.toList ++ '"' :: rest) := rfl
      rw [write, Json.quote, List.cons_append, List.append_assoc, List.singleton_append]
      simp only [readValue, quote, read_string, Draft.ofValue]
  | @array items parts readable =>
      intro rest ends
      apply Query.with_steps
      intro steps enough
      cases items with
      | nil => rfl
      | cons first items =>
          obtain ⟨c, cs, written, opens⟩ :=
            write_opens (parts first List.mem_cons_self) (writeItems items rest)
          rw [write, List.length_cons] at enough
          have read := read_items readable rest steps (by omega)
          rw [written] at read
          rw [write, written]
          exact read_array opens read
  | @object members parts readable =>
      intro rest ends
      apply Query.with_steps
      intro steps enough
      cases members with
      | nil => rfl
      | cons first members =>
          obtain ⟨name, value⟩ := first
          rw [write, quoted_member] at enough ⊢
          simp only [List.length_cons] at enough
          exact read_object (read_members readable rest steps (by omega))

theorem read_draft {j : Json} (legible : Legible j) :
    readDraft (j.write []) = (Draft.ofValue j, []) :=
  reads_back legible [] ends_nil _ (by omega)

mutual
def nesting : Json → Nat
  | .array items => 1 + nestingOfItems items
  | .object members => 1 + nestingOfMembers members
  | .null => 0
  | .bool _ => 0
  | .number _ => 0
  | .string _ => 0

def nestingOfItems : List Json → Nat
  | [] => 0
  | item :: rest => max item.nesting (nestingOfItems rest)

def nestingOfMembers : List (String × Json) → Nat
  | [] => 0
  | (_, value) :: rest => max value.nesting (nestingOfMembers rest)
end

mutual
theorem draft_value (j : Json) {levels : Nat} (fits : j.nesting ≤ levels) :
    (Draft.ofValue j).value levels = .ok j := by
  match j with
  | .null => rfl
  | .bool value => rfl
  | .number value => rfl
  | .string text => rfl
  | .array items =>
      rw [nesting] at fits
      cases levels with
      | zero => omega
      | succ levels =>
          rw [Draft.ofValue, Draft.value, draft_values items (by omega)]
          rfl
  | .object members =>
      rw [nesting] at fits
      cases levels with
      | zero => omega
      | succ levels =>
          rw [Draft.ofValue, Draft.value, draft_members members (by omega)]
          rfl

theorem draft_values (items : List Json) {levels : Nat} (fits : nestingOfItems items ≤ levels) :
    Draft.values levels (Draft.ofValues items) = .ok items := by
  match items with
  | [] => rfl
  | item :: rest =>
      rw [nestingOfItems] at fits
      rw [Draft.ofValues, Draft.values, draft_value item (by omega), draft_values rest (by omega)]
      rfl

theorem draft_members (members : List (String × Json)) {levels : Nat}
    (fits : nestingOfMembers members ≤ levels) :
    Draft.memberValues levels (Draft.ofMembers members) = .ok members := by
  match members with
  | [] => rfl
  | (name, value) :: rest =>
      rw [nestingOfMembers] at fits
      rw [Draft.ofMembers, Draft.memberValues, draft_value value (by omega),
        draft_members rest (by omega)]
      rfl
end

end FilterQuery.Json
