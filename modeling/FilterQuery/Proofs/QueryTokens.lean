import FilterQuery.Expr.Text
import FilterQuery.Json.Reader

/-!
The tokens of the query language, and the text of one token in front of what follows it. Names end
at a single tick and strings at a quote that is not escaped, so neither can run into the text behind
it whatever characters it holds; words and numbers end where a blank, a bracket or a comma stands.
-/
namespace FilterQuery.Query

inductive Token where
  | name (text : String)
  | literal (value : Literal)
  | operator (op : BinaryOp)
  | negation
  | is
  | missing
  | any
  | satisfies
  | done
  | lower
  | opening
  | closing
  | listOpening
  | listClosing
  | comma
deriving DecidableEq, Repr

def keywords : List (String × Token) :=
  [("TRUE", .literal (.bool true)), ("FALSE", .literal (.bool false)), ("LIKE", .operator .like),
    ("IN", .operator .isIn), ("AND", .operator .and), ("OR", .operator .or), ("NOT", .negation),
    ("IS", .is), ("MISSING", .missing), ("ANY", .any), ("SATISFIES", .satisfies), ("END", .done),
    ("LOWER", .lower)]

/-- A name after its opening tick. Two ticks are one tick of the name. -/
def readName : List Char → Option (List Char × List Char)
  | [] => none
  | '\x60' :: '\x60' :: cs => (readName cs).map fun (name, rest) => (tick :: name, rest)
  | '\x60' :: cs => some ([], cs)
  | c :: cs => (readName cs).map fun (name, rest) => (c :: name, rest)

def readText (cs : List Char) : Option (Token × List Char) :=
  match Json.readString cs with
  | (.ok text, rest) => some (.literal (.string text), rest)
  | _ => none

def readInteger (negative : Bool) (cs : List Char) : Option (Token × List Char) :=
  let digits := cs.takeWhile Char.isDigit
  let magnitude : Int := Nat.ofDigitChars 10 digits 0
  let i := if negative then -magnitude else magnitude
  if digits = [] ∨ !Number.inSignedRange i then none
  else some (.literal (.number (Int64.ofInt i)), cs.dropWhile Char.isDigit)

def readWord (cs : List Char) : Option (Token × List Char) :=
  (keywords.lookup (String.ofList (cs.takeWhile Char.isUpper))).map fun t =>
    (t, cs.dropWhile Char.isUpper)

def mark? : Char → Option Token
  | '(' => some .opening
  | ')' => some .closing
  | '[' => some .listOpening
  | ']' => some .listClosing
  | ',' => some .comma
  | '=' => some (.operator .eq)
  | _ => none

def next? : List Char → Option (Token × List Char)
  | [] => none
  | '\x60' :: cs => (readName cs).map fun (name, rest) => (.name (String.ofList name), rest)
  | '"' :: cs => readText cs
  | '-' :: cs => readInteger true cs
  | '<' :: '=' :: cs => some (.operator .atMost, cs)
  | '>' :: '=' :: cs => some (.operator .atLeast, cs)
  | c :: cs =>
    match mark? c with
    | some t => some (t, cs)
    | none => if c.isDigit then readInteger false (c :: cs) else readWord (c :: cs)

def lexWithin : Nat → List Char → Option (List Token)
  | 0, _ => none
  | _ + 1, [] => some []
  | steps + 1, c :: cs =>
    if c = ' ' then lexWithin steps cs
    else do
      let (t, rest) ← next? (c :: cs)
      let later ← lexWithin steps rest
      return t :: later

def lex (cs : List Char) : Option (List Token) := lexWithin (cs.length + 1) cs

def separators : List Char := [' ', '(', ')', ']', ',']

/-- A text in front of which any token ends. -/
def Separated (cs : List Char) : Prop := ∀ c ∈ cs.head?, c ∈ separators

theorem separated_nil : Separated [] := by simp [Separated]

theorem separated_cons {c : Char} (cs : List Char) (separates : c ∈ separators) :
    Separated (c :: cs) := by
  rintro d ⟨⟩
  exact separates

theorem separated_blank (cs : List Char) : Separated (' ' :: cs) :=
  separated_cons cs (by decide)

theorem run_ends {kind : Char → Bool} {run cs : List Char} (all : run.all kind)
    (none : separators.all fun c => !kind c) (separated : Separated cs) :
    (run ++ cs).takeWhile kind = run ∧ (run ++ cs).dropWhile kind = cs := by
  rw [List.all_eq_true] at all none
  rw [List.takeWhile_append_of_pos all, List.dropWhile_append_of_pos all]
  cases cs with
  | nil => simp
  | cons c cs =>
      -- The run stops at a separator because no separator is of its kind.
      have other := none c (separated c rfl)
      rw [Bool.not_eq_true'] at other
      simp [other]

theorem read_name (name cs : List Char) (separated : Separated cs) :
    readName (name.flatMap (fun c => if c = tick then [tick, tick] else [c]) ++ tick :: cs) =
      some (name, cs) := by
  induction name with
  | nil =>
      -- The closing tick would be read as a doubled one if another tick followed.
      cases cs with
      | nil => rfl
      | cons c cs =>
          have other : c ≠ tick := by
            rintro rfl
            exact absurd (separated tick rfl) (by decide)
          rw [List.flatMap_nil, List.nil_append, tick, readName]
          rintro d ⟨⟩
          exact other rfl
  | cons c rest ih =>
      by_cases special : c = tick
      · subst special
        simpa [readName, tick] using ih
      · rw [List.flatMap_cons, if_neg special, List.append_assoc, List.singleton_append,
          readName, ih]
        · rfl
        · exact fun _ same _ => special same
        · exact special

theorem toString_digits (i : Int) :
    (toString i).toList =
      if i < 0 then '-' :: Nat.toDigits 10 i.natAbs else Nat.toDigits 10 i.natAbs := by
  rw [Int.toString_eq_repr, Int.repr_eq_if]
  split
  · rw [if_neg (by omega), Nat.toList_repr]
    exact congrArg (Nat.toDigits 10) (by omega)
  · rw [if_pos (by omega), String.toList_append, Nat.toList_repr]
    exact congrArg (fun n => '-' :: Nat.toDigits 10 n) (by omega)

theorem read_integer (negative : Bool) (magnitude : Nat) (cs : List Char)
    (separated : Separated cs)
    (fits : Number.inSignedRange (if negative then -magnitude else magnitude)) :
    readInteger negative (Nat.toDigits 10 magnitude ++ cs) =
      some (.literal (.number (Int64.ofInt (if negative then -magnitude else magnitude))), cs) := by
  have digits : (Nat.toDigits 10 magnitude).all Char.isDigit :=
    List.all_eq_true.mpr fun c inside =>
      Nat.isDigit_of_mem_toDigits (by decide) (by decide) inside
  obtain ⟨front, behind⟩ := run_ends digits (by decide) separated
  rw [readInteger, front, behind, Nat.ofDigitChars_ten_toDigits]
  simp [Nat.toDigits_ne_nil, fits]

theorem next_mark {c : Char} {t : Token} (known : mark? c = some t) (cs : List Char) :
    next? (c :: cs) = some (t, cs) := by
  unfold next?
  split
  case h_7 =>
      rename_i same
      cases same
      rw [known]
  all_goals
    rename_i same
    cases same
    try cases known

def starts : List Char := ['\x60', '"', '-', '<', '>', '(', ')', '[', ']', ',', '=']

theorem next_plain {c : Char} (plain : c ∉ starts) (cs : List Char) :
    next? (c :: cs) = if c.isDigit then readInteger false (c :: cs) else readWord (c :: cs) := by
  have unmarked : mark? c = none := by
    unfold mark?
    split
    case h_7 => rfl
    all_goals exact absurd plain (by decide)
  rw [next?, unmarked]
  all_goals
    intros
    subst c
    exact absurd plain (by decide)

theorem not_starts {kind : Char → Bool} (none : starts.all fun c => !kind c) {c : Char}
    (of_kind : kind c) : c ∉ starts := by
  intro inside
  have other := List.all_eq_true.mp none c inside
  rw [of_kind] at other
  cases other

theorem next_digit {c : Char} (digit : c.isDigit) (cs : List Char) :
    next? (c :: cs) = readInteger false (c :: cs) := by
  rw [next_plain (not_starts (by decide) digit), if_pos digit]

theorem next_upper {c : Char} (upper : c.isUpper) (cs : List Char) :
    next? (c :: cs) = readWord (c :: cs) := by
  have other : ¬ c.isDigit := by
    intro digit
    have above : 'A'.toNat ≤ c.toNat := (of_decide_eq_true upper).1
    have below : c.toNat ≤ '9'.toNat := (Char.isDigit_iff_toNat.mp digit).2
    exact absurd (Nat.le_trans above below) (by decide)
  rw [next_plain (not_starts (by decide) upper), if_neg other]

theorem next_number (n : Int64) (cs : List Char) (separated : Separated cs) :
    next? ((toString n.toInt).toList ++ cs) = some (.literal (.number n), cs) := by
  have fits := Number.signed_range n
  rw [toString_digits]
  by_cases negative : n.toInt < 0
  · have value : -(n.toInt.natAbs : Int) = n.toInt := by omega
    have read := read_integer true n.toInt.natAbs cs separated
    rw [if_pos rfl, value] at read
    rw [if_pos negative, List.cons_append, next?, read fits, Int64.ofInt_toInt]
  · have value : (n.toInt.natAbs : Int) = n.toInt := by omega
    have read := read_integer false n.toInt.natAbs cs separated
    rw [if_neg Bool.false_ne_true, value] at read
    rw [if_neg negative]
    cases written : Nat.toDigits 10 n.toInt.natAbs with
    | nil => exact absurd written Nat.toDigits_ne_nil
    | cons c rest =>
        have digit : c.isDigit := Nat.isDigit_of_mem_toDigits (b := 10) (by decide) (by decide)
          (written ▸ List.mem_cons_self)
        rw [List.cons_append, next_digit digit, ← List.cons_append, ← written, read fits,
          Int64.ofInt_toInt]

theorem no_empty_keyword : keywords.lookup (String.ofList []) = none := by decide

theorem next_word {word : List Char} {t : Token} (upper : word.all Char.isUpper)
    (known : keywords.lookup (String.ofList word) = some t) {cs : List Char}
    (separated : Separated cs) : next? (word ++ cs) = some (t, cs) := by
  obtain ⟨front, behind⟩ := run_ends upper (by decide) separated
  have read : readWord (word ++ cs) = some (t, cs) := by
    rw [readWord, front, behind, known]
    rfl
  cases word with
  | nil =>
      rw [no_empty_keyword] at known
      cases known
  | cons c rest =>
      have first : c.isUpper := List.all_eq_true.mp upper c List.mem_cons_self
      rw [List.cons_append, next_upper first, ← List.cons_append, read]

/-- How the reader sees an escaped character: a control character without a letter of its own comes
as a 16-bit unit. -/
def partOf (c : Char) : Json.Part :=
  if c ∈ ['\x08', '\x0c', '\n', '\r', '\t'] ∨ ¬ c < ' ' then .char c else .unit c.toNat

theorem hex_value {n : Nat} (small : n < 16) : Json.hexValue? (Nat.digitChar n) = some n := by
  have all : ∀ n < 16, Json.hexValue? (Nat.digitChar n) = some n := by decide
  exact all n small

theorem control_below {c : Char} (control : c < ' ') : c.toNat < 32 := control

theorem scan_control {c : Char} (control : c < ' ') (cs : List Char) :
    Json.scanString ('\\' :: 'u' :: '0' :: '0' :: (Json.hexPair c.toNat ++ cs)) =
      (.unit c.toNat :: (Json.scanString cs).1, (Json.scanString cs).2) := by
  have below := control_below control
  have high := hex_value (n := c.toNat / 16) (by omega)
  have low := hex_value (n := c.toNat % 16) (by omega)
  have zero : Json.hexValue? '0' = some 0 := by decide
  have value : ((0 * 16 + 0) * 16 + c.toNat / 16) * 16 + c.toNat % 16 = c.toNat := by omega
  rw [Json.hexPair, List.cons_append, List.cons_append, List.nil_append, Json.scanString, zero,
    high, low]
  simp only [value]

theorem scan_plain {c : Char} (unquoted : c ≠ '"') (unescaped : c ≠ '\\') (plain : ¬ c < ' ')
    (cs : List Char) :
    Json.scanString (c :: cs) = (.char c :: (Json.scanString cs).1, (Json.scanString cs).2) := by
  rw [Json.scanString, if_neg plain]
  all_goals simp_all

theorem scan_char (c : Char) (cs : List Char) :
    Json.scanString (Json.escapeChar c ++ cs) =
      (partOf c :: (Json.scanString cs).1, (Json.scanString cs).2) := by
  unfold Json.escapeChar
  -- Seven characters have a letter of their own behind the backslash.
  iterate 7
    split
    · subst c; rfl
  split
  · rename_i control
    simp only [List.cons_append]
    rw [scan_control control, partOf, if_neg (by simp_all)]
  · rename_i unquoted unescaped _ _ _ _ _ plain
    rw [List.singleton_append, scan_plain unquoted unescaped plain, partOf, if_pos (.inr plain)]

theorem pair_part (ending : Fault) (c : Char) (parts : List Json.Part) :
    Json.pairParts ending (partOf c :: parts) = (Json.pairParts ending parts).map (c :: ·) := by
  unfold partOf
  split
  · rfl
  · rename_i control
    have below := control_below (Decidable.not_not.mp (not_or.mp control).2)
    have low : Json.isLowUnit c.toNat = false := by simp [Json.isLowUnit]; omega
    have high : Json.isHighUnit c.toNat = false := by simp [Json.isHighUnit]; omega
    rw [Json.pairParts.eq_def]
    simp [low, high, Char.ofNat_toNat]

theorem scan_escape (text cs : List Char) :
    Json.scanString (Json.escape text ++ '"' :: cs) = (text.map partOf, .ok cs) := by
  induction text with
  | nil => rfl
  | cons c rest ih =>
      rw [Json.escape, List.flatMap_cons, List.append_assoc, scan_char]
      rw [Json.escape] at ih
      rw [ih, List.map_cons]

theorem pair_text (ending : Fault) (text : List Char) :
    Json.pairParts ending (text.map partOf) = .ok text := by
  induction text with
  | nil => rfl
  | cons c rest ih => rw [List.map_cons, pair_part, ih]; rfl

theorem next_string (text : String) (cs : List Char) :
    next? (Json.quote text ++ cs) = some (.literal (.string text), cs) := by
  rw [Json.quote, List.cons_append, List.append_assoc, List.singleton_append, next?, readText,
    Json.readString, scan_escape]
  simp only [pair_text, String.ofList_toList]

theorem next_name (name : String) (cs : List Char) (separated : Separated cs) :
    next? (writeName name ++ cs) = some (.name name, cs) := by
  rw [writeName, List.cons_append, List.append_assoc, List.singleton_append, tick, next?, ← tick,
    read_name _ _ separated]
  simp

theorem next_literal (value : Literal) (cs : List Char) (separated : Separated cs) :
    next? (value.write ++ cs) = some (.literal value, cs) := by
  cases value with
  | bool b => cases b <;> exact next_word (by decide) (by decide) separated
  | number n => exact next_number n cs separated
  | string text => exact next_string text cs

theorem next_operator (op : BinaryOp) (cs : List Char) (separated : Separated cs) :
    next? (op.symbol.toList ++ cs) = some (.operator op, cs) := by
  cases op with
  | eq => rfl
  | atMost => rfl
  | atLeast => rfl
  | _ => exact next_word (by decide) (by decide) separated

theorem next_blank (cs : List Char) : next? (' ' :: cs) = none := by
  change readWord (' ' :: cs) = none
  rw [readWord, List.takeWhile_cons_of_neg (by decide), no_empty_keyword]
  rfl

-- Readers spend a step wherever they go on. More steps than there is input to read are one step
-- and as many as the input that is left.
theorem with_steps {Done : Nat → Prop} {size : Nat}
    (next : ∀ steps, size ≤ steps → Done (steps + 1)) : ∀ steps, size < steps → Done steps := by
  intro steps enough
  cases steps with
  | zero => exact absurd enough (Nat.not_lt_zero size)
  | succ steps => exact next steps (Nat.le_of_lt_succ enough)

def LexesTo (cs : List Char) (ts : List Token) : Prop :=
  ∀ steps, cs.length < steps → lexWithin steps cs = some ts

theorem LexesTo.lex {cs : List Char} {ts : List Token} (lexes : LexesTo cs ts) :
    Query.lex cs = some ts :=
  lexes _ (Nat.lt_succ_self _)

theorem lexes_nil : LexesTo [] [] := with_steps fun _ _ => rfl

theorem lexes_blank {cs : List Char} {ts : List Token} (later : LexesTo cs ts) :
    LexesTo (' ' :: cs) ts := by
  apply with_steps
  intro steps enough
  rw [lexWithin, if_pos rfl]
  exact later steps enough

theorem lexes_token {written cs : List Char} {t : Token} {ts : List Token}
    (read : next? (written ++ cs) = some (t, cs)) (some : written ≠ []) (later : LexesTo cs ts) :
    LexesTo (written ++ cs) (t :: ts) := by
  apply with_steps
  intro steps enough
  cases written with
  | nil => exact absurd rfl some
  | cons c rest =>
      -- A blank would be passed over, so no token may begin with one.
      have solid : c ≠ ' ' := by
        rintro rfl
        rw [List.cons_append, next_blank] at read
        cases read
      rw [List.cons_append] at read enough ⊢
      have tail := later steps (by simp at enough; omega)
      rw [lexWithin, if_neg solid, read]
      simp [tail]

end FilterQuery.Query
