import FilterQuery.Proofs.QueryTokens

/-!
A reader of query text. Operators bind by levels: *or*, *and*, *not*, the comparisons and the test
for presence, from loose to tight, those of one level from the left. The text of an expression has
no parentheses but those of the expression, so reading it gives the expression back where every
operand binds more tightly than its operator, or as tightly on the left of it.
-/
namespace FilterQuery

def BinaryOp.level : BinaryOp → Nat
  | .or => 1
  | .and => 2
  | _ => 4

namespace Query

def loosest : Nat := 1

def notLevel : Nat := 3

def presenceLevel : Nat := 5

/-- How tightly an expression is held together at its root. -/
def level : Expr → Nat
  | .binary _ op _ => op.level
  | .not _ => notLevel
  | .isNotMissing _ => presenceLevel
  | _ => 6

theorem loosest_le (e : Expr) : loosest ≤ level e := by
  cases e with
  | binary left op right => cases op <;> simp [level, BinaryOp.level, loosest]
  | _ => simp [level, loosest, notLevel, presenceLevel]

def expect (t : Token) : List Token → Option (List Token)
  | [] => none
  | u :: rest => if u = t then some rest else none

def readItems : List Token → Option (List Literal × List Token)
  | .literal value :: .listClosing :: rest => some ([value], rest)
  | .literal value :: .comma :: rest =>
    (readItems rest).map fun (items, rest) => (value :: items, rest)
  | _ => none

def readList : List Token → Option (List Literal × List Token)
  | .listClosing :: rest => some ([], rest)
  | ts => readItems ts

def readOperand (sub : Nat → List Token → Option (Expr × List Token)) (least : Nat) :
    List Token → Option (Expr × List Token)
  | .name text :: rest => some (.path text, rest)
  | .literal value :: rest => some (.literal value, rest)
  | .listOpening :: rest => (readList rest).map fun (items, rest) => (.array items, rest)
  | .opening :: rest => do
    let (inner, rest) ← sub loosest rest
    let rest ← expect .closing rest
    return (.grouped inner, rest)
  | .lower :: .opening :: rest => do
    let (inner, rest) ← sub loosest rest
    let rest ← expect .closing rest
    return (.lower inner, rest)
  | .any :: .name element :: .operator .isIn :: rest => do
    let (source, rest) ← sub loosest rest
    let rest ← expect .satisfies rest
    let (condition, rest) ← sub loosest rest
    let rest ← expect .done rest
    return (.any element source condition, rest)
  | .negation :: rest =>
    if least ≤ notLevel then do
      let (operand, rest) ← sub notLevel rest
      return (.not operand, rest)
    else none
  | _ => none

mutual
def readAt : Nat → Nat → List Token → Option (Expr × List Token)
  | 0, _, _ => none
  | steps + 1, least, ts => do
    let (first, rest) ← readOperand (readAt steps) least ts
    extend steps least first rest

/-- Takes operators behind an expression as long as they are at least of the level. -/
def extend : Nat → Nat → Expr → List Token → Option (Expr × List Token)
  | 0, _, _, _ => none
  | steps + 1, least, left, .operator op :: rest =>
    if least ≤ op.level then do
      let (right, rest) ← readAt steps (op.level + 1) rest
      extend steps least (.binary left op right) rest
    else some (left, .operator op :: rest)
  | steps + 1, least, left, .is :: .negation :: .missing :: rest =>
    if least ≤ presenceLevel then extend steps least (.isNotMissing left) rest
    else some (left, .is :: .negation :: .missing :: rest)
  | _ + 1, _, left, rest => some (left, rest)
end

def read? (text : String) : Option Expr := do
  let ts ← lex text.toList
  match readAt (ts.length + 1) loosest ts with
  | some (e, []) => some e
  | _ => none

def itemTokens : List Literal → List Token
  | [] => []
  | [value] => [.literal value]
  | value :: rest => .literal value :: .comma :: itemTokens rest

mutual
def tokens : Expr → List Token
  | .path name => [.name name]
  | .literal value => [.literal value]
  | .array items => .listOpening :: (itemTokens items ++ [.listClosing])
  | .binary left op right => tokens left ++ .operator op :: tokens right
  | .not operand => .negation :: tokens operand
  | .isNotMissing operand => tokens operand ++ [.is, .negation, .missing]
  | .any element source condition =>
    .any :: .name element :: .operator .isIn ::
      (tokens source ++ .satisfies :: (tokens condition ++ [.done]))
  | .call _ args => .lower :: .opening :: (firstTokens args ++ [.closing])
  | .grouped inner => .opening :: (tokens inner ++ [.closing])

def firstTokens : List Expr → List Token
  | [] => []
  | arg :: _ => tokens arg
end

/-- Expressions whose text needs no parentheses besides their own. -/
inductive WellGrouped : Expr → Prop where
  | path (name : String) : WellGrouped (.path name)
  | literal (value : Literal) : WellGrouped (.literal value)
  | array (items : List Literal) : WellGrouped (.array items)
  | binary {left right : Expr} {op : BinaryOp} (first : WellGrouped left)
      (second : WellGrouped right) (fits : op.level ≤ level left) (binds : op.level < level right) :
      WellGrouped (.binary left op right)
  | not {operand : Expr} (inner : WellGrouped operand) (fits : notLevel ≤ level operand) :
      WellGrouped (.not operand)
  | isNotMissing {operand : Expr} (inner : WellGrouped operand)
      (fits : presenceLevel ≤ level operand) : WellGrouped (.isNotMissing operand)
  | any {element : String} {source condition : Expr} (outer : WellGrouped source)
      (inner : WellGrouped condition) : WellGrouped (.any element source condition)
  | lower {inner : Expr} (part : WellGrouped inner) : WellGrouped (.lower inner)
  | grouped {inner : Expr} (part : WellGrouped inner) : WellGrouped (.grouped inner)

section Written

variable (left right inner : Expr)

theorem write_array (items : List Literal) :
    (Expr.array items).write = '[' :: (commaSeparated (items.map Literal.write) ++ [']']) := rfl

theorem write_binary (op : BinaryOp) :
    (Expr.binary left op right).write =
      left.write ++ ' ' :: (op.symbol.toList ++ ' ' :: right.write) := rfl

theorem write_not : (Expr.not inner).write = "NOT ".toList ++ inner.write := rfl

theorem write_isNotMissing :
    (Expr.isNotMissing inner).write = inner.write ++ " IS NOT MISSING".toList := rfl

theorem write_any (element : String) :
    (Expr.any element left right).write =
      "ANY ".toList ++ writeName element ++ " IN ".toList ++ left.write ++
        " SATISFIES ".toList ++ right.write ++ " END".toList := rfl

theorem write_lower : (Expr.lower inner).write = "LOWER".toList ++ '(' :: (inner.write ++ [')']) :=
  rfl

theorem write_grouped : (Expr.grouped inner).write = '(' :: (inner.write ++ [')']) := rfl

end Written

section Text

variable {cs : List Char} {ts : List Token}

theorem lexes_mark {c : Char} {t : Token} (known : mark? c = some t) (later : LexesTo cs ts) :
    LexesTo (c :: cs) (t :: ts) := by
  have marked : LexesTo ([c] ++ cs) (t :: ts) :=
    lexes_token (next_mark known cs) (by simp) later
  exact marked

theorem lexes_name (name : String) (separated : Separated cs) (later : LexesTo cs ts) :
    LexesTo (writeName name ++ cs) (.name name :: ts) :=
  lexes_token (next_name name cs separated) (by simp [writeName]) later

theorem literal_written (value : Literal) : value.write ≠ [] := by
  cases value with
  | bool b => cases b <;> decide
  | number n =>
      rw [Literal.write, toString_digits]
      split
      · simp
      · exact Nat.toDigits_ne_nil
  | string text => simp [Literal.write, Json.quote]

theorem lexes_literal (value : Literal) (separated : Separated cs) (later : LexesTo cs ts) :
    LexesTo (value.write ++ cs) (.literal value :: ts) :=
  lexes_token (next_literal value cs separated) (literal_written value) later

theorem lexes_operator (op : BinaryOp) (separated : Separated cs) (later : LexesTo cs ts) :
    LexesTo (op.symbol.toList ++ cs) (.operator op :: ts) :=
  lexes_token (next_operator op cs separated) (by cases op <;> decide) later

theorem lexes_items (items : List Literal) (later : LexesTo cs ts) :
    LexesTo (commaSeparated (items.map Literal.write) ++ ']' :: cs)
      (itemTokens items ++ .listClosing :: ts) := by
  have closed : LexesTo (']' :: cs) (.listClosing :: ts) := lexes_mark rfl later
  induction items with
  | nil => exact closed
  | cons value rest ih =>
      cases rest with
      | nil => exact lexes_literal value (separated_cons cs (by decide)) closed
      | cons next rest =>
          have tail := lexes_mark (c := ',') rfl (lexes_blank ih)
          have head := lexes_literal value (separated_cons _ (by decide)) tail
          simp only [List.map_cons, commaSeparated, itemTokens, List.append_assoc, List.cons_append]
          exact head

theorem lexes_word (word : List Char) {t : Token} (upper : word.all Char.isUpper)
    (known : keywords.lookup (String.ofList word) = some t) (separated : Separated cs)
    (later : LexesTo cs ts) : LexesTo (word ++ cs) (t :: ts) := by
  refine lexes_token (next_word upper known separated) ?_ later
  rintro rfl
  rw [no_empty_keyword] at known
  cases known

-- The text is put together from its end, so that every token stands in front of a text that has
-- its tokens already.
theorem lexes_expr {e : Expr} (well : WellGrouped e) (separated : Separated cs)
    (later : LexesTo cs ts) : LexesTo (e.write ++ cs) (tokens e ++ ts) := by
  induction well generalizing cs ts with
  | path name => exact lexes_name name separated later
  | literal value => exact lexes_literal value separated later
  | array items =>
      have whole := lexes_mark (c := '[') rfl (lexes_items items later)
      rw [write_array, tokens, List.cons_append, List.cons_append, List.append_assoc,
        List.append_assoc]
      exact whole
  | @binary left right op _ _ _ _ first second =>
      have behind := lexes_blank (second separated later)
      have middle := lexes_blank (lexes_operator op (separated_blank _) behind)
      have whole := first (separated_blank _) middle
      rw [write_binary, tokens, List.append_assoc, List.append_assoc, List.cons_append,
        List.append_assoc]
      exact whole
  | @not operand _ _ inner =>
      have behind := lexes_blank (inner separated later)
      have whole := lexes_word "NOT".toList (by decide) rfl (separated_blank _) behind
      rw [write_not, tokens, List.append_assoc]
      exact whole
  | @isNotMissing operand _ _ inner =>
      have missing := lexes_word "MISSING".toList (by decide) rfl separated later
      have negation := lexes_word "NOT".toList (by decide) rfl (separated_blank _)
        (lexes_blank missing)
      have test := lexes_word "IS".toList (by decide) rfl (separated_blank _) (lexes_blank negation)
      have whole := inner (separated_blank _) (lexes_blank test)
      rw [write_isNotMissing, tokens, List.append_assoc, List.append_assoc]
      exact whole
  | @any element source condition _ _ outer inner =>
      have done := lexes_word "END".toList (by decide) rfl separated later
      have tested := inner (separated_blank _) (lexes_blank done)
      have satisfies := lexes_word "SATISFIES".toList (by decide) rfl (separated_blank _)
        (lexes_blank tested)
      have searched := outer (separated_blank _) (lexes_blank satisfies)
      have within := lexes_operator .isIn (separated_blank _) (lexes_blank searched)
      have named := lexes_name element (separated_blank _) (lexes_blank within)
      have whole := lexes_word "ANY".toList (by decide) rfl (separated_blank _) (lexes_blank named)
      rw [write_any, tokens]
      simp only [List.append_assoc, List.cons_append, List.nil_append]
      exact whole
  | @lower inner _ part =>
      have closed := lexes_mark (c := ')') rfl later
      have opened := lexes_mark (c := '(') rfl (part (separated_cons cs (by decide)) closed)
      have whole := lexes_word "LOWER".toList (by decide) rfl (separated_cons _ (by decide)) opened
      rw [write_lower, Expr.lower, tokens, firstTokens, List.append_assoc, List.cons_append,
        List.cons_append, List.cons_append, List.append_assoc, List.append_assoc]
      exact whole
  | @grouped inner _ part =>
      have closed := lexes_mark (c := ')') rfl later
      have whole := lexes_mark (c := '(') rfl (part (separated_cons cs (by decide)) closed)
      rw [write_grouped, tokens, List.cons_append, List.cons_append, List.append_assoc,
        List.append_assoc]
      exact whole

end Text

def Reads (least : Nat) (ts : List Token) (result : Expr × List Token) : Prop :=
  ∀ steps, ts.length < steps → readAt steps least ts = some result

def Extends (least : Nat) (left : Expr) (ts : List Token) (result : Expr × List Token) : Prop :=
  ∀ steps, ts.length < steps → extend steps least left ts = some result

def ahead : List Token → Nat
  | .operator op :: _ => op.level
  | .is :: .negation :: .missing :: _ => presenceLevel
  | _ => 0

section Reading

variable {least : Nat} {ts rest : List Token} {left right first : Expr}
  {result : Expr × List Token}

theorem extends_stop (looser : ahead rest < least) : Extends least left rest (left, rest) := by
  apply with_steps
  intro steps _
  unfold extend
  split
  case h_1 impossible _ => cases impossible
  case h_2 => exact if_neg (Nat.not_le_of_lt looser)
  case h_3 => exact if_neg (Nat.not_le_of_lt looser)
  case h_4 => rfl

theorem extends_end (t : Token) (rest : List Token) (ends : ahead (t :: rest) = 0) :
    Extends loosest left (t :: rest) (left, t :: rest) :=
  extends_stop (by rw [ends]; decide)

theorem extends_operator {op : BinaryOp} (fits : least ≤ op.level)
    (second : Reads (op.level + 1) (ts ++ rest) (right, rest))
    (later : Extends least (.binary left op right) rest result) :
    Extends least left (.operator op :: (ts ++ rest)) result := by
  apply with_steps
  intro steps enough
  have read := second steps enough
  have extended := later steps (by simp at enough; omega)
  rw [extend, if_pos fits, read]
  exact extended

theorem extends_presence (fits : least ≤ presenceLevel)
    (later : Extends least (.isNotMissing left) rest result) :
    Extends least left (.is :: .negation :: .missing :: rest) result := by
  apply with_steps
  intro steps enough
  rw [extend, if_pos fits]
  exact later steps (by simp at enough; omega)

theorem reads_operand
    (operand : ∀ steps, ts.length ≤ steps →
      readOperand (readAt steps) least ts = some (first, rest))
    (shorter : rest.length < ts.length) (later : Extends least first rest result) :
    Reads least ts result := by
  apply with_steps
  intro steps enough
  rw [readAt, operand steps enough]
  exact later steps (by omega)

theorem read_items (value : Literal) (items : List Literal) (rest : List Token) :
    readItems (itemTokens (value :: items) ++ .listClosing :: rest) =
      some (value :: items, rest) := by
  induction items generalizing value with
  | nil => rfl
  | cons next items ih =>
      rw [itemTokens, List.cons_append, List.cons_append, readItems, ih]
      · rfl
      · simp

theorem read_list (items : List Literal) :
    readList (itemTokens items ++ .listClosing :: rest) = some (items, rest) := by
  cases items with
  | nil => rfl
  | cons value items =>
      have read := read_items value items rest
      cases items <;> exact read

theorem ahead_ne_not (ts : List Token) : ahead ts ≠ notLevel := by
  unfold ahead
  split
  · rename_i op rest
    cases op <;> decide
  · decide
  · decide

theorem tokens_shorter (e : Expr) (rest : List Token) :
    rest.length < (tokens e ++ rest).length := by
  cases e <;> simp only [tokens, List.length_append, List.length_cons, List.length_nil] <;> omega

-- An operand on the left of an operator is read first and extended then, so the induction carries
-- any extension of the expression and not just the expression.
theorem reads_expr {e : Expr} (well : WellGrouped e) (fits : least ≤ level e)
    (ends : ahead rest ≤ level e) (later : Extends least e rest result) :
    Reads least (tokens e ++ rest) result := by
  induction well generalizing least rest result with
  | path name => exact reads_operand (fun _ _ => rfl) (tokens_shorter _ rest) later
  | literal value => exact reads_operand (fun _ _ => rfl) (tokens_shorter _ rest) later
  | array items =>
      refine reads_operand (fun _ _ => ?_) (tokens_shorter _ rest) later
      rw [tokens, List.cons_append, List.append_assoc, readOperand]
      exact congrArg _ (read_list items)
  | @binary left right op _ _ fitsLeft binds first second =>
      -- The right operand ends in front of whatever binds no more tightly than the operator.
      have stop : Extends (op.level + 1) right rest (right, rest) :=
        extends_stop (Nat.lt_succ_of_le ends)
      have read := second binds (Nat.le_of_lt (Nat.lt_of_le_of_lt ends binds)) stop
      have whole : Reads least (tokens left ++ .operator op :: (tokens right ++ rest)) result :=
        first (Nat.le_trans fits fitsLeft) fitsLeft (extends_operator fits read later)
      rw [tokens, List.append_assoc]
      exact whole
  | @not operand _ fitsOperand inner =>
      -- No operator has the level of *not*, so what does not exceed it ends the operand.
      have stop : Extends notLevel operand rest (operand, rest) :=
        extends_stop (Nat.lt_of_le_of_ne ends (ahead_ne_not rest))
      have read := inner fitsOperand (Nat.le_trans ends fitsOperand) stop
      refine reads_operand (fun steps enough => ?_) (tokens_shorter _ rest) later
      have allowed : least ≤ notLevel := fits
      rw [tokens, List.cons_append] at enough ⊢
      rw [readOperand, if_pos allowed, read steps enough]
      rfl
  | @isNotMissing operand _ fitsOperand inner =>
      have whole : Reads least (tokens operand ++ .is :: .negation :: .missing :: rest) result :=
        inner (Nat.le_trans fits fitsOperand) fitsOperand (extends_presence fits later)
      rw [tokens, List.append_assoc]
      exact whole
  | @any element source condition _ _ outer inner =>
      have tested := inner (loosest_le condition) (Nat.zero_le _)
        (extends_end .done rest rfl)
      have searched := outer (loosest_le source) (Nat.zero_le _)
        (extends_end .satisfies (tokens condition ++ .done :: rest) rfl)
      refine reads_operand (fun steps enough => ?_) (tokens_shorter _ rest) later
      simp only [tokens, List.cons_append, List.append_assoc, List.nil_append] at enough ⊢
      rw [readOperand, searched steps (by simp at enough ⊢; omega)]
      simp only [Option.bind_eq_bind, Option.bind_some, expect, if_true]
      rw [tested steps (by simp at enough ⊢; omega)]
      rfl
  | @lower inner _ part =>
      have read := part (loosest_le inner) (Nat.zero_le _)
        (extends_end .closing rest rfl)
      refine reads_operand (fun steps enough => ?_) (tokens_shorter _ rest) later
      simp only [Expr.lower, tokens, firstTokens, List.cons_append, List.append_assoc,
        List.nil_append] at enough ⊢
      rw [readOperand, read steps (by simp at enough ⊢; omega)]
      rfl
  | @grouped inner _ part =>
      have read := part (loosest_le inner) (Nat.zero_le _)
        (extends_end .closing rest rfl)
      refine reads_operand (fun steps enough => ?_) (tokens_shorter _ rest) later
      simp only [tokens, List.cons_append, List.append_assoc, List.nil_append] at enough ⊢
      rw [readOperand, read steps enough]
      rfl

end Reading

/-- A well grouped expression is what its text is read as. -/
theorem read_text {e : Expr} (well : WellGrouped e) : read? e.text = some e := by
  have lexed : lex e.write = some (tokens e) := by
    have whole := (lexes_expr well separated_nil lexes_nil).lex
    rwa [List.append_nil, List.append_nil] at whole
  have stop : Extends loosest e [] (e, []) := extends_stop (by decide)
  have read := reads_expr well (loosest_le e) (Nat.zero_le _) stop
  rw [List.append_nil] at read
  rw [read?, Expr.text, String.toList_ofList, lexed]
  simp only [Option.bind_eq_bind, Option.bind_some, read _ (Nat.lt_succ_self _)]

/-- A *not* on the left of a comparison is not well grouped: it is read as taking the whole. -/
example : read? (Expr.eq (.not (.path "a")) (.path "b")).text =
    some (.not (.eq (.path "a") (.path "b"))) := by rfl

end Query

end FilterQuery
