import FilterQuery.Double.Basic

/-!
Numbers of a document. An integer of 64 bits is kept exactly; every other number is a double.
-/
namespace FilterQuery

namespace Number

def wordCount : Nat := 18446744073709551616

/-- The integers that a word of 64 bits holds, with a sign or without one. -/
def IsWord (i : Int) : Prop := -9223372036854775808 ≤ i ∧ i < wordCount

instance (i : Int) : Decidable (IsWord i) := inferInstanceAs (Decidable (_ ∧ _))

end Number

inductive Number where
  | int (value : Int) {word : Number.IsWord value}
  | float (value : Double)
deriving DecidableEq, Repr

namespace Number

instance : Inhabited Number := ⟨.float default⟩

def word? (i : Int) : Option Number :=
  if word : IsWord i then some (@Number.int i word) else none

/-- An integer that no word holds becomes a double. -/
def ofInt (i : Int) : Number := (word? i).getD (.float (Double.ofInt i))

theorem ofInt_of_word {i : Int} (word : IsWord i) : ofInt i = @int i word := by
  simp [ofInt, word?, word]

/-- Integers from `-2 ^ 63` up to but not including `2 ^ 63` are signed words. Those above are
unsigned ones. -/
def inSignedRange (i : Int) : Bool := -9223372036854775808 ≤ i && i < 9223372036854775808

def inHalfRange (i : Int) : Bool := -2147483648 ≤ i && i < 2147483648

theorem signed_range (n : Int64) : inSignedRange n.toInt := by
  have range := And.intro n.le_toInt n.toInt_lt
  simpa [inSignedRange] using range

theorem half_range (n : Int32) : inHalfRange n.toInt := by
  have range := And.intro n.le_toInt n.toInt_lt
  simpa [inHalfRange] using range

theorem word_of_signed {i : Int} (signed : inSignedRange i) : IsWord i := by
  simp only [inSignedRange, Bool.and_eq_true, decide_eq_true_eq] at signed
  unfold IsWord wordCount
  omega

theorem word_of_half {i : Int} (half : inHalfRange i) : IsWord i := by
  simp only [inHalfRange, Bool.and_eq_true, decide_eq_true_eq] at half
  unfold IsWord wordCount
  omega

def signed? : Number → Option Int
  | .int i => if inSignedRange i then some i else none
  | .float _ => none

def toDouble : Number → Double
  | .int i => Double.ofInt i
  | .float d => d

/-- Two signed words are ordered as integers; any other pair is ordered as doubles. -/
def order (a b : Number) : Ordering :=
  match a.signed?, b.signed? with
  | some i, some j => compare i j
  | _, _ => a.toDouble.order b.toDouble

/-- Numbers inside arrays and objects: an integer never equals a double there. -/
def same : Number → Number → Bool
  | .int i, .int j => i == j
  | .float a, .float b => a.order b == .eq
  | _, _ => false

/-! The digits of a decimal are gathered into one word while they fit; that word is then scaled by a
power of ten, each step rounding once. -/

/-- Appends digits to a word while it stays below `2 ^ 64`; the digits from the first that does not
fit are left over, and their number is returned. -/
def absorb : Nat → List Nat → Nat × Nat
  | word, [] => (word, 0)
  | word, digit :: rest =>
    if word * 10 + digit < wordCount then absorb (word * 10 + digit) rest
    else (word, rest.length + 1)

/-- Divides by `10 ^ k`, by steps of `10 ^ 308` as long as something is left to divide. -/
def scaleDown (d : Double) (k : Nat) : Option Double :=
  if k ≤ 308 then d.div? (Double.powerOfTen k)
  else if d.isZero then some d
  else do
    let divided ← d.div? (Double.powerOfTen 308)
    scaleDown divided (k - 308)
termination_by k

def scaled (word : Nat) (power : Int) : Option Double :=
  let d := Double.ofNat word
  if power < 0 then scaleDown d power.natAbs
  else if 308 < power then if d.isZero then some d else none
  else d.mul? (Double.powerOfTen power.toNat)

structure Decimal where
  negative : Bool
  whole : List Nat
  fraction : Option (List Nat)
  exponent : Option Int
deriving DecidableEq, Repr

def ofDigits (digits : List Nat) : Nat := digits.foldl (fun n d => n * 10 + d) 0

/-- A decimal without point and exponent is an integer. A negative zero is not, since no word has
that sign. -/
def Decimal.integer? (d : Decimal) : Option Int :=
  match d.fraction, d.exponent with
  | none, none =>
    let n := ofDigits d.whole
    if !d.negative then some n else if 0 < n then some (-n) else none
  | _, _ => none

def Decimal.double? (d : Decimal) : Option Double :=
  let (word, dropped) := absorb 0 d.whole
  let fraction := d.fraction.getD []
  let (word, unread) := absorb word fraction
  let power : Int := dropped - (fraction.length - unread : Nat) + d.exponent.getD 0
  (scaled word power).map fun m => if d.negative then m.neg else m

/-- The number that a decimal denotes, none when it is out of range. An integer that a word holds is
kept as it is. -/
def ofDecimal (d : Decimal) : Option Number :=
  match d.integer?.bind word? with
  | some number => some number
  | none => d.double?.map .float

theorem ofDecimal_integer {d : Decimal} {i : Int} (whole : d.integer? = some i) (word : IsWord i) :
    ofDecimal d = some (@int i word) := by
  rw [ofDecimal, whole, Option.bind_some, word?, dif_pos word]

end Number

end FilterQuery
