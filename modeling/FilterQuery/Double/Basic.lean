/-!
Finite binary floating point numbers of double precision, held as exact dyadic fractions.

A number that a document writes with a point or an exponent is such a value, and so is an integer
that has to be compared with one. Comparison is exact on the fractions; only reading a decimal and
converting an integer round, and both round to the nearest double, a half going to the even one.
-/
namespace FilterQuery

namespace Double

def twoPow (k : Nat) : Nat := Nat.pow 2 k

def tenPow (k : Nat) : Nat := Nat.pow 10 k

def precision : Nat := 53

def leastFull : Nat := twoPow (precision - 1)

def leastExponent : Int := -1074

def greatestExponent : Int := 971

/-- A significand is full, unless the steps are the smallest ones. -/
def Fits (significand : Nat) (exponent : Int) : Prop :=
  significand < twoPow precision ∧ leastExponent ≤ exponent ∧ exponent ≤ greatestExponent ∧
    (leastFull ≤ significand ∨ exponent = leastExponent)

instance (significand : Nat) (exponent : Int) : Decidable (Fits significand exponent) :=
  inferInstanceAs (Decidable (_ ∧ _ ∧ _ ∧ (_ ∨ _)))

end Double

/-- The number `significand * 2 ^ exponent`, negated when `negative` holds. Zero has a sign. -/
structure Double where
  negative : Bool
  significand : Nat
  exponent : Int
  fits : Double.Fits significand exponent
deriving DecidableEq, Repr

namespace Double

def zero : Double := ⟨false, 0, leastExponent, by decide⟩

instance : Inhabited Double := ⟨zero⟩

def greatest : Double := ⟨false, twoPow precision - 1, greatestExponent, by decide⟩

def ofParts? (significand : Nat) (exponent : Int) : Option Double :=
  if fits : Fits significand exponent then some ⟨false, significand, exponent, fits⟩ else none

/-- The quotient rounded to an integer; a half goes to the even neighbour. -/
def roundDiv (num den : Nat) : Nat :=
  let quotient := num / den
  let twice := 2 * (num % den)
  if twice < den then quotient
  else if den < twice then quotient + 1
  else quotient + quotient % 2

/-- Numerator and denominator of `num / den * 2 ^ shift`. -/
def scale (num den : Nat) (shift : Int) : Nat × Nat :=
  if 0 ≤ shift then (num * twoPow shift.toNat, den) else (num, den * twoPow (-shift).toNat)

/-- The exponent at which `num / den * 2 ^ shift` fills a significand, unless it is too small. -/
def stepExponent (num den : Nat) (shift : Int) : Int :=
  -- The number lies strictly between two powers of two that are two steps apart.
  let guess := shift + num.log2 - den.log2 - 52
  let (top, bottom) := scale num den (shift - guess)
  max (if top / bottom < leastFull then guess - 1 else guess) leastExponent

/-- How many steps of `2 ^ exponent` come nearest to `num / den * 2 ^ shift`. -/
def steps (num den : Nat) (shift exponent : Int) : Nat :=
  let (top, bottom) := scale num den (shift - exponent)
  roundDiv top bottom

/-- Where rounding overruns a significand, the next exponent takes over. -/
def ofRounded? (significand : Nat) (exponent : Int) : Option Double :=
  if significand = twoPow precision then ofParts? leastFull (exponent + 1)
  else ofParts? significand exponent

/-- The double nearest to `num / den * 2 ^ shift`, none when it is beyond the largest one. -/
def nearest? (num den : Nat) (shift : Int) : Option Double :=
  if num = 0 then some zero
  else
    let exponent := stepExponent num den shift
    ofRounded? (steps num den shift exponent) exponent

def isZero (d : Double) : Bool := d.significand = 0

def neg (d : Double) : Double := { d with negative := !d.negative }

/-- A number beyond the largest double becomes that one. -/
def ofNat (n : Nat) : Double := (nearest? n 1 0).getD greatest

def ofInt (i : Int) : Double :=
  if i < 0 then (ofNat i.natAbs).neg else ofNat i.natAbs

def mul? (a b : Double) : Option Double :=
  nearest? (a.significand * b.significand) 1 (a.exponent + b.exponent)

def div? (a b : Double) : Option Double :=
  nearest? a.significand b.significand (a.exponent - b.exponent)

def powerOfTen (k : Nat) : Double := ofNat (tenPow k)

/-- The number as a multiple of `2 ^ unit`, exact when `unit` is at most the exponent. -/
def units (d : Double) (unit : Int) : Int :=
  let magnitude : Nat := d.significand * twoPow (d.exponent - unit).toNat
  if d.negative then -(magnitude : Int) else magnitude

/-- The order of the numbers denoted; the two zeros are equal. -/
def order (a b : Double) : Ordering :=
  let unit := min a.exponent b.exponent
  compare (a.units unit) (b.units unit)

end Double

end FilterQuery
