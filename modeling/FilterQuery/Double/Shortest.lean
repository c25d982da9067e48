import FilterQuery.Double.Basic

/-!
The shortest decimal text of a double.

A decimal reads back as a double when it lies in the interval of numbers that round to it. The
digits written are the fewest that lie in that interval and, of those, the nearest to the number.
-/
namespace FilterQuery.Double

/-- Twice the number, and twice the two ends of the interval that rounds to it, in quarter steps:
numerators over one denominator. The lower step is half as wide below a power of two. -/
structure Interval where
  low : Nat
  value : Nat
  high : Nat
  den : Nat
  closed : Bool

def interval (d : Double) : Interval :=
  let narrow := d.significand = leastFull ∧ leastExponent < d.exponent
  let value := 4 * d.significand
  let low := if narrow then value - 1 else value - 2
  let (one, den) := scale 1 4 d.exponent
  ⟨low * one, value * one, (value + 2) * one, den, d.significand % 2 = 0⟩

/-- Whether `digits * 10 ^ power` reads back as the number. -/
def Interval.holds (i : Interval) (digits : Nat) (power : Int) : Bool :=
  let left := if 0 ≤ power then digits * tenPow power.toNat * i.den else digits * i.den
  let factor := if 0 ≤ power then 1 else tenPow (-power).toNat
  if i.closed then i.low * factor ≤ left && left ≤ i.high * factor
  else i.low * factor < left && left < i.high * factor

def Interval.grid (i : Interval) (power : Int) : Nat × Nat × Nat :=
  let num := if 0 ≤ power then i.value else i.value * tenPow (-power).toNat
  let den := if 0 ≤ power then i.den * tenPow power.toNat else i.den
  (num / den, 2 * (num % den), den)

/-- The neighbour on the grid of `10 ^ power` that reads back and is nearest, if one does. -/
def Interval.onGrid (i : Interval) (power : Int) : Option Nat :=
  let (below, twice, den) := i.grid power
  let nearer := if twice < den then below else if den < twice then below + 1 else below + below % 2
  let farther := if nearer = below then below + 1 else below
  if i.holds nearer power then some nearer
  else if i.holds farther power then some farther
  else none

def Interval.search (i : Interval) : Nat → Int → Nat × Int
  | 0, power => ((i.grid power).1, power)
  | fuel + 1, power =>
    match i.onGrid power with
    | some digits => (digits, power)
    | none => i.search fuel (power - 1)

def trimZeros : Nat → Nat → Int → Nat × Int
  | 0, digits, power => (digits, power)
  | fuel + 1, digits, power =>
    if digits ≠ 0 ∧ digits % 10 = 0 then trimZeros fuel (digits / 10) (power + 1)
    else (digits, power)

def shortest (d : Double) : Nat × Int :=
  let i := d.interval
  -- No double needs more than 17 digits, so 20 grids below its leading power of ten suffice.
  let size : Int := ((i.value / i.den).log2 : Int) - ((i.den / (i.value + 1)).log2 : Int)
  let power := (size * 30103).fdiv 100000 + 2
  let (digits, power) := i.search 24 power
  trimZeros 24 digits power

def positionalDigits : Int := 16

def positionalZeros : Int := 5

def exponentText (e : Int) : List Char :=
  'e' :: (if e < 0 then '-' else '+') :: (toString e.natAbs).toList

/-- The text of a double. Numbers of middling size are written in full and always with a point,
others with an exponent of ten. -/
def text (d : Double) : String :=
  let sign := if d.negative then "-" else ""
  if d.isZero then sign ++ "0.0"
  else
    let (digits, power) := d.shortest
    let written := (toString digits).toList
    let count : Int := written.length
    let point := count + power
    let body :=
      if 0 ≤ power ∧ point ≤ positionalDigits then
        written ++ List.replicate power.toNat '0' ++ ['.', '0']
      else if 0 < point ∧ point ≤ positionalDigits then
        written.take point.toNat ++ '.' :: written.drop point.toNat
      else if -positionalZeros < point ∧ point ≤ 0 then
        '0' :: '.' :: List.replicate (-point).toNat '0' ++ written
      else
        let rest := written.drop 1
        let mantissa := written.take 1 ++ if rest.isEmpty then [] else '.' :: rest
        mantissa ++ exponentText (point - 1)
    sign ++ String.ofList body

end FilterQuery.Double
