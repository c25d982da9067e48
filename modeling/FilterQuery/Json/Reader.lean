import FilterQuery.Json.Draft

/-!
Reading a JSON text into its draft.

Every reader takes the characters that are left and gives back what it read and the characters after
it. A part that stops all reading leaves nothing behind.
-/
namespace FilterQuery.Json

def isBlank (c : Char) : Bool := c = ' ' || c = '\t' || c = '\n' || c = '\r'

def skipBlanks (cs : List Char) : List Char := cs.dropWhile isBlank

def readWord : List Char → List Char → Except Fault (List Char)
  | [], cs => .ok cs
  | _ :: _, [] => .error .truncated
  | w :: ws, c :: cs => if w = c then readWord ws cs else .error .malformed

/-! The parts of a string are characters and escaped 16-bit units. They are gathered up to the closing
quote or to the place where the text breaks; units are paired into characters afterwards, since only
a reader of the value minds a unit that stands alone. -/

inductive Part where
  | char (c : Char)
  | unit (n : Nat)
deriving DecidableEq, Repr

def hexValue? (c : Char) : Option Nat :=
  if '0' ≤ c && c ≤ '9' then some (c.toNat - '0'.toNat)
  else if 'a' ≤ c && c ≤ 'f' then some (c.toNat - 'a'.toNat + 10)
  else if 'A' ≤ c && c ≤ 'F' then some (c.toNat - 'A'.toNat + 10)
  else none

def letterEscape? (c : Char) : Option Char :=
  if c = '"' || c = '\\' || c = '/' then some c
  else if c = 'b' then some '\x08'
  else if c = 'f' then some '\x0c'
  else if c = 'n' then some '\n'
  else if c = 'r' then some '\r'
  else if c = 't' then some '\t'
  else none

def bytesAhead (cs : List Char) : Nat := (String.ofList (cs.take 4)).utf8ByteSize

def scanString : List Char → List Part × Except Fault (List Char)
  | [] => ([], .error .truncated)
  | '"' :: cs => ([], .ok cs)
  | ['\\'] => ([], .error .truncated)
  | '\\' :: 'u' :: a :: b :: c :: d :: cs =>
    match hexValue? a, hexValue? b, hexValue? c, hexValue? d with
    | some a, some b, some c, some d =>
      let (parts, rest) := scanString cs
      (.unit (((a * 16 + b) * 16 + c) * 16 + d) :: parts, rest)
    | _, _, _, _ => ([], .error .malformed)
  | '\\' :: c :: cs =>
    match letterEscape? c with
    | some c =>
      let (parts, rest) := scanString cs
      (.char c :: parts, rest)
    | none =>
      -- Four bytes that are no digits are malformed; fewer are a text that ends too early.
      ([], .error (if c = 'u' && bytesAhead cs < 4 then .truncated else .malformed))
  | c :: cs =>
    if c < ' ' then ([], .error .malformed)
    else
      let (parts, rest) := scanString cs
      (.char c :: parts, rest)

def isHighUnit (n : Nat) : Bool := 0xD800 ≤ n && n ≤ 0xDBFF

def isLowUnit (n : Nat) : Bool := 0xDC00 ≤ n && n ≤ 0xDFFF

def pairUnits (high low : Nat) : Char :=
  Char.ofNat (0x10000 + (high - 0xD800) * 0x400 + (low - 0xDC00))

/-- The characters of the parts, or the fault of the first unit without a partner. A high unit at
the very end is reported as whatever ends the string there. -/
def pairParts (ending : Fault) : List Part → Except Fault (List Char)
  | [] => .ok []
  | .char c :: rest => (pairParts ending rest).map (c :: ·)
  | .unit n :: rest =>
    if isLowUnit n then .error .malformed
    else if isHighUnit n then
      match rest with
      | .unit m :: rest =>
        if isLowUnit m then (pairParts ending rest).map (pairUnits n m :: ·) else .error .malformed
      | .char _ :: _ => .error .malformed
      | [] => .error ending
    else (pairParts ending rest).map (Char.ofNat n :: ·)

def readString (cs : List Char) : Except Flaw String × List Char :=
  match scanString cs with
  | (parts, .ok rest) =>
    match pairParts .malformed parts with
    | .ok text => (.ok (String.ofList text), rest)
    | .error fault => (.error ⟨fault, none⟩, rest)
  | (parts, .error fault) =>
    match pairParts fault parts with
    | .ok _ => (.error (.fatal fault), [])
    | .error first => (.error ⟨first, some fault⟩, [])

def digit? (c : Char) : Option Nat :=
  if '0' ≤ c && c ≤ '9' then some (c.toNat - '0'.toNat) else none

def spanDigits : List Char → List Nat × List Char
  | [] => ([], [])
  | c :: cs =>
    match digit? c with
    | some d =>
      let (digits, rest) := spanDigits cs
      (d :: digits, rest)
    | none => ([], c :: cs)

/-- A number that the text cuts short is truncated for its reader; who skips it only sees a number
without the digits it needs. -/
def missingDigits : List Char → Flaw
  | [] => ⟨.truncated, some .malformed⟩
  | _ :: _ => .fatal .malformed

def readWhole (cs : List Char) : Except Flaw (List Nat × List Char) :=
  match spanDigits cs with
  | ([], rest) => .error (missingDigits rest)
  | (0 :: _ :: _, _) => .error (.fatal .malformed)
  | (digits, rest) => .ok (digits, rest)

def readFraction : List Char → Except Flaw (Option (List Nat) × List Char)
  | '.' :: cs =>
    match spanDigits cs with
    | ([], rest) => .error (missingDigits rest)
    | (digits, rest) => .ok (some digits, rest)
  | cs => .ok (none, cs)

def readSign : List Char → Bool × List Char
  | '+' :: cs => (false, cs)
  | '-' :: cs => (true, cs)
  | cs => (false, cs)

def readExponent : List Char → Except Flaw (Option Int × List Char)
  | [] => .ok (none, [])
  | c :: cs =>
    if c = 'e' || c = 'E' then
      let (negative, cs) := readSign cs
      match spanDigits cs with
      | ([], rest) => .error (missingDigits rest)
      | (digits, rest) =>
        let n : Int := Number.ofDigits digits
        .ok (some (if negative then -n else n), rest)
    else .ok (none, c :: cs)

def readDecimal (cs : List Char) : Except Flaw (Number.Decimal × List Char) := do
  let (negative, cs) :=
    match cs with
    | '-' :: cs => (true, cs)
    | cs => (false, cs)
  let (whole, cs) ← readWhole cs
  let (fraction, cs) ← readFraction cs
  let (exponent, cs) ← readExponent cs
  return (⟨negative, whole, fraction, exponent⟩, cs)

/-- A number. One that is out of range spoils only the reading of its value. -/
def readNumber (cs : List Char) : Draft × List Char :=
  match readDecimal cs with
  | .ok (decimal, rest) =>
    match Number.ofDecimal decimal with
    | some n => (.number n, rest)
    | none => (.flawed .other ⟨.malformed, none⟩, rest)
  | .error flaw => (.flawed .other flaw, [])

def readLiteral (word : String) (value : Draft) (cs : List Char) : Draft × List Char :=
  match readWord word.toList cs with
  | .ok rest => (value, rest)
  | .error fault => (.flawed .other (.fatal fault), [])

def faultAt : List Char → Fault
  | [] => .truncated
  | _ :: _ => .malformed

mutual
def readValue : Nat → List Char → Draft × List Char
  | 0, _ => (.flawed .other (.fatal .malformed), [])
  | fuel + 1, cs =>
    match skipBlanks cs with
    | [] => (.flawed .nothing (.fatal .truncated), [])
    | 'n' :: cs => readLiteral "ull" .null cs
    | 't' :: cs => readLiteral "rue" (.bool true) cs
    | 'f' :: cs => readLiteral "alse" (.bool false) cs
    | '"' :: cs =>
      match readString cs with
      | (.ok text, rest) => (.string text, rest)
      | (.error flaw, rest) => (.flawed .string flaw, rest)
    | '[' :: cs =>
      match skipBlanks cs with
      | ']' :: rest => (.array [] none, rest)
      | [] => (.array [] (some .truncated), [])
      | cs =>
        let (items, stop, rest) := readItems fuel cs
        (.array items stop, rest)
    | '\x7b' :: cs =>
      match skipBlanks cs with
      | '\x7d' :: rest => (.object [] none, rest)
      | '"' :: cs =>
        let (members, stop, rest) := readMembers fuel cs
        (.object members stop, rest)
      | cs => (.object [] (some (faultAt cs)), [])
    | c :: cs =>
      if c = '-' || (digit? c).isSome then readNumber (c :: cs)
      else (.flawed .other (.fatal .malformed), [])

def readItems : Nat → List Char → List Draft × Option Fault × List Char
  | 0, _ => ([], some .malformed, [])
  | fuel + 1, cs =>
    let (item, cs) := readValue fuel cs
    match skipBlanks cs with
    | ']' :: rest => ([item], none, rest)
    | ',' :: cs =>
      let (items, stop, rest) := readItems fuel cs
      (item :: items, stop, rest)
    | cs => ([item], some (faultAt cs), [])

/-- Members up to the closing brace, from behind the opening quote of a name. -/
def readMembers : Nat → List Char → List (Key × Draft) × Option Fault × List Char
  | 0, _ => ([], some .malformed, [])
  | fuel + 1, cs =>
    let (name, cs) := readString cs
    let key := match name with
      | .ok text => Key.name text
      | .error flaw => Key.flawed flaw
    let (value, cs) :=
      match skipBlanks cs with
      | ':' :: cs => readValue fuel cs
      | cs => (.flawed .nothing (.fatal (faultAt cs)), [])
    match skipBlanks cs with
    | '\x7d' :: rest => ([(key, value)], none, rest)
    | ',' :: cs =>
      match skipBlanks cs with
      | '"' :: cs =>
        let (members, stop, rest) := readMembers fuel cs
        ((key, value) :: members, stop, rest)
      | cs =>
        let flaw := Flaw.fatal (faultAt cs)
        ([(key, value), (.flawed flaw, .flawed .nothing flaw)], none, [])
    | cs => ([(key, value)], some (faultAt cs), [])
end

/-- The draft of a text and what stands behind its value. A text of `n` characters takes no more than
`2 * n + 2` steps. -/
def readDraft (cs : List Char) : Draft × List Char := readValue (2 * cs.length + 2) cs

def endFault (rest : List Char) : Except Fault Unit :=
  if (skipBlanks rest).isEmpty then .ok () else .error .malformed

def textLevels : Nat := 127

def ofText? (s : String) : Option Json :=
  let (draft, rest) := readDraft s.toList
  match draft.value s.length, endFault rest with
  | .ok value, .ok () => some value
  | _, _ => none

end FilterQuery.Json
