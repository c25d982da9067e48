import FilterQuery.Json.Basic

/-!
The draft of a JSON text: everything that was read up to the first place where reading cannot go on.

What a reader reports depends on which of two mistakes it meets first, one in the text or one in the
shape that it expects. A draft keeps the mistakes of the text in their places, so a reader that
walks it in reading order meets both kinds as they come. Some mistakes matter only to a reader that
wants the value; one that skips it goes on.
-/
namespace FilterQuery

inductive Fault where
  | malformed
  | truncated
deriving DecidableEq, Repr, Inhabited

/-- What a flawed part means: the fault for a reader of the value, and for one that skips it. -/
structure Flaw where
  reading : Fault
  skipping : Option Fault
deriving DecidableEq, Repr, Inhabited

def Flaw.fatal (fault : Fault) : Flaw := ⟨fault, some fault⟩

inductive Opening where
  | nothing
  | string
  | other
deriving DecidableEq, Repr, Inhabited

inductive Key where
  | name (text : String)
  | flawed (flaw : Flaw)
deriving DecidableEq, Repr, Inhabited

/-- `stop` says why an array or object has no closing bracket. -/
inductive Draft where
  | null
  | bool (value : Bool)
  | number (value : Number)
  | string (text : String)
  | flawed (opening : Opening) (flaw : Flaw)
  | array (items : List Draft) (stop : Option Fault)
  | object (members : List (Key × Draft)) (stop : Option Fault)
deriving Repr, Inhabited

namespace Draft

def close {α : Type} (value : α) : Option Fault → Except Fault α
  | none => .ok value
  | some fault => .error fault

mutual
/-- The value of a draft, or its first fault in reading order. `levels` bounds how deep arrays and
objects may nest; one more is malformed as soon as it opens. -/
def value (levels : Nat) : Draft → Except Fault Json
  | .null => .ok .null
  | .bool b => .ok (.bool b)
  | .number n => .ok (.number n)
  | .string s => .ok (.string s)
  | .flawed _ flaw => .error flaw.reading
  | .array items stop =>
    match levels with
    | 0 => .error .malformed
    | levels + 1 => do
      let items ← values levels items
      close (.array items) stop
  | .object members stop =>
    match levels with
    | 0 => .error .malformed
    | levels + 1 => do
      let members ← memberValues levels members
      close (.object members) stop

def values (levels : Nat) : List Draft → Except Fault (List Json)
  | [] => .ok []
  | item :: rest => do
    let item ← item.value levels
    let rest ← values levels rest
    return item :: rest

def memberValues (levels : Nat) : List (Key × Draft) → Except Fault (List (String × Json))
  | [] => .ok []
  | (.flawed flaw, _) :: _ => .error flaw.reading
  | (.name name, value) :: rest => do
    let value ← value.value levels
    let rest ← memberValues levels rest
    return (name, value) :: rest
end

mutual
/-- The fault that a reader meets who skips the value, if any. Nesting has no bound there. -/
def skipFault : Draft → Option Fault
  | .flawed _ flaw => flaw.skipping
  | .array items stop => (skipItems items).or stop
  | .object members stop => (skipMembers members).or stop
  | .null => none
  | .bool _ => none
  | .number _ => none
  | .string _ => none

def skipItems : List Draft → Option Fault
  | [] => none
  | item :: rest => item.skipFault.or (skipItems rest)

def skipMembers : List (Key × Draft) → Option Fault
  | [] => none
  | (.flawed flaw, value) :: rest => (flaw.skipping.or value.skipFault).or (skipMembers rest)
  | (.name _, value) :: rest => value.skipFault.or (skipMembers rest)
end

def skip (d : Draft) : Except Fault Unit := close () d.skipFault

mutual
def ofValue : Json → Draft
  | .null => .null
  | .bool b => .bool b
  | .number n => .number n
  | .string s => .string s
  | .array items => .array (ofValues items) none
  | .object members => .object (ofMembers members) none

def ofValues : List Json → List Draft
  | [] => []
  | item :: rest => ofValue item :: ofValues rest

def ofMembers : List (String × Json) → List (Key × Draft)
  | [] => []
  | (name, value) :: rest => (.name name, ofValue value) :: ofMembers rest
end

end Draft

end FilterQuery
