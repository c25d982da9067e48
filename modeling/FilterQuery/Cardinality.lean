/-!
Whether an attribute holds one value or an array of them.

Unknown is an answer of its own: a filter may leave the cardinality open, and so may a schema. An
expression for such an attribute has to be right for both shapes.
-/
namespace FilterQuery

inductive Cardinality where
  | unknown
  | multi
  | single
deriving DecidableEq, Repr, Inhabited

namespace Cardinality

def isKnown (c : Cardinality) : Bool := c != .unknown

def isMulti (c : Cardinality) : Bool := c == .multi

def isSingle (c : Cardinality) : Bool := c == .single

/-- A known cardinality wins over whatever the fallback says. -/
def orElse (c : Cardinality) (fallback : Cardinality) : Cardinality :=
  match c with
  | .unknown => fallback
  | known => known

def ofBool (multi : Bool) : Cardinality := if multi then .multi else .single

def ofBool? (multi : Option Bool) : Cardinality :=
  match multi with
  | some multi => ofBool multi
  | none => .unknown

def name : Cardinality → String
  | .unknown => "unknown"
  | .multi => "multi"
  | .single => "single"

theorem name_inj {c d : Cardinality} (same : c.name = d.name) : c = d := by
  revert same
  cases c <;> cases d <;> decide

def all : List Cardinality := [.unknown, .multi, .single]

def ofName? (s : String) : Option Cardinality := all.find? (·.name = s)

end Cardinality

end FilterQuery
