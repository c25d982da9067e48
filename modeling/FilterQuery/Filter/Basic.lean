import FilterQuery.Cardinality
import FilterQuery.Filter.Kind
import FilterQuery.Filter.Value

/-!
Filters over the attributes of an entry, independent of any store.

A leaf tests one attribute. It may carry an *alias*: a filter whose compiled form stands in for the
attribute, as in a comparison that ignores case. A leaf without a name of its own takes the name of
its alias. RAW text is directory syntax that has still to be parsed.
-/
namespace FilterQuery

inductive Comparison where
  | equality
  | atLeast
  | atMost
  | approximate
deriving DecidableEq, Repr, Inhabited

inductive Junction where
  | and
  | or
deriving DecidableEq, Repr, Inhabited

/-- What a text has to begin with, to hold in this order without overlap, and to end with. -/
structure Components where
  initial : Option String
  any : List String
  final : Option String
deriving DecidableEq, Repr, Inhabited

inductive Test where
  | compare (op : Comparison) (value : AssertionValue)
  | substring (components : Components)
  | presence
deriving DecidableEq, Repr, Inhabited

inductive Filter where
  | leaf (name : String) (test : Test) (aliasFilter : Option Filter) (marker : Cardinality)
  | lowercase (name : String)
  | raw (text : String)
  | junction (op : Junction) (operands : List Filter)
  | not (operand : Filter)
deriving Repr, BEq, Inhabited

def Comparison.kind : Comparison → Kind
  | .equality => .equality
  | .atLeast => .greaterOrEqual
  | .atMost => .lessOrEqual
  | .approximate => .approximateMatch

def Test.kind : Test → Kind
  | .compare op _ => op.kind
  | .substring _ => .substring
  | .presence => .presence

def Junction.kind : Junction → Kind
  | .and => .and
  | .or => .or

namespace Filter

def test (name : String) (test : Test) : Filter := .leaf name test none .unknown

def equality (name : String) (value : AssertionValue) : Filter :=
  test name (.compare .equality value)

def presence (name : String) : Filter := test name .presence

def and (operands : List Filter) : Filter := .junction .and operands

def or (operands : List Filter) : Filter := .junction .or operands

/-- Attaches an alias; only leaves carry one. -/
def withAlias : Filter → Filter → Filter
  | .leaf name test _ marker, aliasFilter => .leaf name test (some aliasFilter) marker
  | other, _ => other

def withCardinality (marker : Cardinality) : Filter → Filter
  | .leaf name test aliasFilter _ => .leaf name test aliasFilter marker
  | other => other

def withName (name : String) : Filter → Filter
  | .leaf _ test aliasFilter marker => .leaf name test aliasFilter marker
  | .lowercase _ => .lowercase name
  | other => other

def nestedAnd : Nat → Filter → Filter
  | 0, inner => inner
  | levels + 1, inner => nestedAnd levels (and [inner])

def kind : Filter → Kind
  | .leaf _ test _ _ => test.kind
  | .lowercase _ => .lowercase
  | .raw _ => .raw
  | .junction op _ => op.kind
  | .not _ => .not

/-- The node's own attribute name, possibly empty; RAW text and compound filters have none. -/
def name? : Filter → Option String
  | .leaf name _ _ _ => some name
  | .lowercase name => some name
  | _ => none

def alias? : Filter → Option Filter
  | .leaf _ _ aliasFilter _ => aliasFilter
  | _ => none

def marker : Filter → Cardinality
  | .leaf _ _ _ marker => marker
  | _ => .unknown

def value? : Filter → Option AssertionValue
  | .leaf _ (.compare _ value) _ _ => some value
  | _ => none

/-- Direct parts: the operands of a compound filter, or the alias of a leaf. -/
def children : Filter → List Filter
  | .leaf _ _ aliasFilter _ => aliasFilter.toList
  | .junction _ operands => operands
  | .not operand => [operand]
  | .lowercase _ => []
  | .raw _ => []

def properName? (f : Filter) : Option String := f.name?.filter (· ≠ "")

/-- The first proper name, of the node itself or else of a child in order. -/
def effectiveName? (f : Filter) : Option String :=
  f.properName?.or (f.children.findSome? properName?)

mutual
def depth : Filter → Nat
  | .leaf _ _ aliasFilter _ => 1 + depthOfAlias aliasFilter
  | .lowercase _ => 1
  | .raw _ => 1
  | .junction _ operands => 1 + depthOfAll operands
  | .not operand => 1 + operand.depth

def depthOfAlias : Option Filter → Nat
  | none => 0
  | some aliasFilter => aliasFilter.depth

def depthOfAll : List Filter → Nat
  | [] => 0
  | operand :: rest => max operand.depth (depthOfAll rest)
end

end Filter

end FilterQuery
