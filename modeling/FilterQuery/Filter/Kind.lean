/-!
The eleven kinds of filter nodes.
-/
namespace FilterQuery

inductive Kind where
  | equality
  | substring
  | greaterOrEqual
  | lessOrEqual
  | presence
  | approximateMatch
  | lowercase
  | raw
  | and
  | or
  | not
deriving DecidableEq, Repr, Inhabited

namespace Kind

def tag : Kind → String
  | .equality => "EQUALITY"
  | .substring => "SUBSTRING"
  | .greaterOrEqual => "GREATER_OR_EQUAL"
  | .lessOrEqual => "LESS_OR_EQUAL"
  | .presence => "PRESENCE"
  | .approximateMatch => "APPROXIMATE_MATCH"
  | .lowercase => "LOWERCASE"
  | .raw => "RAW"
  | .and => "AND"
  | .or => "OR"
  | .not => "NOT"

def label : Kind → String
  | .equality => "Equality"
  | .substring => "Substring"
  | .greaterOrEqual => "GreaterOrEqual"
  | .lessOrEqual => "LessOrEqual"
  | .presence => "Presence"
  | .approximateMatch => "ApproximateMatch"
  | .lowercase => "Lowercase"
  | .raw => "Raw"
  | .and => "And"
  | .or => "Or"
  | .not => "Not"

/-- All kinds, in the order in which they are numbered and listed. -/
def all : List Kind :=
  [.equality, .substring, .greaterOrEqual, .lessOrEqual, .presence, .approximateMatch, .lowercase,
    .raw, .and, .or, .not]

def ofTag? (s : String) : Option Kind := all.find? (·.tag = s)

end Kind

end FilterQuery
