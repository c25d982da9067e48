import FilterQuery.Compile.Compilation

/-!
The tree of a filter with what the document compiler will assume about each attribute.
-/
namespace FilterQuery.Explain

inductive Source where
  | explicit
  | scalarAttribute
  | schema
  | nowhere
deriving DecidableEq, Repr, Inhabited

def Source.text : Source → String
  | .explicit => "explicit"
  | .scalarAttribute => "scalar attribute"
  | .schema => "schema"
  | .nowhere => "none"

structure Verdict where
  name : String
  cardinality : Cardinality
  source : Source
  consistency : Bool
deriving DecidableEq, Repr, Inhabited

def settle (schema : Schema) (marker : Cardinality) (name : String) : Cardinality × Source :=
  if marker.isKnown then (marker, .explicit)
  else if isObjectClass name then (.single, .scalarAttribute)
  else
    let known := schema.cardinality name
    (known, if known.isKnown then .schema else .nowhere)

/-- What is assumed about a node; nothing when it has no name of its own. -/
def verdict? (schema : Schema) (f : Filter) : Option Verdict :=
  f.properName?.map fun name =>
    let (cardinality, source) := settle schema f.marker name
    ⟨name, cardinality, source, schema.requiresConsistency name⟩

structure Entry where
  level : Nat
  node : Filter
deriving Repr, Inhabited

mutual
/-- Every node before its children, aliases included. -/
def entries (level : Nat) : Filter → List Entry
  | .leaf name test aliasFilter marker =>
    ⟨level, .leaf name test aliasFilter marker⟩ :: entriesOfAlias (level + 1) aliasFilter
  | .lowercase name => [⟨level, .lowercase name⟩]
  | .raw text => [⟨level, .raw text⟩]
  | .junction op operands =>
    ⟨level, .junction op operands⟩ :: entriesOfAll (level + 1) operands
  | .not operand => ⟨level, .not operand⟩ :: entries (level + 1) operand

def entriesOfAlias (level : Nat) : Option Filter → List Entry
  | none => []
  | some aliasFilter => entries level aliasFilter

def entriesOfAll (level : Nat) : List Filter → List Entry
  | [] => []
  | operand :: rest => entries level operand ++ entriesOfAll level rest
end

def padRight (width : Nat) (s : String) : String :=
  s ++ String.ofList (List.replicate (width - s.length) ' ')

def Verdict.text (v : Verdict) : String :=
  padRight 20 v.name ++ " cardinality=" ++ v.cardinality.name ++ " (" ++ v.source.text ++
    ") consistency=" ++ toString v.consistency

def describe (schema : Schema) (f : Filter) : String :=
  match verdict? schema f, f with
  | some v, _ => f.kind.tag ++ " " ++ v.text
  | none, .raw text => f.kind.tag ++ " " ++ text
  | none, _ => f.kind.tag

def Entry.line (schema : Schema) (e : Entry) : String :=
  String.ofList (List.replicate (2 * e.level) ' ') ++ describe schema e.node ++ "\n"

def header (f : Filter) (limit : Nat) : String :=
  "depth " ++ toString f.depth ++ " (compile limit " ++ toString limit ++ ")\n"

def explain (schema : Schema) (limit : Nat) (f : Filter) : String :=
  String.join (header f limit :: (entries 0 f).map (Entry.line schema))

end FilterQuery.Explain
