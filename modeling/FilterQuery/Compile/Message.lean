import FilterQuery.Compile.Compilation
import FilterQuery.Text.Quoted

/-!
The wording of failures and log entries of a compilation.
-/
namespace FilterQuery

def CompileError.name : CompileError → String
  | .unsupportedKind _ _ => "UnsupportedFilterKind"
  | .unresolvedName _ => "AttributeResolution"
  | .unparsedRaw _ _ => "RawFilterParse"
  | .tooDeep _ => "DepthLimitExceeded"
  | .emptyJunction _ => "EmptyComposite"

def CompileError.message : CompileError → String
  | .unsupportedKind kind backend =>
    kind.tag ++ " filter is not supported by the " ++ backend.name ++ " backend"
  | .unresolvedName kind => "Failed to resolve attribute name of " ++ kind.tag ++ " filter"
  | .unparsedRaw text cause => "Failed to parse raw filter '" ++ text ++ "': " ++ cause.message
  | .tooDeep limit => "Filter nesting exceeds maximum depth of " ++ toString limit
  | .emptyJunction kind => kind.tag ++ " filter requires at least one sub-filter"

def labelled (name : String) (fields : List (String × String)) : String :=
  name ++ " \x7b " ++
    String.intercalate ", " (fields.map fun (field, value) => field ++ ": " ++ value) ++ " \x7d"

def RawError.details : RawError → String
  | .unavailable => "Unavailable"
  | .invalid text => "Syntax(" ++ Text.quoted text ++ ")"

def CompileError.details (e : CompileError) : String :=
  labelled e.name <|
    match e with
    | .unsupportedKind kind backend =>
      [("kind", kind.label), ("backend", Text.quoted backend.name)]
    | .unresolvedName kind => [("kind", kind.label)]
    | .unparsedRaw text cause => [("filter", Text.quoted text), ("source", cause.details)]
    | .tooDeep limit => [("limit", toString limit)]
    | .emptyJunction kind => [("kind", kind.label)]

inductive LogLevel where
  | trace
  | debug
  | warn
deriving DecidableEq, Repr, Inhabited

def LogLevel.name : LogLevel → String
  | .trace => "TRACE"
  | .debug => "DEBUG"
  | .warn => "WARN"

def Event.level : Event → LogLevel
  | .node _ _ => .trace
  | .membership _ _ => .debug
  | .bothShapes _ => .debug
  | .rawText _ => .warn

def Event.message : Event → String
  | .node _ _ => "Compiling filter node"
  | .membership _ _ => "Rewriting OR of equalities as IN"
  | .bothShapes _ => "Cardinality unknown, matching both scalar and array shapes"
  | .rawText text => "RAW filter conversion is deprecated and will be removed: " ++ text

end FilterQuery
