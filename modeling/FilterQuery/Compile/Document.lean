import FilterQuery.Compile.Compilation
import FilterQuery.Expr.Basic
import FilterQuery.Like

/-!
Compilation to expressions of a document store.

A field that holds an array needs another condition than one that holds a single value, so each leaf
first settles the cardinality of its attribute: its own marker, else what the schema says. An
equality of unknown cardinality becomes a condition that is right for both shapes; the other tests
only tell arrays for certain from all else.
-/
namespace FilterQuery.Document

def elementName (internal : String) : String := internal ++ "_"

def onAttribute (cardinality : Cardinality) (internal : String) (condition : Expr → Expr) : Expr :=
  if cardinality.isMulti then
    let element := elementName internal
    .any element (.path internal) (condition (.path element))
  else condition (.path internal)

def matchBothShapes (internal : String) (value : Expr) : Expr :=
  .grouped (.binary (.grouped (.eq (.path internal) value)) .or
    (.grouped (.binary value .isIn (.path internal))))

/-- The value of a plain equality on an attribute that holds a single value, with its name. -/
def memberValue? (ctx : CompileContext) (operand : Filter) : Option (String × AssertionValue) :=
  match operand with
  | .leaf name (.compare .equality value) none _ =>
    if (ctx.cardinality operand).isSingle then some (name, value) else none
  | _ => none

def memberValues? (ctx : CompileContext) (operands : List Filter) :
    Option (String × List AssertionValue) := do
  let values ← operands.mapM (memberValue? ctx)
  let (name, _) ← values.head?
  if values.all (·.1 = name) then some (name, values.map (·.2)) else none

def membership (internal : String) (values : List AssertionValue) : Expr :=
  .grouped (.binary (.path internal) .isIn (.array (values.map .ofValue)))

def joined (op : Junction) (operands : List (Compiled Expr)) : Compilation Expr :=
  let binary := match op with
    | .and => BinaryOp.and
    | .or => BinaryOp.or
  match operands.map (·.expression) with
  | [] => Compilation.fail (.emptyJunction op.kind)
  | first :: rest => Compilation.succeed (.grouped (.join binary first rest))

/-- All operands are compiled even where a membership takes their place, so a failure in any of them
is a failure of the whole. A junction has no name of its own and asks for consistency only through
its operands. -/
def compileJunction (ctx : CompileContext) (child : Filter → Compilation (Compiled Expr))
    (op : Junction) (operands : List Filter) : Compilation (Compiled Expr) := do
  if operands.isEmpty then Compilation.fail (.emptyJunction op.kind)
  else
    let compiled ← Compilation.each child operands
    let consistency := Compiled.anyConsistency compiled
    match op, memberValues? ctx operands with
    | .or, some (name, values) => do
      let internal := ctx.resolve name
      Compilation.log (.membership internal values.length)
      return ⟨membership internal values, consistency⟩
    | _, _ => do
      let expression ← joined op compiled
      return ⟨expression, consistency⟩

/-- An alias takes the place of the attribute. Under an array it is compiled for the loop variable,
since it is the elements that it tests; only under an unknown shape does its need for consistency
count. -/
def compileEquality (ctx : CompileContext) (child : Filter → Compilation (Compiled Expr))
    (own : Bool) (node : Filter) (value : AssertionValue) (aliasFilter : Option Filter) :
    Compilation (Compiled Expr) := do
  let internal ← ctx.internalName node
  let value := Expr.ofValue value
  match ctx.cardinality node, aliasFilter with
  | .multi, some aliasFilter => do
    let element := elementName internal
    let tested ← child (aliasFilter.withName element)
    return ⟨.any element (.path internal) (.eq tested.expression value), own⟩
  | .single, some aliasFilter => do
    let tested ← child aliasFilter
    return ⟨.eq tested.expression value, own⟩
  | .unknown, some aliasFilter => do
    let tested ← child aliasFilter
    return ⟨.eq tested.expression value, tested.consistency || own⟩
  | .unknown, none => do
    Compilation.log (.bothShapes internal)
    return ⟨matchBothShapes internal value, own⟩
  | cardinality, none =>
    return ⟨onAttribute cardinality internal (.eq · value), own⟩

def compileTest (ctx : CompileContext) (own : Bool) (node : Filter) (condition : Expr → Expr) :
    Compilation (Compiled Expr) := do
  let internal ← ctx.internalName node
  return ⟨onAttribute (ctx.cardinality node) internal condition, own⟩

def compileNode (ctx : CompileContext) (child : Filter → Compilation (Compiled Expr)) :
    Filter → Compilation (Compiled Expr)
  | .not operand => do
    let compiled ← child operand
    return ⟨.grouped (.not compiled.expression), compiled.consistency⟩
  | .junction op operands => compileJunction ctx child op operands
  | node@(.leaf _ (.compare .equality value) aliasFilter _) =>
    compileEquality ctx child (ctx.contributes node) node value aliasFilter
  | node@(.leaf _ (.compare .atMost value) _ _) =>
    compileTest ctx (ctx.contributes node) node (.binary · .atMost (.ofValue value))
  | node@(.leaf _ (.compare .atLeast value) _ _) =>
    compileTest ctx (ctx.contributes node) node (.binary · .atLeast (.ofValue value))
  | node@(.leaf _ .presence _ _) => compileTest ctx (ctx.contributes node) node .isNotMissing
  | node@(.leaf _ (.substring components) _ _) =>
    let pattern := Expr.literal (.string (Like.patternText components))
    compileTest ctx (ctx.contributes node) node (.binary · .like pattern)
  | node@(.lowercase name) =>
    -- The name is taken as written, so that an alias folds the logical name.
    if name = "" then Compilation.fail (.unresolvedName .lowercase)
    else Compilation.succeed ⟨.lower (.path name), ctx.contributes node⟩
  | .leaf _ (.compare .approximate _) _ _ =>
    Compilation.fail (.unsupportedKind .approximateMatch .document)
  | .raw _ => Compilation.fail (.unsupportedKind .raw .document)

def compileAt (ctx : CompileContext) : Nat → Nat → Filter → Compilation (Compiled Expr)
  | 0, _, _ => Compilation.fail (.tooDeep ctx.maxDepth)
  | levels + 1, depth, f => do
    let node ← ctx.enter depth f
    compileNode ctx (compileAt ctx levels (depth + 1)) node

def compile (ctx : CompileContext) (f : Filter) : Compilation (Compiled Expr) :=
  compileAt ctx ctx.maxDepth 0 f

end FilterQuery.Document
