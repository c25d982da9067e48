import FilterQuery.Compile.Compilation
import FilterQuery.Directory.Basic

/-!
Compilation to queries of a directory server, node by node.
-/
namespace FilterQuery.Directory

def compileLeaf (ctx : CompileContext) (node : Filter) (query : String → DirectoryQuery) :
    Compilation (Compiled DirectoryQuery) := do
  let internal ← ctx.internalName node
  return ⟨query internal, ctx.contributes node⟩

def compileNode (ctx : CompileContext) (child : Filter → Compilation (Compiled DirectoryQuery)) :
    Filter → Compilation (Compiled DirectoryQuery)
  | .not operand => do
    let compiled ← child operand
    return ⟨.not compiled.expression, compiled.consistency⟩
  | .junction op operands => do
    if operands.isEmpty then Compilation.fail (.emptyJunction op.kind)
    else
      let compiled ← Compilation.each child operands
      return ⟨.junction op (compiled.map (·.expression)), Compiled.anyConsistency compiled⟩
  | node@(.leaf _ (.compare op value) _ _) =>
    compileLeaf ctx node (.compare op · value.directoryText)
  | node@(.leaf _ .presence _ _) => compileLeaf ctx node .presence
  | node@(.leaf _ (.substring components) _ _) => compileLeaf ctx node (.substring · components)
  | .lowercase _ => Compilation.fail (.unsupportedKind .lowercase .directory)
  | .raw _ => Compilation.fail (.unsupportedKind .raw .directory)

def compileAt (ctx : CompileContext) : Nat → Nat → Filter → Compilation (Compiled DirectoryQuery)
  | 0, _, _ => Compilation.fail (.tooDeep ctx.maxDepth)
  | levels + 1, depth, f => do
    let node ← ctx.enter depth f
    compileNode ctx (compileAt ctx levels (depth + 1)) node

def compile (ctx : CompileContext) (f : Filter) : Compilation (Compiled DirectoryQuery) :=
  compileAt ctx ctx.maxDepth 0 f

end FilterQuery.Directory
