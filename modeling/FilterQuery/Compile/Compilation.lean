import FilterQuery.Filter.Raw
import FilterQuery.Schema.Basic

/-!
What every compilation has in common: what it is given, how it fails, and the trace that it leaves
on the way.
-/
namespace FilterQuery

inductive Backend where
  | document
  | directory
deriving DecidableEq, Repr, Inhabited

def Backend.name : Backend → String
  | .document => "document"
  | .directory => "directory"

inductive CompileError where
  | unsupportedKind (kind : Kind) (backend : Backend)
  | unresolvedName (kind : Kind)
  | unparsedRaw (text : String) (cause : RawError)
  | tooDeep (limit : Nat)
  | emptyJunction (kind : Kind)
deriving DecidableEq, Repr, Inhabited

structure CompileContext where
  schema : Schema
  resolve : Resolver
  parseRaw : RawParser := RawParser.none
  maxDepth : Nat := 64

inductive Event where
  | node (kind : Kind) (depth : Nat)
  | membership (name : String) (values : Nat)
  | bothShapes (name : String)
  | rawText (text : String)
deriving DecidableEq, Repr, Inhabited

/-- A step of the trace: a node that a visitor is shown, or an event for the log. -/
inductive Step where
  | visit (node : Filter)
  | event (event : Event)
deriving Repr, BEq, Inhabited

/-- A result, and the steps taken up to it or up to the failure. -/
structure Compilation (α : Type) where
  result : Except CompileError α
  trace : List Step
deriving Inhabited

namespace Compilation

variable {α β : Type}

def succeed (a : α) : Compilation α := ⟨.ok a, []⟩

def fail (e : CompileError) : Compilation α := ⟨.error e, []⟩

def record (s : Step) : Compilation Unit := ⟨.ok (), [s]⟩

def log (e : Event) : Compilation Unit := record (.event e)

def bind (c : Compilation α) (next : α → Compilation β) : Compilation β :=
  match c.result with
  | .error e => ⟨.error e, c.trace⟩
  | .ok a => ⟨(next a).result, c.trace ++ (next a).trace⟩

instance : Monad Compilation where
  pure := succeed
  bind := bind

def require (a : Option α) (e : CompileError) : Compilation α :=
  match a with
  | some a => succeed a
  | none => fail e

def each (compile : Filter → Compilation α) : List Filter → Compilation (List α)
  | [] => succeed []
  | operand :: rest => do
    let compiled ← compile operand
    let others ← each compile rest
    return compiled :: others

def visited (c : Compilation α) : List Filter :=
  c.trace.filterMap fun
    | .visit node => some node
    | .event _ => none

def events (c : Compilation α) : List Event :=
  c.trace.filterMap fun
    | .visit _ => none
    | .event e => some e

end Compilation

structure Compiled (α : Type) where
  expression : α
  consistency : Bool
deriving Repr, BEq, Inhabited

def Compiled.anyConsistency {α : Type} (all : List (Compiled α)) : Bool :=
  all.any (·.consistency)

namespace CompileContext

/-- Replaces RAW text by its parse, which is not parsed again. -/
def expand (ctx : CompileContext) : Filter → Compilation Filter
  | .raw text => do
    Compilation.log (.rawText text)
    match ctx.parseRaw text with
    | .ok f => return f
    | .error cause => Compilation.fail (.unparsedRaw text cause)
  | other => Compilation.succeed other

def contributes (ctx : CompileContext) (node : Filter) : Bool :=
  node.properName?.any ctx.schema.requiresConsistency

/-- What is done before a node is looked at: RAW text is parsed, and the visitor is shown what is
compiled in its place. -/
def enter (ctx : CompileContext) (depth : Nat) (f : Filter) : Compilation Filter := do
  let node ← ctx.expand f
  Compilation.record (.visit node)
  Compilation.log (.node node.kind depth)
  return node

def internalName (ctx : CompileContext) (node : Filter) : Compilation String :=
  Compilation.require (node.effectiveName?.map ctx.resolve) (.unresolvedName node.kind)

def cardinality (ctx : CompileContext) (node : Filter) : Cardinality :=
  node.marker.orElse ((node.properName?.map ctx.schema.detect).getD .unknown)

end CompileContext

end FilterQuery
