import FilterQuery.Compile.Directory
import FilterQuery.Compile.Document
import FilterQuery.Compile.Message
import FilterQuery.Decode.Filter
import FilterQuery.Decode.Schema
import FilterQuery.Directory.Text
import FilterQuery.Explain
import FilterQuery.Expr.Text

/-!
The command line: `compile` writes the native expression of a stored filter, `explain` its tree.

Arguments are read from left to right, and the first one that does not fit ends the reading. Files
are named by a function, so a run is a value.
-/
namespace FilterQuery.CommandLine

def versionText : String := "filterc 0.1.0"

def usageText : String :=
  "Usage: filterc compile --filter <FILTER> [--schema <SCHEMA>] " ++
    "[--backend <document|directory>] [--json]\n" ++
    "       filterc explain --filter <FILTER> [--schema <SCHEMA>]"

structure Options where
  filter : Option String := none
  schema : Option String := none
  backend : Option Backend := none
  json : Bool := false
deriving DecidableEq, Repr, Inhabited

inductive Subcommand where
  | compile
  | explain
deriving DecidableEq, Repr, Inhabited

inductive Invocation where
  | version
  | help
  | compile (filter : String) (schema : Option String) (backend : Backend) (json : Bool)
  | explain (filter : String) (schema : Option String)
deriving DecidableEq, Repr, Inhabited

structure LongOption where
  name : String
  value : Option String
deriving DecidableEq, Repr, Inhabited

def splitEquals : List Char → List Char × Option (List Char)
  | [] => ([], none)
  | '=' :: rest => ([], some rest)
  | c :: rest =>
    let (name, value) := splitEquals rest
    (c :: name, value)

inductive Argument where
  | long (option : LongOption)
  | short (letters : List Char)
  /-- Everything after it is a plain argument. -/
  | escape
  | plain (text : String)
deriving DecidableEq, Repr, Inhabited

/-- A lone hyphen is a plain argument. -/
def Argument.of (s : String) : Argument :=
  match s.toList with
  | ['-', '-'] => .escape
  | '-' :: '-' :: rest =>
    let (name, value) := splitEquals rest
    .long ⟨String.ofList name, value.map String.ofList⟩
  | '-' :: c :: rest => .short (c :: rest)
  | _ => .plain s

def backendNamed (s : String) : Option Backend :=
  [Backend.document, .directory].find? (·.name = s)

/-- Sets an option that takes a value; each may be given once. -/
def Options.set (sub : Subcommand) (o : Options) (name value : String) : Option Options :=
  match name, sub with
  | "filter", _ => if o.filter.isNone then some { o with filter := some value } else none
  | "schema", _ => if o.schema.isNone then some { o with schema := some value } else none
  | "backend", .compile => do
    let backend ← backendNamed value
    if o.backend.isNone then some { o with backend := some backend } else none
  | _, _ => none

def Options.finish (sub : Subcommand) (o : Options) : Option Invocation := do
  let filter ← o.filter
  match sub with
  | .compile => some (.compile filter o.schema (o.backend.getD .document) o.json)
  | .explain => some (.explain filter o.schema)

def readOptions (sub : Subcommand) (o : Options) : List String → Option Invocation
  | [] => o.finish sub
  | arg :: rest =>
    match Argument.of arg with
    | .long ⟨"help", none⟩ => some .help
    | .long ⟨"json", none⟩ =>
      if sub = .compile ∧ ¬o.json then readOptions sub { o with json := true } rest else none
    | .long ⟨name, some value⟩ => do
      let o ← o.set sub name value
      readOptions sub o rest
    | .long ⟨name, none⟩ =>
      match rest with
      | [] => none
      | value :: rest =>
        match Argument.of value with
        | .plain value => do
          let o ← o.set sub name value
          readOptions sub o rest
        | _ => none
    | .short ('h' :: _) => some .help
    | .short _ => none
    | .escape => if rest.isEmpty then o.finish sub else none
    | .plain _ => none

def subcommandNamed : String → Option Subcommand
  | "compile" => some .compile
  | "explain" => some .explain
  | _ => none

def readHelp : List String → Option Invocation
  | [] => some .help
  | [topic] =>
    if topic = "help" || (subcommandNamed topic).isSome then some .help else none
  | _ => none

def read : List String → Option Invocation
  | [] => none
  | arg :: rest =>
    match Argument.of arg with
    | .long ⟨"version", none⟩ => some .version
    | .long ⟨"help", none⟩ => some .help
    | .short ('V' :: _) => some .version
    | .short ('h' :: _) => some .help
    | .plain "help" => readHelp rest
    | .plain name => do
      let sub ← subcommandNamed name
      readOptions sub {} rest
    | _ => none

inductive RunError where
  | fileRead
  | deserialize
  | compile (cause : CompileError)
deriving DecidableEq, Repr, Inhabited

structure Outcome where
  status : Nat
  output : String
  error : Option RunError := none
deriving DecidableEq, Repr, Inhabited

abbrev Files := String → Option String

def loadFilter (files : Files) (path : String) : Except RunError Filter :=
  match files path with
  | none => .error .fileRead
  | some text =>
    match Decode.filterOfText text with
    | .ok f => .ok f
    | .error _ => .error .deserialize

/-- Without a file nothing is known about any attribute. -/
def loadSchema (files : Files) : Option String → Except RunError SchemaConfig
  | none => .ok {}
  | some path =>
    match files path with
    | none => .error .fileRead
    | some text =>
      match Decode.schemaOfText text with
      | .ok c => .ok c
      | .error _ => .error .deserialize

def nativeText (backend : Backend) (ctx : CompileContext) (f : Filter) :
    Except CompileError (Compiled String) :=
  match backend with
  | .document => (Document.compile ctx f).result.map fun c => ⟨c.expression.text, c.consistency⟩
  | .directory => (Directory.compile ctx f).result.map fun c => ⟨c.expression.text, c.consistency⟩

def report (backend : Backend) (json : Bool) (c : Compiled String) : String :=
  if json then
    (Json.object [("backend", .string backend.name), ("expression", .string c.expression),
      ("consistency", .bool c.consistency)]).indentedText ++ "\n"
  else c.expression ++ "\n" ++ if c.consistency then "-- requires consistent reads\n" else ""

/-- The output of an invocation. The filter is read before the schema. -/
def perform (files : Files) : Invocation → Except RunError String
  | .version => .ok (versionText ++ "\n")
  | .help => .ok (usageText ++ "\n")
  | .compile filter schema backend json => do
    let f ← loadFilter files filter
    let config ← loadSchema files schema
    let ctx : CompileContext := { schema := config.schema, resolve := config.resolver }
    match nativeText backend ctx f with
    | .ok c => .ok (report backend json c)
    | .error cause => .error (.compile cause)
  | .explain filter schema => do
    let f ← loadFilter files filter
    let config ← loadSchema files schema
    let ctx : CompileContext := { schema := config.schema, resolve := config.resolver }
    .ok (Explain.explain ctx.schema ctx.maxDepth f)

/-- Status 2 means that the arguments do not fit, status 1 that the run failed. -/
def run (files : Files) (args : List String) : Outcome :=
  match read args with
  | none => ⟨2, "", none⟩
  | some invocation =>
    match perform files invocation with
    | .ok output => ⟨0, output, none⟩
    | .error e => ⟨1, "", some e⟩

def RunError.message : RunError → String
  | .fileRead => "Failed to read input file"
  | .deserialize => "Failed to deserialize input file as JSON"
  | .compile cause => "Failed to compile filter: " ++ cause.message

def RunError.details? : RunError → Option String
  | .compile cause => some ("Compile(" ++ cause.details ++ ")")
  | _ => none

end FilterQuery.CommandLine
