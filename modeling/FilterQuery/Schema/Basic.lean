import FilterQuery.Cardinality

/-!
What is known about attributes before any document is seen.
-/
namespace FilterQuery

/-- Searches over an attribute that asks for consistency have to wait for the index to catch up. -/
structure AttributeMetadata where
  cardinality : Cardinality := .unknown
  consistency : Bool := false
deriving DecidableEq, Repr, Inhabited

/-- Attributes by name. One that is not there has unknown cardinality and asks for nothing. -/
structure Schema where
  lookup : String → Option AttributeMetadata

namespace Schema

def cardinality (s : Schema) (name : String) : Cardinality :=
  ((s.lookup name).map (·.cardinality)).getD .unknown

def requiresConsistency (s : Schema) (name : String) : Bool :=
  (s.lookup name).any (·.consistency)

def empty : Schema := ⟨fun _ => none⟩

end Schema

abbrev Named (α : Type) := List (String × α)

namespace Named

variable {α : Type}

def put (name : String) (value : α) : Named α → Named α
  | [] => [(name, value)]
  | (n, v) :: rest => if n = name then (n, value) :: rest else (n, v) :: put name value rest

/-- Of entries with one name the last stays. -/
def ofEntries (entries : List (String × α)) : Named α :=
  entries.foldl (fun named (name, value) => named.put name value) []

end Named

def Schema.ofNamed (attributes : Named AttributeMetadata) : Schema :=
  ⟨fun name => attributes.lookup name⟩

/-- How a logical attribute name becomes the one that a store uses. -/
abbrev Resolver := String → String

namespace Resolver

def identity : Resolver := id

def ofNamed (names : Named String) : Resolver := fun name => (names.lookup name).getD name

def suffixed (suffix : String) : Resolver := (· ++ suffix)

end Resolver

structure SchemaConfig where
  attributes : Named AttributeMetadata := []
  internalNames : Named String := []
deriving Repr, Inhabited

def SchemaConfig.schema (c : SchemaConfig) : Schema := .ofNamed c.attributes

def SchemaConfig.resolver (c : SchemaConfig) : Resolver := .ofNamed c.internalNames

/-- The attribute that is stored as one value whatever its declared type. -/
def objectClass : String := "objectClass"

def isObjectClass (name : String) : Bool :=
  name.toList.map Char.toLower == objectClass.toList.map Char.toLower

theorem is_object_class_iff {name : String} :
    isObjectClass name ↔ name.toLower = objectClass.toLower := by
  have lowered : ∀ s : String, s.toLower.toList = s.toList.map Char.toLower :=
    fun _ => String.toList_map
  rw [isObjectClass, beq_iff_eq, ← String.toList_inj, lowered, lowered]

def Schema.detect (s : Schema) (name : String) : Cardinality :=
  if isObjectClass name then .single else s.cardinality name

end FilterQuery
