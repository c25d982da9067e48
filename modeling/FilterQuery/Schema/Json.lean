import FilterQuery.Json.Basic
import FilterQuery.Schema.Basic

/-!
The stored form of a schema description, with every default filled in.
-/
namespace FilterQuery

def AttributeMetadata.toJson (m : AttributeMetadata) : Json :=
  .object [("cardinality", .string m.cardinality.name), ("consistency", .bool m.consistency)]

def SchemaConfig.toJson (c : SchemaConfig) : Json :=
  .object [("attributes", .object (c.attributes.map fun (name, m) => (name, m.toJson))),
    ("internal_names", .object (c.internalNames.map fun (name, s) => (name, .string s)))]

end FilterQuery
