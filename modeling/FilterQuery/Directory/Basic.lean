import FilterQuery.Filter.Basic

/-!
Queries of a directory server. Each node of a filter has one counterpart here; the server itself
tries every value of an attribute.
-/
namespace FilterQuery

inductive DirectoryQuery where
  | compare (op : Comparison) (name : String) (value : String)
  | presence (name : String)
  | substring (name : String) (components : Components)
  | junction (op : Junction) (operands : List DirectoryQuery)
  | not (operand : DirectoryQuery)
deriving Repr, BEq, Inhabited

end FilterQuery
