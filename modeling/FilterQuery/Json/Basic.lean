import FilterQuery.Json.Number

/-!
JSON values: the documents that expressions are evaluated on, and the stored form of filters and
schemas. Members of an object are kept as a list; in a *normal* value their names are sorted and
distinct.
-/
namespace FilterQuery

inductive Json where
  | null
  | bool (value : Bool)
  | number (value : Number)
  | string (text : String)
  | array (items : List Json)
  | object (members : List (String × Json))
deriving Repr, Inhabited

namespace Json

def int (i : Int) : Json := .number (.ofInt i)

theorem int_of_word {i : Int} (word : Number.IsWord i) : int i = .number (@Number.int i word) := by
  rw [int, Number.ofInt_of_word word]

def field? (name : String) : Json → Option Json
  | .object members => members.lookup name
  | _ => none

def string? : Json → Option String
  | .string text => some text
  | _ => none

def bool? : Json → Option Bool
  | .bool value => some value
  | _ => none

def int? : Json → Option Int
  | .number (.int value) => some value
  | _ => none

theorem int?_eq_some_iff {j : Json} {i : Int} :
    j.int? = some i ↔ ∃ word, j = .number (@Number.int i word) := by
  constructor
  · intro read
    unfold int? at read
    split at read
    · cases read
      exact ⟨_, rfl⟩
    · cases read
  · rintro ⟨word, rfl⟩
    rfl

mutual
def depth : Json → Nat
  | .array items => 1 + depthOfItems items
  | .object members => 1 + depthOfMembers members
  | .null => 1
  | .bool _ => 1
  | .number _ => 1
  | .string _ => 1

def depthOfItems : List Json → Nat
  | [] => 0
  | item :: rest => max item.depth (depthOfItems rest)

def depthOfMembers : List (String × Json) → Nat
  | [] => 0
  | (_, value) :: rest => max value.depth (depthOfMembers rest)
end

mutual
def same : Json → Json → Bool
  | .null, .null => true
  | .bool a, .bool b => a == b
  | .number a, .number b => a.same b
  | .string a, .string b => a == b
  | .array a, .array b => sameItems a b
  | .object a, .object b => sameMembers a b
  | _, _ => false

def sameItems : List Json → List Json → Bool
  | [], [] => true
  | a :: as, b :: bs => a.same b && sameItems as bs
  | _, _ => false

def sameMembers : List (String × Json) → List (String × Json) → Bool
  | [], [] => true
  | (m, a) :: as, (n, b) :: bs => m == n && a.same b && sameMembers as bs
  | _, _ => false
end

/-- Puts a member in its sorted place; one of the same name gives way. -/
def insertMember (name : String) (value : Json) : List (String × Json) → List (String × Json)
  | [] => [(name, value)]
  | (n, v) :: rest =>
    if name < n then (name, value) :: (n, v) :: rest
    else if name = n then (name, value) :: rest
    else (n, v) :: insertMember name value rest

mutual
/-- Sorts the members of every object; of members with one name the last stays. -/
def normal : Json → Json
  | .array items => .array (normalItems items)
  | .object members => .object (normalMembers [] members)
  | .null => .null
  | .bool value => .bool value
  | .number value => .number value
  | .string text => .string text

def normalItems : List Json → List Json
  | [] => []
  | item :: rest => item.normal :: normalItems rest

def normalMembers (sorted : List (String × Json)) : List (String × Json) → List (String × Json)
  | [] => sorted
  | (name, value) :: rest => normalMembers (insertMember name value.normal sorted) rest
end

end Json

end FilterQuery
