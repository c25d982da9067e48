import FilterQuery.Proofs.DepthLimit
import FilterQuery.Proofs.FilterReader
import FilterQuery.Proofs.JsonReader

/-!
The stored form of a filter loses nothing but the width of its integers. What is read back, from the
value with its members as declared or sorted, or from the compact text, is the narrowed filter, and
the narrowed filter compiles as the filter does.
-/
namespace FilterQuery

namespace Filter

theorem all_to_json_eq_map (operands : List Filter) : allToJson operands = operands.map toJson := by
  induction operands with
  | nil => rfl
  | cons operand rest ih => rw [allToJson, ih, List.map_cons]

end Filter

/-- The members of a leaf that may be left out. -/
structure LeafParts where
  value : Option Json
  initial : Option Json
  any : Option Json
  final : Option Json
  aliasFilter : Option Json

theorem optional_iff {name : String} {value : Option Json} {m : String × Json} :
    m ∈ optionalMember name value ↔ m.1 = name ∧ value = some m.2 := by
  cases value with
  | none => simp [optionalMember]
  | some j => simp [optionalMember, Prod.ext_iff, eq_comm]

namespace LeafParts

variable (parts : LeafParts) (name marker : String)

def declared : List (String × Json) :=
  [("attribute", .string name)] ++ optionalMember "value" parts.value ++
    optionalMember "initial" parts.initial ++ optionalMember "any" parts.any ++
    optionalMember "final" parts.final ++ optionalMember "alias" parts.aliasFilter ++
    [("multi_valued", .string marker)]

def sortedFront : List (String × Json) :=
  optionalMember "alias" parts.aliasFilter ++ optionalMember "any" parts.any ++
    [("attribute", .string name)] ++ optionalMember "final" parts.final ++
    optionalMember "initial" parts.initial

def sortedBehind : List (String × Json) :=
  [("multi_valued", .string marker)] ++ optionalMember "value" parts.value

def normal : LeafParts :=
  ⟨parts.value.map Json.normal, parts.initial.map Json.normal, parts.any.map Json.normal,
    parts.final.map Json.normal, parts.aliasFilter.map Json.normal⟩

theorem normal_sorted (tag : String) :
    (Json.object (("kind", .string tag) :: parts.declared name marker)).normal =
      .object (parts.normal.sortedFront name ++
        ("kind", .string tag) :: parts.normal.sortedBehind marker) := by
  -- Which members are there decides the order; their values do not.
  obtain ⟨value, initial, any, final, aliasFilter⟩ := parts
  cases value <;> cases initial <;> cases any <;> cases final <;> cases aliasFilter <;> rfl

theorem optional_named {name : String} {value : Option Json} (other : name ≠ "kind") :
    ∀ m ∈ optionalMember name value, m.1 ≠ "kind" :=
  fun _ inside => (optional_iff.mp inside).1 ▸ other

theorem declared_named : ∀ m ∈ parts.declared name marker, m.1 ≠ "kind" := by
  simp only [declared, List.forall_mem_append, List.forall_mem_singleton]
  and_intros <;> first | exact optional_named (by decide) | decide

theorem sorted_named :
    ∀ m ∈ parts.sortedFront name ++ parts.sortedBehind marker, m.1 ≠ "kind" := by
  simp only [sortedFront, sortedBehind, List.forall_mem_append, List.forall_mem_singleton]
  and_intros <;> first | exact optional_named (by decide) | decide

end LeafParts

namespace Test

def value? : Test → Option AssertionValue
  | .compare _ value => some value
  | _ => none

def components : Test → Components
  | .substring components => components
  | _ => ⟨none, [], none⟩

def inner? (test : Test) : Option (List String) :=
  if test.components.any.isEmpty then none else some test.components.any

def parts (test : Test) (aliasFilter : Option Json) : LeafParts :=
  ⟨test.value?.map AssertionValue.toJson, test.components.initial.map .string,
    test.inner?.map fun texts => .array (texts.map .string),
    test.components.final.map .string, aliasFilter⟩

end Test

namespace Filter

theorem leaf_to_json (name : String) (test : Test) (aliasFilter : Option Filter)
    (marker : Cardinality) :
    (Filter.leaf name test aliasFilter marker).toJson =
      .object (("kind", .string test.kind.tag) ::
        (test.parts (aliasFilter.map toJson)).declared name marker.name) := by
  have stored : aliasMember aliasFilter = optionalMember "alias" (aliasFilter.map toJson) := by
    cases aliasFilter <;> rfl
  rw [toJson, stored]
  cases test with
  | compare op value => rfl
  | presence => rfl
  | substring components =>
      have inner : (if components.any.isEmpty then []
          else [("any", Json.array (components.any.map .string))]) =
          optionalMember "any" ((Test.substring components).inner?.map fun texts =>
            .array (texts.map .string)) := by
        rw [Test.inner?, Test.components]
        split <;> rfl
      rw [Test.members, inner]
      simp [LeafParts.declared, Test.parts, Test.value?, Test.components, optionalMember]

end Filter

theorem AssertionValue.normal_json (value : AssertionValue) :
    value.toJson.normal = value.toJson := by
  cases value <;> rfl

theorem normal_items_eq_map (items : List Json) :
    Json.normalItems items = items.map Json.normal := by
  induction items with
  | nil => rfl
  | cons item rest ih => rw [Json.normalItems, ih, List.map_cons]

theorem normal_strings (texts : List String) :
    Json.normalItems (texts.map .string) = texts.map .string := by
  rw [normal_items_eq_map, List.map_map]
  rfl

theorem Test.parts_normal (test : Test) (aliasFilter : Option Json) :
    (test.parts aliasFilter).normal = test.parts (aliasFilter.map Json.normal) := by
  simp only [LeafParts.normal, Test.parts, Option.map_map, Function.comp_def,
    AssertionValue.normal_json, normal_strings, Json.normal]

namespace Decode

def leafFields (name : String) (test : Test) (aliasFilter : Option Filter) (marker : Cardinality) :
    Fields :=
  { name := some name
    value := test.value?.map AssertionValue.narrow
    initial := test.components.initial.map some
    any := test.inner?
    final := test.components.final.map some
    aliasFilter := aliasFilter.map (some ·.narrow)
    marker := some marker }

theorem assemble_leaf (name : String) (test : Test) (aliasFilter : Option Filter)
    (marker : Cardinality) :
    assemble test.kind (leafFields name test aliasFilter marker) .missingField =
      .ok (Filter.leaf name test aliasFilter marker).narrow := by
  have attached : (aliasFilter.map (some ·.narrow)).getD none = Filter.narrowAlias aliasFilter := by
    cases aliasFilter <;> rfl
  cases test with
  | compare op value =>
      rw [Filter.narrow, ← attached]
      cases op <;> rfl
  | presence =>
      rw [Filter.narrow, ← attached]
      rfl
  | substring components =>
      obtain ⟨initial, any, final⟩ := components
      rw [Filter.narrow, ← attached]
      cases initial <;> cases any <;> cases final <;> rfl

section Leaves

variable (test : Test)

theorem knows_common {name : String} (common : name ∈ ["attribute", "alias", "multi_valued"]) :
    (fieldNames test.kind).contains name := by
  have one : name = "attribute" ∨ name = "alias" ∨ name = "multi_valued" := by simpa using common
  cases test with
  | compare op value => cases op <;> rcases one with rfl | rfl | rfl <;> rfl
  | _ => rcases one with rfl | rfl | rfl <;> rfl

theorem knows_value (some : test.value?.isSome) : (fieldNames test.kind).contains "value" := by
  cases test with
  | compare op value => cases op <;> rfl
  | _ => cases some

theorem knows_initial (some : test.components.initial.isSome) :
    (fieldNames test.kind).contains "initial" := by
  cases test with
  | substring components => rfl
  | _ => cases some

theorem knows_any (some : test.inner?.isSome) : (fieldNames test.kind).contains "any" := by
  cases test with
  | substring components => rfl
  | _ => cases some

theorem knows_final (some : test.components.final.isSome) :
    (fieldNames test.kind).contains "final" := by
  cases test with
  | substring components => rfl
  | _ => cases some

variable {test}
variable {stored : Filter → Json} {name : String} {aliasFilter : Option Filter}
  {marker : Cardinality} (decodes : ∀ g ∈ aliasFilter, Decodes (stored g) g.narrow)
include decodes

theorem takes_declared :
    Takes test.kind {} ((test.parts (aliasFilter.map stored)).declared name marker.name)
      (leafFields name test aliasFilter marker) := by
  have named : Takes test.kind {} [("attribute", .string name)] { name := some name } :=
    takes_name (knows_common test (by decide)) rfl name
  have valued := named.append (takes_value (knows_value test) rfl)
  have started := valued.append (takes_initial (knows_initial test) rfl)
  have within := started.append (takes_any (knows_any test) rfl)
  have ended := within.append (takes_final (knows_final test) rfl)
  have aliased := ended.append (takes_alias decodes (knows_common test (by decide)) rfl)
  exact aliased.append (takes_marker (knows_common test (by decide)) rfl marker)

theorem takes_sorted :
    Takes test.kind {} ((test.parts (aliasFilter.map stored)).sortedFront name ++
        (test.parts (aliasFilter.map stored)).sortedBehind marker.name)
      (leafFields name test aliasFilter marker) := by
  have aliased : Takes test.kind {} (optionalMember "alias" (aliasFilter.map stored))
      { aliasFilter := aliasFilter.map (some ·.narrow) } :=
    takes_alias decodes (knows_common test (by decide)) rfl
  have within := aliased.append (takes_any (knows_any test) rfl)
  have named := within.append (takes_name (knows_common test (by decide)) rfl name)
  have ended := named.append (takes_final (knows_final test) rfl)
  have started := ended.append (takes_initial (knows_initial test) rfl)
  apply started.append
  exact Takes.append (takes_marker (knows_common test (by decide)) rfl marker)
    (takes_value (knows_value test) rfl)

end Leaves

theorem takes_operand {j : Json} {g : Filter} (decodes : Decodes j g) :
    Takes .not {} [("filter", j)] { operand := some g } := by
  apply takes_one
  change (fill "filter" none (reading j).filter >>= _) = _
  rw [decodes.inner.1]
  rfl

theorem readings_filters {stored : Filter → Json} {operands : List Filter}
    (decodes : ∀ g ∈ operands, Decodes (stored g) g.narrow) :
    (readingItems (operands.map stored)).mapM (·.filter) = .ok (operands.map Filter.narrow) := by
  induction operands with
  | nil => rfl
  | cons operand rest ih =>
      obtain ⟨here, later⟩ := List.forall_mem_cons.mp decodes
      rw [List.map_cons, readingItems, List.mapM_cons, here.inner.1, ih later]
      rfl

theorem takes_operands {stored : Filter → Json} {operands : List Filter} (op : Junction)
    (decodes : ∀ g ∈ operands, Decodes (stored g) g.narrow) :
    Takes op.kind {} [("filters", .array (operands.map stored))]
      { operands := some (operands.map Filter.narrow) } := by
  apply takes_one
  have known : (fieldNames op.kind).contains "filters" := by cases op <;> rfl
  rw [takeField, if_pos known]
  simp only [reading, readings_filters decodes]
  rfl

variable {kind : Kind} {fields : Fields}

theorem single_decodes {field : String} {j : Json} {f : Filter} (other : field ≠ "kind")
    (taken : Takes kind {} [(field, j)] fields)
    (built : assemble kind fields .missingField = .ok f) :
    Decodes (.object [("kind", .string kind.tag), (field, j)]) f ∧
      Decodes (.object [(field, j), ("kind", .string kind.tag)]) f := by
  have named : ∀ m ∈ [(field, j)], m.1 ≠ "kind" := by simpa using other
  constructor
  · exact @decodes_of_takes kind fields [] [(field, j)] f named taken built
  · exact @decodes_of_takes kind fields [(field, j)] [] f named taken built

theorem stored_decodes (f : Filter) :
    Decodes f.toJson f.narrow ∧ Decodes f.toJson.normal f.narrow := by
  induction f using Filter.children_induction with
  | node f parts =>
      cases f with
      | leaf name test aliasFilter marker =>
          have inside := fun g member => parts g (Option.mem_toList.mpr member)
          have built := assemble_leaf name test aliasFilter marker
          rw [Filter.leaf_to_json, LeafParts.normal_sorted, Test.parts_normal, Option.map_map]
          constructor
          · exact @decodes_of_takes _ _ [] _ _ (LeafParts.declared_named _ _ _)
              (takes_declared fun g member => (inside g member).1) built
          · exact decodes_of_takes (LeafParts.sorted_named _ _ _)
              (takes_sorted fun g member => (inside g member).2) built
      | lowercase name => exact single_decodes (by decide) (takes_name rfl rfl name) rfl
      | raw text =>
          have taken : Takes .raw {} [("filter", .string text)] { text := some text } := rfl
          exact single_decodes (by decide) taken rfl
      | junction op operands =>
          have items : Json.normalItems (operands.map Filter.toJson) =
              operands.map (·.toJson.normal) := by
            rw [normal_items_eq_map, List.map_map]
            rfl
          have built : assemble op.kind { operands := some (operands.map Filter.narrow) }
              .missingField = .ok (.junction op (operands.map Filter.narrow)) := by
            cases op <;> rfl
          have declared := takes_operands op fun g member => (parts g member).1
          have sorted := takes_operands op fun g member => (parts g member).2
          rw [Filter.narrow, Filter.narrow_all_eq_map, Filter.toJson, Filter.all_to_json_eq_map]
          constructor
          · exact (single_decodes (by decide) declared built).1
          · have whole : (Json.object [("kind", .string op.kind.tag),
                ("filters", .array (operands.map Filter.toJson))]).normal =
                .object [("filters", .array (Json.normalItems (operands.map Filter.toJson))),
                  ("kind", .string op.kind.tag)] := rfl
            rw [whole, items]
            exact (single_decodes (by decide) sorted built).2
      | not operand =>
          have inside := parts operand List.mem_cons_self
          exact ⟨(single_decodes (by decide) (takes_operand inside.1) rfl).1,
            (single_decodes (by decide) (takes_operand inside.2) rfl).2⟩

theorem checked_others {levels : Nat} {members : List (String × Json)}
    (named : ∀ m ∈ members, m.1 ≠ "kind") (fits : Json.nestingOfMembers members ≤ levels) :
    checkedMembers levels true (Draft.ofMembers members) = .ok members := by
  induction members with
  | nil => rfl
  | cons m rest ih =>
      obtain ⟨here, later⟩ := List.forall_mem_cons.mp named
      rw [Json.nestingOfMembers] at fits
      rw [Draft.ofMembers, checkedMembers, if_neg here, Json.draft_value m.2 (by omega),
        ih later (by omega)]
      rfl

theorem checked_stored {levels : Nat} {members : List (String × Json)} (kind : Kind)
    (named : ∀ m ∈ members, m.1 ≠ "kind") (fits : Json.nestingOfMembers members ≤ levels) :
    checkedMembers levels false (Draft.ofMembers (("kind", .string kind.tag) :: members)) =
      .ok (("kind", .string kind.tag) :: members) := by
  have tag : kindValue levels (.string kind.tag) = .ok (.string kind.tag) := by
    cases kind <;> rfl
  rw [Draft.ofMembers, Draft.ofValue, checkedMembers, if_pos rfl, tag]
  simp only [checked_others named fits]
  rfl

theorem read_stored {members : List (String × Json)} {f : Filter} (kind : Kind)
    (named : ∀ m ∈ members, m.1 ≠ "kind")
    (legible : Json.Legible (.object (("kind", .string kind.tag) :: members)))
    (fits : (Json.object (("kind", .string kind.tag) :: members)).nesting ≤ Json.textLevels)
    (decodes : Decodes (.object (("kind", .string kind.tag) :: members)) f) :
    filterOfText (Json.object (("kind", .string kind.tag) :: members)).text = .ok f := by
  have below : Json.nestingOfMembers members ≤ Json.textLevels - 1 := by
    rw [Json.nesting, Json.nestingOfMembers] at fits
    omega
  have whole : filterOfDraft (Json.textLevels - 1)
      (Draft.ofValue (.object (("kind", .string kind.tag) :: members))) = .ok f := by
    rw [Draft.ofValue, filterOfDraft, checked_stored kind named below]
    change ofMismatch (filterOfJson _) = _
    rw [decodes.whole]
    rfl
  rw [filterOfText, Json.text, String.toList_ofList, Json.read_draft legible]
  simp only [whole]
  rfl

end Decode

namespace Filter

theorem to_json_object (f : Filter) : ∃ members, (∀ m ∈ members, m.1 ≠ "kind") ∧
    f.toJson = .object (("kind", .string f.kind.tag) :: members) := by
  cases f with
  | leaf name test aliasFilter marker =>
      exact ⟨_, LeafParts.declared_named _ _ _, leaf_to_json name test aliasFilter marker⟩
  | lowercase name => exact ⟨[("attribute", .string name)], by simp, rfl⟩
  | raw text => exact ⟨[("filter", .string text)], by simp, rfl⟩
  | junction op operands => exact ⟨[("filters", .array (allToJson operands))], by simp, rfl⟩
  | not operand => exact ⟨[("filter", operand.toJson)], by simp, rfl⟩

end Filter

theorem AssertionValue.to_json_legible (value : AssertionValue) : Json.Legible value.toJson := by
  cases value with
  | bool b => exact .bool b
  | string text => exact .string text
  | int n =>
      rw [AssertionValue.toJson, Json.int_of_word (Number.word_of_half (Number.half_range n))]
      exact .integer _
  | long n =>
      rw [AssertionValue.toJson, Json.int_of_word (Number.word_of_signed (Number.signed_range n))]
      exact .integer _

theorem strings_legible (texts : List String) : Json.Legible (.array (texts.map .string)) := by
  apply Json.Legible.array
  intro item inside
  obtain ⟨text, -, rfl⟩ := List.mem_map.mp inside
  exact .string text

theorem leaf_legible {name marker : String} {test : Test} {aliasFilter : Option Json}
    (inside : ∀ j ∈ aliasFilter, Json.Legible j) :
    ∀ m ∈ (test.parts aliasFilter).declared name marker, Json.Legible m.2 := by
  intro m member
  simp only [LeafParts.declared, List.mem_append, List.mem_singleton, optional_iff, Test.parts,
    Option.map_eq_some_iff] at member
  rcases member with
    (((((rfl | ⟨-, value, -, same⟩) | ⟨-, text, -, same⟩) | ⟨-, texts, -, same⟩) |
      ⟨-, text, -, same⟩) | ⟨-, stored⟩) | rfl
  · exact .string name
  · exact same ▸ value.to_json_legible
  · exact same ▸ .string text
  · exact same ▸ strings_legible texts
  · exact same ▸ .string text
  · exact inside m.2 stored
  · exact .string marker

theorem pair_legible (tag field : String) {j : Json} (legible : Json.Legible j) :
    Json.Legible (.object [("kind", .string tag), (field, j)]) := by
  apply Json.Legible.object
  simp only [List.forall_mem_cons]
  exact ⟨.string tag, legible, nofun⟩

theorem Filter.to_json_legible (f : Filter) : Json.Legible f.toJson := by
  induction f using Filter.children_induction with
  | node f parts =>
      cases f with
      | leaf name test aliasFilter marker =>
          rw [leaf_to_json]
          refine .object (List.forall_mem_cons.mpr ⟨.string _, leaf_legible ?_⟩)
          intro j inside
          obtain ⟨g, member, rfl⟩ := Option.map_eq_some_iff.mp inside
          exact parts g (Option.mem_toList.mpr member)
      | lowercase name => exact pair_legible _ _ (.string name)
      | raw text => exact pair_legible _ _ (.string text)
      | not operand => exact pair_legible _ _ (parts operand List.mem_cons_self)
      | junction op operands =>
          apply pair_legible
          rw [all_to_json_eq_map]
          apply Json.Legible.array
          intro j inside
          obtain ⟨g, member, rfl⟩ := List.mem_map.mp inside
          exact parts g member

open Decode in
/-- What is read back from the stored form of a filter is the filter with its integers narrowed, and
no backend tells the two apart. -/
theorem stored_filter_faithful (f : Filter) :
    filterOfJson f.toJson = .ok f.narrow ∧
      filterOfJson f.toJson.normal = .ok f.narrow ∧
      (f.toJson.nesting ≤ Json.textLevels → filterOfText f.jsonText = .ok f.narrow) ∧
      ∀ ctx, (Document.compile ctx f).result = (Document.compile ctx f.narrow).result ∧
        (Directory.compile ctx f).result = (Directory.compile ctx f.narrow).result := by
  obtain ⟨declared, sorted⟩ := stored_decodes f
  refine ⟨declared.whole, sorted.whole, ?_, ?_⟩
  · intro fits
    obtain ⟨members, named, stored⟩ := f.to_json_object
    have legible := f.to_json_legible
    rw [Filter.jsonText, stored]
    rw [stored] at declared legible fits
    exact read_stored f.kind named legible fits declared
  · intro ctx
    exact ⟨(Document.compile_narrow f).symm, (Directory.compile_narrow f).symm⟩

/-- A long word inside an alias, and text that has to be escaped. -/
def agedAlias (age : AssertionValue) : Filter :=
  .not (.leaf "a" (.compare .equality (.string "\"\\\n")) (some (.equality "b" age)) .multi)

theorem aged_alias_reads_back :
    (agedAlias (.long 7)).toJson.nesting ≤ Json.textLevels ∧
      Decode.filterOfText (agedAlias (.long 7)).jsonText = .ok (agedAlias (.int 7)) ∧
      ∀ ctx, (Document.compile ctx (agedAlias (.long 7))).result =
        (Document.compile ctx (agedAlias (.int 7))).result := by
  have fits : (agedAlias (.long 7)).toJson.nesting ≤ Json.textLevels := by decide
  have narrowed : (agedAlias (.long 7)).narrow = agedAlias (.int 7) := by rfl
  obtain ⟨-, -, text, compiled⟩ := stored_filter_faithful (agedAlias (.long 7))
  rw [narrowed] at text compiled
  exact ⟨fits, text fits, fun ctx => (compiled ctx).1⟩

end FilterQuery
