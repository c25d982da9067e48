import FilterQuery.Decode.Filter
import FilterQuery.Filter.Json
import FilterQuery.Proofs.Narrowing
import FilterQuery.Proofs.QueryTokens

/-!
Reading the members of a stored node, in whatever order they stand. Every member fills the field of
its name and leaves the others alone, a member that is left out leaves its field empty, and the kind
may stand anywhere among them.
-/
namespace FilterQuery.Decode

theorem narrow_value (value : AssertionValue) :
    assertionValueOf value.toJson = .ok value.narrow := by
  cases value with
  | bool b => rfl
  | string text => rfl
  | int n =>
      have fits := Number.half_range n
      rw [AssertionValue.toJson, Json.int_of_word (Number.word_of_half fits), assertionValueOf,
        if_pos fits, Int32.ofInt_toInt]
      rfl
  | long n =>
      have fits := Number.signed_range n
      rw [AssertionValue.toJson, Json.int_of_word (Number.word_of_signed fits), assertionValueOf,
        AssertionValue.narrow]
      split
      · rfl
      · rw [Int64.ofInt_toInt]

theorem strings_of (texts : List String) :
    stringsOf (.array (texts.map .string)) = .ok texts := by
  rw [stringsOf]
  induction texts with
  | nil => rfl
  | cons text rest ih =>
      rw [List.map_cons, List.mapM_cons, ih]
      rfl

theorem cardinality_of_name (marker : Cardinality) :
    cardinalityOfContent (.string marker.name) = .ok marker := by
  cases marker <;> rfl

theorem reading_value (j : Json) : (reading j).value = j := by
  cases j <;> rfl

theorem reading_members_eq_map (members : List (String × Json)) :
    readingMembers members = members.map fun m => (m.1, reading m.2) := by
  induction members with
  | nil => rfl
  | cons m rest ih => rw [readingMembers, ih, List.map_cons]

def Takes (kind : Kind) (before : Fields) (members : List (String × Json)) (after : Fields) :
    Prop :=
  takeFields kind before (readingMembers members) = .ok after

variable {kind : Kind} {fields before middle after : Fields}

theorem Takes.append {front behind : List (String × Json)} (first : Takes kind before front middle)
    (later : Takes kind middle behind after) : Takes kind before (front ++ behind) after := by
  unfold Takes at first later ⊢
  rw [reading_members_eq_map, List.map_append, ← reading_members_eq_map, ← reading_members_eq_map]
  generalize readingMembers front = readings at first ⊢
  induction readings generalizing before with
  | nil =>
      cases first
      exact later
  | cons r rest ih =>
      rw [List.cons_append, takeFields]
      rw [takeFields] at first
      cases taken : takeField kind before r.1 r.2 with
      | error mismatch =>
          rw [taken] at first
          cases first
      | ok fields =>
          rw [taken] at first
          exact ih first

theorem takes_one {name : String} {value : Json}
    (taken : takeField kind before name (reading value) = .ok after) :
    Takes kind before [(name, value)] after := by
  rw [Takes, readingMembers, takeFields, taken]
  rfl

theorem takes_optional {α : Type} {name : String} {value : Option α} {toJson : α → Json}
    (absent : value = none → after = before)
    (present : ∀ a ∈ value, takeField kind before name (reading (toJson a)) = .ok after) :
    Takes kind before (optionalMember name (value.map toJson)) after := by
  cases value with
  | none =>
      cases absent rfl
      rfl
  | some a => exact takes_one (present a rfl)

-- A member fills the empty field of its name.
theorem takes_name (known : (fieldNames kind).contains "attribute") (free : fields.name = none)
    (name : String) :
    Takes kind fields [("attribute", .string name)] { fields with name := some name } := by
  apply takes_one
  rw [takeField, if_pos known]
  simp only [fill, free]
  rfl

theorem takes_marker (known : (fieldNames kind).contains "multi_valued")
    (free : fields.marker = none) (marker : Cardinality) :
    Takes kind fields [("multi_valued", .string marker.name)]
      { fields with marker := some marker } := by
  apply takes_one
  rw [takeField, if_pos known]
  simp only [fill, free, reading_value, cardinality_of_name]
  rfl

theorem takes_value {value : Option AssertionValue}
    (known : value.isSome → (fieldNames kind).contains "value") (free : fields.value = none) :
    Takes kind fields (optionalMember "value" (value.map AssertionValue.toJson))
      { fields with value := value.map AssertionValue.narrow } := by
  apply takes_optional
  · rintro rfl
    rw [Option.map_none, ← free]
  · rintro b rfl
    rw [takeField, if_pos (known rfl)]
    simp only [fill, free, reading_value, narrow_value]
    rfl

theorem takes_initial {text : Option String}
    (known : text.isSome → (fieldNames kind).contains "initial") (free : fields.initial = none) :
    Takes kind fields (optionalMember "initial" (text.map .string))
      { fields with initial := text.map some } := by
  apply takes_optional
  · rintro rfl
    rw [Option.map_none, ← free]
  · rintro b rfl
    rw [takeField, if_pos (known rfl)]
    simp only [fill, free]
    rfl

theorem takes_final {text : Option String}
    (known : text.isSome → (fieldNames kind).contains "final") (free : fields.final = none) :
    Takes kind fields (optionalMember "final" (text.map .string))
      { fields with final := text.map some } := by
  apply takes_optional
  · rintro rfl
    rw [Option.map_none, ← free]
  · rintro b rfl
    rw [takeField, if_pos (known rfl)]
    simp only [fill, free]
    rfl

theorem takes_any {texts : Option (List String)}
    (known : texts.isSome → (fieldNames kind).contains "any") (free : fields.any = none) :
    Takes kind fields (optionalMember "any" (texts.map fun texts => .array (texts.map .string)))
      { fields with any := texts } := by
  apply takes_optional
  · rintro rfl
    rw [← free]
  · rintro b rfl
    rw [takeField, if_pos (known rfl)]
    simp only [fill, free, reading_value, strings_of]
    rfl

def ReadsTags (kindOf : Json → Except Mismatch Kind) : Prop :=
  ∀ kind : Kind, kindOf (.string kind.tag) = .ok kind

theorem kind_reads_tags : ReadsTags kindOf := by
  intro kind
  cases kind <;> rfl

theorem inner_kind_reads_tags : ReadsTags innerKindOf := by
  intro kind
  cases kind <;> rfl

/-- An object that is read as the filter, at the outermost place and inside another filter. -/
def Decodes (j : Json) (f : Filter) : Prop :=
  ∃ members, j = .object members ∧ ∀ kindOf, ReadsTags kindOf →
    filterOfMembers kindOf (readingMembers members) = .ok f

theorem Decodes.whole {j : Json} {f : Filter} (decodes : Decodes j f) : filterOfJson j = .ok f := by
  obtain ⟨members, rfl, read⟩ := decodes
  exact read kindOf kind_reads_tags

theorem Decodes.inner {j : Json} {f : Filter} (decodes : Decodes j f) :
    (reading j).filter = .ok f ∧ (reading j).aliasFilter = .ok (some f) := by
  obtain ⟨members, rfl, read⟩ := decodes
  have inner := read innerKindOf inner_kind_reads_tags
  constructor
  · exact inner
  · rw [reading, Reading.aliasFilter]
    simp only [inner]
    rfl

theorem takes_alias {stored : Filter → Json} {aliasFilter : Option Filter}
    (decodes : ∀ g ∈ aliasFilter, Decodes (stored g) g.narrow)
    (known : (fieldNames kind).contains "alias") (free : fields.aliasFilter = none) :
    Takes kind fields (optionalMember "alias" (aliasFilter.map stored))
      { fields with aliasFilter := aliasFilter.map (some ·.narrow) } := by
  apply takes_optional
  · rintro rfl
    rw [Option.map_none, ← free]
  · rintro g rfl
    rw [takeField, if_pos known]
    simp only [fill, free, (decodes g rfl).inner.2]
    rfl

theorem split_others {kindOf : Json → Except Mismatch Kind} {readings : List (String × Reading)}
    (others : ∀ r ∈ readings, r.1 ≠ "kind") :
    splitKind kindOf (some kind) readings = .ok (kind, readings) := by
  induction readings with
  | nil => rfl
  | cons r rest ih =>
      obtain ⟨here, later⟩ := List.forall_mem_cons.mp others
      rw [splitKind, if_neg here, ih later]
      rfl

theorem split_kind {kindOf : Json → Except Mismatch Kind} {front behind : List (String × Reading)}
    {tag : Reading} (reads : kindOf tag.value = .ok kind)
    (others : ∀ r ∈ front ++ behind, r.1 ≠ "kind") :
    splitKind kindOf none (front ++ ("kind", tag) :: behind) = .ok (kind, front ++ behind) := by
  induction front with
  | nil =>
      rw [List.nil_append, splitKind, if_pos rfl]
      simp only [reads]
      exact split_others others
  | cons r rest ih =>
      obtain ⟨here, later⟩ := List.forall_mem_cons.mp others
      rw [List.cons_append, splitKind, if_neg here, ih later]
      rfl

theorem decodes_of_takes {front behind : List (String × Json)} {f : Filter}
    (others : ∀ m ∈ front ++ behind, m.1 ≠ "kind")
    (taken : Takes kind {} (front ++ behind) fields)
    (built : assemble kind fields .missingField = .ok f) :
    Decodes (.object (front ++ ("kind", .string kind.tag) :: behind)) f := by
  refine ⟨_, rfl, ?_⟩
  intro kindOf reads
  have tag : kindOf (reading (.string kind.tag)).value = .ok kind := reads kind
  have named : ∀ r ∈ readingMembers front ++ readingMembers behind, r.1 ≠ "kind" := by
    rw [reading_members_eq_map, reading_members_eq_map, ← List.map_append]
    intro r inside
    obtain ⟨m, member, rfl⟩ := List.mem_map.mp inside
    exact others m member
  have whole : readingMembers (front ++ ("kind", .string kind.tag) :: behind) =
      readingMembers front ++ ("kind", reading (.string kind.tag)) :: readingMembers behind := by
    simp only [reading_members_eq_map, List.map_append, List.map_cons]
  have taken : takeFields kind {} (readingMembers front ++ readingMembers behind) = .ok fields := by
    rw [← taken, reading_members_eq_map, reading_members_eq_map, reading_members_eq_map,
      List.map_append]
  rw [filterOfMembers, whole, split_kind tag named]
  change (takeFields kind {} (readingMembers front ++ readingMembers behind) >>=
    fun fields => assemble kind fields .missingField) = _
  rw [taken]
  exact built

end FilterQuery.Decode
