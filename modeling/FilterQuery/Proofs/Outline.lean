import FilterQuery.Explain
import FilterQuery.Proofs.DepthLimit

/-!
The outline of a filter. A node stands at a position: the way down from the root, by the numbers of
the parts that it leads through. Positions are ordered as words are, which puts a node before its
parts and the parts from left to right. An outline has one entry for each position, in that order
and at the level that the length of the position gives; and its deepest level is one less than the
depth of the filter.
-/
namespace FilterQuery

namespace Filter

/-- The node at a position, where a node has these parts. -/
def nodeAt? (parts : Filter → List Filter) : Filter → List Nat → Option Filter
  | f, [] => some f
  | f, i :: rest => (parts f)[i]?.bind fun g => nodeAt? parts g rest

theorem operand_is_child {f g : Filter} {i : Nat} (found : f.operands[i]? = some g) :
    f.children[i]? = some g := by
  cases f with
  | junction op operands => exact found
  | not operand => exact found
  | _ => cases found

-- The way through operands alone is a way through children.
theorem node_at_children {f node : Filter} {position : List Nat}
    (found : f.nodeAt? operands position = some node) :
    f.nodeAt? children position = some node := by
  induction position generalizing f with
  | nil => exact found
  | cons i rest ih =>
      obtain ⟨g, part, later⟩ := Option.bind_eq_some_iff.mp found
      exact Option.bind_eq_some_iff.mpr ⟨g, operand_is_child part, ih later⟩

theorem deepest_of_all (operands : List Filter) :
    operands = [] ∨ ∃ g ∈ operands, g.depth = depthOfAll operands := by
  induction operands with
  | nil => exact .inl rfl
  | cons operand rest ih =>
      right
      rw [depthOfAll]
      rcases Nat.le_total (depthOfAll rest) operand.depth with first | later
      · exact ⟨operand, List.mem_cons_self, (Nat.max_eq_left first).symm⟩
      · rw [Nat.max_eq_right later]
        rcases ih with rfl | ⟨g, inside, deepest⟩
        · have positive := operand.depth_positive
          rw [depthOfAll] at later
          omega
        · exact ⟨g, List.mem_cons_of_mem _ inside, deepest⟩

theorem deepest_child (f : Filter) :
    f.depth = 1 ∨ ∃ g ∈ f.children, f.depth = g.depth + 1 := by
  cases f with
  | leaf own test aliasFilter marker =>
      cases aliasFilter with
      | none => exact .inl rfl
      | some aliasFilter =>
          exact .inr ⟨aliasFilter, List.mem_singleton.mpr rfl, Nat.add_comm 1 _⟩
  | junction op operands =>
      rcases deepest_of_all operands with rfl | ⟨g, inside, deepest⟩
      · exact .inl rfl
      · exact .inr ⟨g, inside, by rw [depth, deepest, Nat.add_comm]⟩
  | not operand => exact .inr ⟨operand, List.mem_singleton.mpr rfl, Nat.add_comm 1 _⟩
  | _ => exact .inl rfl

end Filter

namespace Explain

open FilterQuery.Filter (nodeAt? children)

theorem entries_all_eq (level : Nat) (operands : List Filter) :
    entriesOfAll level operands = operands.flatMap (entries level) := by
  induction operands with
  | nil => rfl
  | cons operand rest ih => rw [entriesOfAll, ih, List.flatMap_cons]

theorem entries_eq (level : Nat) (f : Filter) :
    entries level f = ⟨level, f⟩ :: f.children.flatMap (entries (level + 1)) := by
  cases f with
  | leaf own test aliasFilter marker =>
      cases aliasFilter <;> simp [entries, entriesOfAlias, children]
  | junction op operands => rw [entries, entries_all_eq, children]
  | not operand => simp [entries, children]
  | _ => rfl

/-- Entries at and below a level for the positions that have a node: one for each, in the order of
positions. -/
structure Outlines (node? : List Nat → Option Filter) (level : Nat) (positions : List (List Nat))
    (listed : List Entry) : Prop where
  ordered : positions.Pairwise (· < ·)
  complete : ∀ p, p ∈ positions ↔ (node? p).isSome
  each : List.Forall₂ (fun p e => node? p = some e.node ∧ e.level = level + p.length)
    positions listed

def below? (parts : List Filter) : List Nat → Option Filter
  | [] => none
  | i :: rest => parts[i]?.bind fun g => g.nodeAt? children rest

def nextPart : List Nat → List Nat := List.modifyHead (· + 1)

section Parts

variable {g : Filter} {rest : List Filter} {level : Nat} {first later : List (List Nat)}
  {firstListed laterListed : List Entry}

theorem outlines_ordered (here : first.Pairwise (· < ·)) (others : later.Pairwise (· < ·))
    (proper : [] ∉ later) : (first.map (0 :: ·) ++ later.map nextPart).Pairwise (· < ·) := by
  refine List.pairwise_append.mpr ⟨?_, ?_, ?_⟩
  · refine List.pairwise_map.mpr (here.imp fun below => ?_)
    exact List.cons_lt_cons_iff.mpr (.inr ⟨rfl, below⟩)
  · refine List.pairwise_map.mpr (others.imp_of_mem ?_)
    rintro (_ | ⟨i, p⟩) (_ | ⟨j, q⟩) pInside qInside below
    · exact absurd pInside proper
    · exact absurd pInside proper
    · exact absurd qInside proper
    · simpa [nextPart, List.cons_lt_cons_iff] using below
  · intro p pInside q qInside
    obtain ⟨p, _, rfl⟩ := List.mem_map.mp pInside
    obtain ⟨_ | ⟨j, q⟩, qLater, rfl⟩ := List.mem_map.mp qInside
    · exact absurd qLater proper
    · exact List.cons_lt_cons_iff.mpr (.inl (Nat.succ_pos j))

theorem below_first (p : List Nat) :
    below? (g :: rest) (0 :: p) = g.nodeAt? children p := rfl

theorem below_later (i : Nat) (p : List Nat) :
    below? (g :: rest) ((i + 1) :: p) = below? rest (i :: p) := rfl

theorem outlines_complete (here : ∀ p, p ∈ first ↔ (g.nodeAt? children p).isSome)
    (others : ∀ p, p ∈ later ↔ (below? rest p).isSome) (p : List Nat) :
    p ∈ first.map (0 :: ·) ++ later.map nextPart ↔ (below? (g :: rest) p).isSome := by
  have proper : [] ∉ later := fun inside => nomatch (others []).mp inside
  rw [List.mem_append, List.mem_map, List.mem_map]
  rcases p with _ | ⟨_ | i, p⟩
  · refine iff_of_false ?_ (by simp [below?])
    rintro (⟨_, _, impossible⟩ | ⟨_ | ⟨j, q⟩, inside, impossible⟩)
    · cases impossible
    · exact proper inside
    · cases impossible
  · rw [below_first, ← here]
    constructor
    · rintro (⟨q, inside, same⟩ | ⟨_ | ⟨j, q⟩, inside, impossible⟩)
      · cases same
        exact inside
      · exact absurd inside proper
      · cases impossible
    · exact fun inside => .inl ⟨p, inside, rfl⟩
  · rw [below_later, ← others]
    constructor
    · rintro (⟨q, inside, impossible⟩ | ⟨_ | ⟨j, q⟩, inside, same⟩)
      · cases impossible
      · exact absurd inside proper
      · cases same
        exact inside
    · exact fun inside => .inr ⟨i :: p, inside, rfl⟩

theorem outlines_cons (here : Outlines (g.nodeAt? children) (level + 1) first firstListed)
    (others : Outlines (below? rest) level later laterListed) :
    Outlines (below? (g :: rest)) level (first.map (0 :: ·) ++ later.map nextPart)
      (firstListed ++ laterListed) := by
  constructor
  · exact outlines_ordered here.ordered others.ordered
      fun inside => nomatch (others.complete []).mp inside
  · exact outlines_complete here.complete others.complete
  · refine List.rel_append ?_ ?_
    · refine List.forall₂_map_left_iff.mpr (here.each.imp ?_)
      rintro p e ⟨found, at_level⟩
      exact ⟨found, by rw [at_level, List.length_cons]; omega⟩
    · refine List.forall₂_map_left_iff.mpr (others.each.imp ?_)
      rintro (_ | ⟨i, p⟩) e ⟨found, at_level⟩
      · cases found
      · exact ⟨found, at_level⟩

end Parts

theorem outlines_parts {level : Nat} (parts : List Filter)
    (each : ∀ g ∈ parts, ∃ positions,
      Outlines (g.nodeAt? children) (level + 1) positions (entries (level + 1) g)) :
    ∃ positions, Outlines (below? parts) level positions
      (parts.flatMap (entries (level + 1))) := by
  induction parts with
  | nil =>
      refine ⟨[], .nil, ?_, .nil⟩
      intro p
      cases p <;> simp [below?]
  | cons g rest ih =>
      obtain ⟨first, here⟩ := each g List.mem_cons_self
      obtain ⟨later, others⟩ := ih fun h inside => each h (List.mem_cons_of_mem g inside)
      exact ⟨_, outlines_cons here others⟩

theorem outlines_entries (f : Filter) (level : Nat) :
    ∃ positions, Outlines (f.nodeAt? children) level positions (entries level f) := by
  induction f using Filter.children_induction generalizing level with
  | node f ih =>
      obtain ⟨positions, parts⟩ := outlines_parts f.children fun g inside => ih g inside (level + 1)
      rw [entries_eq]
      refine ⟨[] :: positions, ?_, ?_, .cons ⟨rfl, rfl⟩ ?_⟩
      · refine List.pairwise_cons.mpr ⟨?_, parts.ordered⟩
        rintro (_ | ⟨i, p⟩) inside
        · cases (parts.complete []).mp inside
        · exact List.nil_lt_cons i p
      · rintro (_ | ⟨i, p⟩)
        · simp [nodeAt?]
        · rw [List.mem_cons, or_iff_right (List.cons_ne_nil i p), parts.complete]
          rfl
      · refine parts.each.imp ?_
        rintro (_ | ⟨i, p⟩) e ⟨found, at_level⟩
        · cases found
        · exact ⟨found, at_level⟩

theorem entries_above {level : Nat} {f : Filter} {e : Entry} (inside : e ∈ entries level f) :
    e.level < level + f.depth := by
  induction f using Filter.children_induction generalizing level with
  | node f ih =>
      rw [entries_eq, List.mem_cons, List.mem_flatMap] at inside
      rcases inside with rfl | ⟨g, child, later⟩
      · have positive := f.depth_positive
        exact Nat.lt_add_of_pos_right positive
      · have above := ih g child later
        have shallower := Filter.depth_child child
        omega

theorem entries_reach (level : Nat) (f : Filter) :
    ∃ e ∈ entries level f, e.level + 1 = level + f.depth := by
  induction f using Filter.children_induction generalizing level with
  | node f ih =>
      rw [entries_eq]
      rcases f.deepest_child with flat | ⟨g, child, deepest⟩
      · exact ⟨⟨level, f⟩, List.mem_cons_self, by rw [flat]⟩
      · obtain ⟨e, inside, reached⟩ := ih g child (level + 1)
        refine ⟨e, List.mem_cons_of_mem _ (List.mem_flatMap.mpr ⟨g, child, inside⟩), ?_⟩
        omega

theorem deepest_level (f : Filter) :
    ∃ deepest, ((entries 0 f).map (·.level)).max? = some deepest ∧ f.depth = deepest + 1 := by
  obtain ⟨e, inside, reached⟩ := entries_reach 0 f
  refine ⟨e.level, List.max?_eq_some_iff.mpr ⟨List.mem_map.mpr ⟨e, inside, rfl⟩, ?_⟩, by omega⟩
  intro level listed
  obtain ⟨other, found, rfl⟩ := List.mem_map.mp listed
  have above := entries_above found
  omega

end Explain

end FilterQuery
