import FilterQuery.Proofs.DirectoryReader
import Mathlib.Tactic.TFAE

/-!
The brackets of a directory query and what stands between them. Readers differ in what they take for
a test, but a bracket inside one is escaped for all of them. That alone settles how a text falls
into tests, junctions and negations, and each of these has one pair of brackets. So a text with as
many brackets as a query should have cannot be taken for another query.
-/
namespace FilterQuery.DirectoryQuery

/-- A query whose tests are left as they are written. -/
inductive Skeleton where
  | test (body : List Char)
  | junction (op : Junction) (operands : List Skeleton)
  | not (operand : Skeleton)

def brackets : List Char := ['(', ')']

def Unbracketed (body : List Char) : Prop := ∀ c ∈ body, c ∉ brackets

namespace Skeleton

mutual
def write : Skeleton → List Char
  | .test body => '(' :: (body ++ [')'])
  | .junction op operands => '(' :: op.symbol :: (writeAll operands ++ [')'])
  | .not operand => '(' :: '!' :: (operand.write ++ [')'])

def writeAll : List Skeleton → List Char
  | [] => []
  | operand :: rest => operand.write ++ writeAll rest
end

mutual
def size : Skeleton → Nat
  | .test _ => 1
  | .junction _ operands => sizeAll operands + 1
  | .not operand => operand.size + 1

def sizeAll : List Skeleton → Nat
  | [] => 0
  | operand :: rest => operand.size + sizeAll rest
end

/-- A query by the grammar, where `isTest` tells what stands in the brackets of a test. -/
inductive Built (isTest : List Char → Prop) : Skeleton → Prop where
  | test {body : List Char} (taken : isTest body) : Built isTest (.test body)
  | junction {op : Junction} {operands : List Skeleton} (some : operands ≠ [])
      (all : ∀ s ∈ operands, Built isTest s) : Built isTest (.junction op operands)
  | not {operand : Skeleton} (inner : Built isTest operand) : Built isTest (.not operand)

theorem Built.mono {isTest isTest' : List Char → Prop} (weaker : ∀ body, isTest body → isTest' body)
    {s : Skeleton} (built : Built isTest s) : Built isTest' s := by
  induction built with
  | test taken => exact .test (weaker _ taken)
  | junction some _ ih => exact .junction some ih
  | not _ ih => exact .not ih

theorem symbol_unbracketed (op : Junction) : op.symbol ∉ brackets := by
  cases op <;> decide

section Count

variable {b : Char}

theorem count_pair (bracket : b ∈ brackets) (inside : List Char) :
    ('(' :: (inside ++ [')'])).count b = inside.count b + 1 := by
  simp only [brackets, List.mem_cons, List.not_mem_nil, or_false] at bracket
  rcases bracket with rfl | rfl <;> simp

theorem count_signed (bracket : b ∈ brackets) {sign : Char} (other : sign ∉ brackets)
    (inside : List Char) : ('(' :: sign :: (inside ++ [')'])).count b = inside.count b + 1 := by
  have apart : sign ≠ b := fun same => other (same ▸ bracket)
  have pair := count_pair bracket (sign :: inside)
  rwa [List.count_cons_of_ne apart] at pair

theorem count_unbracketed (bracket : b ∈ brackets) {body : List Char} (free : Unbracketed body) :
    body.count b = 0 :=
  List.count_eq_zero.mpr fun inside => free b inside bracket

mutual
theorem size_le_count (bracket : b ∈ brackets) (s : Skeleton) : s.size ≤ s.write.count b := by
  cases s with
  | test body =>
      rw [write, size, count_pair bracket]
      omega
  | junction op operands =>
      have inside := size_all_le_count bracket operands
      rw [write, size, count_signed bracket (symbol_unbracketed op)]
      omega
  | not operand =>
      have inside := size_le_count bracket operand
      rw [write, size, count_signed bracket (by decide)]
      omega

theorem size_all_le_count (bracket : b ∈ brackets) (operands : List Skeleton) :
    sizeAll operands ≤ (writeAll operands).count b := by
  cases operands with
  | nil => exact Nat.zero_le _
  | cons first rest =>
      have here := size_le_count bracket first
      have later := size_all_le_count bracket rest
      rw [writeAll, sizeAll, List.count_append]
      omega
end

theorem count_all_eq {operands : List Skeleton}
    (each : ∀ s ∈ operands, s.write.count b = s.size) :
    (writeAll operands).count b = sizeAll operands := by
  induction operands with
  | nil => rfl
  | cons first rest ih =>
      obtain ⟨here, later⟩ := List.forall_mem_cons.mp each
      rw [writeAll, sizeAll, List.count_append, here, ih later]

-- No operand has too few brackets, so none can make up for those that another has too many.
theorem count_each_eq (bracket : b ∈ brackets) {operands : List Skeleton}
    (total : (writeAll operands).count b = sizeAll operands) :
    ∀ s ∈ operands, s.write.count b = s.size := by
  induction operands with
  | nil => simp
  | cons first rest ih =>
      have here := size_le_count bracket first
      have later := size_all_le_count bracket rest
      rw [writeAll, sizeAll, List.count_append] at total
      exact List.forall_mem_cons.mpr ⟨by omega, ih (by omega)⟩

theorem Built.count {s : Skeleton} (built : s.Built Unbracketed) (bracket : b ∈ brackets) :
    s.write.count b = s.size := by
  induction built with
  | test free => rw [write, size, count_pair bracket, count_unbracketed bracket free]
  | junction _ _ ih =>
      rw [write, size, count_signed bracket (symbol_unbracketed _), count_all_eq ih]
  | not _ ih => rw [write, size, count_signed bracket (by decide), ih]

theorem unbracketed_of_count {s : Skeleton} {isTest : List Char → Prop} (built : s.Built isTest)
    (counts : ∀ b ∈ brackets, s.write.count b = s.size) : s.Built Unbracketed := by
  induction built with
  | test =>
      refine .test fun b inside bracket => ?_
      have none := counts b bracket
      rw [write, size, count_pair bracket] at none
      exact List.count_eq_zero.mp (Nat.succ.inj none) inside
  | @junction op operands some _ ih =>
      refine .junction some fun s member => ih s member fun b bracket => ?_
      have total := counts b bracket
      rw [write, size, count_signed bracket (symbol_unbracketed op)] at total
      exact count_each_eq bracket (Nat.succ.inj total) s member
  | not _ ih =>
      refine .not (ih fun b bracket => ?_)
      have total := counts b bracket
      rw [write, size, count_signed bracket (by decide)] at total
      exact Nat.succ.inj total

end Count

theorem write_opens (s : Skeleton) : ∃ cs, s.write = '(' :: cs := by
  cases s <;> exact ⟨_, rfl⟩

theorem write_all_opens {operands : List Skeleton} (some : operands ≠ []) (rest : List Char) :
    ∃ cs, writeAll operands ++ rest = '(' :: cs := by
  cases operands with
  | nil => exact absurd rfl some
  | cons first later =>
      obtain ⟨cs, opens⟩ := write_opens first
      exact ⟨_, by rw [writeAll, opens]; rfl⟩

theorem body_ends {body body' : List Char} (free : Unbracketed body) (free' : Unbracketed body')
    {rest rest' : List Char} (same : body ++ ')' :: rest = body' ++ ')' :: rest') :
    body = body' ∧ rest = rest' := by
  induction body generalizing body' with
  | nil =>
      cases body' with
      | nil => exact ⟨rfl, (List.cons.inj same).2⟩
      | cons c cs =>
          obtain ⟨rfl, _⟩ := List.cons.inj same
          exact absurd (by decide) (free' _ List.mem_cons_self)
  | cons c cs ih =>
      cases body' with
      | nil =>
          obtain ⟨rfl, _⟩ := List.cons.inj same
          exact absurd (by decide) (free _ List.mem_cons_self)
      | cons c' cs' =>
          obtain ⟨rfl, tails⟩ := List.cons.inj same
          obtain ⟨rfl, rests⟩ := ih (List.forall_mem_cons.mp free).2
            (List.forall_mem_cons.mp free').2 tails
          exact ⟨rfl, rests⟩

def sign? : Skeleton → Option Char
  | .test _ => none
  | .junction op _ => some op.symbol
  | .not _ => some '!'

theorem signed_opens {s : Skeleton} {isTest : List Char → Prop} (built : s.Built isTest)
    {sign : Char} (signed : s.sign? = some sign) (rest : List Char) :
    sign ∉ brackets ∧ ∃ cs, s.write ++ rest = '(' :: sign :: '(' :: cs := by
  cases built with
  | test => cases signed
  | @junction op operands some _ =>
      cases signed
      obtain ⟨cs, opens⟩ := write_all_opens some (')' :: rest)
      exact ⟨symbol_unbracketed op, cs, by simp [write, ← opens]⟩
  | @not operand _ =>
      cases signed
      obtain ⟨cs, opens⟩ := write_opens operand
      exact ⟨by decide, cs ++ ')' :: rest, by simp [write, opens]⟩

-- A test may begin with a sign, but no bracket follows that sign.
theorem body_unsigned {body : List Char} (free : Unbracketed body) {sign : Char}
    (other : sign ∉ brackets) (rest cs : List Char) : body ++ ')' :: rest ≠ sign :: '(' :: cs := by
  intro same
  match body, free with
  | [], _ =>
      obtain ⟨rfl, _⟩ := List.cons.inj same
      exact other (by decide)
  | [c], _ =>
      obtain ⟨_, next⟩ := List.cons.inj same
      exact absurd (List.cons.inj next).1 (by decide)
  | c :: d :: _, free =>
      obtain ⟨_, next⟩ := List.cons.inj same
      obtain ⟨rfl, _⟩ := List.cons.inj next
      exact free '(' (by simp) (by decide)

theorem unsigned_beside {s t : Skeleton} (first : s.Built Unbracketed)
    (second : t.Built Unbracketed) {rest rest' : List Char}
    (same : s.write ++ rest = t.write ++ rest') (unsigned : s.sign? = none) : t.sign? = none := by
  cases first with
  | junction => cases unsigned
  | not => cases unsigned
  | @test body free =>
      cases signed : t.sign? with
      | none => rfl
      | some sign =>
          obtain ⟨other, cs, opens⟩ := signed_opens second signed rest'
          rw [opens] at same
          simp only [write, List.cons_append, List.append_assoc, List.nil_append] at same
          exact absurd (List.cons.inj same).2 (body_unsigned free other _ _)

theorem same_sign {s t : Skeleton} (first : s.Built Unbracketed) (second : t.Built Unbracketed)
    {rest rest' : List Char} (same : s.write ++ rest = t.write ++ rest') : s.sign? = t.sign? := by
  cases signed : s.sign? with
  | none => exact (unsigned_beside first second same signed).symm
  | some sign =>
      cases signed' : t.sign? with
      | none => rw [unsigned_beside second first same.symm signed'] at signed; cases signed
      | some sign' =>
          obtain ⟨_, _, opens⟩ := signed_opens first signed rest
          obtain ⟨_, _, opens'⟩ := signed_opens second signed' rest'
          rw [opens, opens'] at same
          rw [(List.cons.inj (List.cons.inj same).2).1]

theorem symbol_inj {op op' : Junction} (same : op.symbol = op'.symbol) : op = op' := by
  cases op <;> cases op' <;> simp_all [Junction.symbol]

theorem symbol_not (op : Junction) : op.symbol ≠ '!' := by
  cases op <;> decide

def Alone (s : Skeleton) : Prop :=
  ∀ (t : Skeleton) (rest rest' : List Char), t.Built Unbracketed →
    s.write ++ rest = t.write ++ rest' → s = t ∧ rest = rest'

theorem write_all_alone {operands others : List Skeleton} (alone : ∀ s ∈ operands, s.Alone)
    (built : ∀ t ∈ others, t.Built Unbracketed) {rest rest' : List Char}
    (same : writeAll operands ++ ')' :: rest = writeAll others ++ ')' :: rest') :
    operands = others ∧ rest = rest' := by
  induction operands generalizing others with
  | nil =>
      cases others with
      | nil => exact ⟨rfl, (List.cons.inj same).2⟩
      | cons t _ =>
          obtain ⟨cs, opens⟩ := write_all_opens (List.cons_ne_nil t _) (')' :: rest')
          rw [opens] at same
          exact absurd (List.cons.inj same).1 (by decide)
  | cons s later ih =>
      cases others with
      | nil =>
          obtain ⟨cs, opens⟩ := write_all_opens (List.cons_ne_nil s later) (')' :: rest)
          rw [opens] at same
          exact absurd (List.cons.inj same).1 (by decide)
      | cons t others =>
          obtain ⟨here, next⟩ := List.forall_mem_cons.mp alone
          obtain ⟨one, many⟩ := List.forall_mem_cons.mp built
          simp only [writeAll, List.append_assoc] at same
          obtain ⟨rfl, tails⟩ := here t _ _ one same
          obtain ⟨rfl, rests⟩ := ih next many tails
          exact ⟨rfl, rests⟩

theorem Built.alone {s : Skeleton} (built : s.Built Unbracketed) : s.Alone := by
  induction built with
  | @test body free =>
      intro t rest rest' other same
      have signs := same_sign (.test free) other same
      cases other with
      | junction => cases signs
      | not => cases signs
      | test free' =>
          simp only [write, List.cons_append, List.append_assoc] at same
          obtain ⟨rfl, rests⟩ := body_ends free free' (List.cons.inj same).2
          exact ⟨rfl, rests⟩
  | @junction op operands some all ih =>
      intro t rest rest' other same
      have signs := same_sign (.junction some all) other same
      cases other with
      | test => cases signs
      | not => exact absurd (Option.some.inj signs) (symbol_not op)
      | junction _ others =>
          simp only [write, List.cons_append, List.append_assoc, List.nil_append] at same
          obtain ⟨rfl, rests⟩ := write_all_alone ih others (List.cons.inj (List.cons.inj same).2).2
          exact ⟨by rw [symbol_inj (Option.some.inj signs)], rests⟩
  | not inner ih =>
      intro t rest rest' other same
      have signs := same_sign (.not inner) other same
      cases other with
      | test => cases signs
      | junction => exact absurd (Option.some.inj signs).symm (symbol_not _)
      | not inner' =>
          simp only [write, List.cons_append, List.append_assoc, List.nil_append] at same
          obtain ⟨rfl, rests⟩ := ih _ _ _ inner' (List.cons.inj (List.cons.inj same).2).2
          exact ⟨rfl, (List.cons.inj rests).2⟩

theorem write_injective {s t : Skeleton} (first : s.Built Unbracketed)
    (second : t.Built Unbracketed) (same : s.write = t.write) : s = t :=
  (first.alone t [] [] second (by rw [same])).1

end Skeleton

mutual
def skeleton : DirectoryQuery → Skeleton
  | .compare op name value => .test (name.toList ++ op.symbol.toList ++ escape value)
  | .presence name => .test (name.toList ++ "=*".toList)
  | .substring name components => .test (name.toList ++ '=' :: writeComponents components)
  | .junction op operands => .junction op (skeletons operands)
  | .not operand => .not operand.skeleton

def skeletons : List DirectoryQuery → List Skeleton
  | [] => []
  | operand :: rest => operand.skeleton :: skeletons rest
end

theorem skeletons_eq_map (queries : List DirectoryQuery) :
    skeletons queries = queries.map skeleton := by
  induction queries with
  | nil => rfl
  | cons q rest ih => rw [skeletons, ih, List.map_cons]

mutual
theorem write_skeleton (q : DirectoryQuery) : q.skeleton.write = q.write := by
  cases q with
  | compare op name value => rfl
  | presence name => simp [skeleton, Skeleton.write, write]
  | substring name components => simp [skeleton, Skeleton.write, write]
  | junction op operands =>
      rw [skeleton, Skeleton.write, write_skeletons operands, write]
  | not operand => rw [skeleton, Skeleton.write, write_skeleton operand, write]

theorem write_skeletons (queries : List DirectoryQuery) :
    Skeleton.writeAll (skeletons queries) = writeAll queries := by
  cases queries with
  | nil => rfl
  | cons q rest =>
      rw [skeletons, Skeleton.writeAll, write_skeleton q, write_skeletons rest, writeAll]
end

/-- What a reader takes for a test. Rules of one kind or another are for it to accept, but no
bracket stands in a test unless it is escaped. -/
structure TestSyntax where
  isTest : List Char → Prop
  unbracketed : ∀ body, isTest body → Unbracketed body

variable {tests : TestSyntax}

def TestSyntax.Splits (tests : TestSyntax) (text : String) (s : Skeleton) : Prop :=
  s.write = text.toList ∧ s.Built tests.isTest

theorem Skeleton.Built.unbracketed {s : Skeleton} (built : s.Built tests.isTest) :
    s.Built Unbracketed := built.mono tests.unbracketed

/-- A text is divided like its query if each test is one that the reader takes. If one is not, no
way to divide the text has the size of the query. -/
theorem splits_tfae {q : DirectoryQuery} {isTest : List Char → Prop}
    (shape : q.skeleton.Built isTest) : List.TFAE
      [q.skeleton.Built tests.isTest,
       ∀ s, tests.Splits q.text s ↔ s = q.skeleton,
       ∃ s, tests.Splits q.text s ∧ s.size = q.skeleton.size] := by
  have written : q.text.toList = q.skeleton.write := by
    rw [text, String.toList_ofList, write_skeleton]
  tfae_have 1 → 2 := by
    intro built s
    constructor
    · rintro ⟨same, other⟩
      exact Skeleton.write_injective other.unbracketed built.unbracketed (same.trans written)
    · rintro rfl
      exact ⟨written.symm, built⟩
  tfae_have 2 → 3 := fun only => ⟨_, (only _).mpr rfl, rfl⟩
  tfae_have 3 → 1 := by
    rintro ⟨s, ⟨same, built⟩, size⟩
    rw [written] at same
    have counts : ∀ b ∈ brackets, q.skeleton.write.count b = q.skeleton.size := by
      intro b bracket
      rw [← same, ← size]
      exact built.unbracketed.count bracket
    have free := Skeleton.unbracketed_of_count shape counts
    rwa [Skeleton.write_injective built.unbracketed free same] at built
  tfae_finish

end FilterQuery.DirectoryQuery
