import FilterQuery.Proofs.LikeMatching
import FilterQuery.Proofs.Membership

/-!
What a filter says of a document, without any expression in between: it holds, it fails, or it is
open. A leaf judges what its name stands for, an array through its elements where the attribute is
known to hold one; *and*, *or* and *not* follow the truths of their operands.

An alias stands in for the value of an attribute, and there a field that is missing differs from a
truth that is open: the first leaves the comparison open, the second is null and equals nothing.
`valueAt` is the value of a filter in that place. RAW text may lead to more RAW text without end,
so both go down a number of levels, as compilation does.
-/
namespace FilterQuery.Meaning

open FilterQuery.Expr (equalValues orderOfValues lowerValue ofBool? truth)

/-- What names stand for: the fields of a document, behind the elements that are being judged. -/
abbrev Record := String → Option Json

namespace Record

def ofDocument (doc : Json) : Record := fun name => doc.field? name

def bind (r : Record) (name : String) (element : Json) : Record :=
  fun other => if other = name then some element else r other

end Record

variable [Like.PatternRoom]

def substringTest (c : Components) (text : String) : Option Bool :=
  if Like.PatternRoom.tooLarge (Like.pieces (Like.ofComponents c)) then none
  else some (c.holdIn text.toList)

/-- A test on one value. Only presence has an answer where the value is missing. -/
def judge (found : Option Json) : Test → Option Bool
  | .compare .equality value => found.map (equalValues · value.toJson)
  | .compare .atLeast value => (found.bind (orderOfValues · value.toJson)).map (· != .lt)
  | .compare .atMost value => (found.bind (orderOfValues · value.toJson)).map (· != .gt)
  | .compare .approximate _ => none
  | .presence => some found.isSome
  | .substring components => (found.bind Json.string?).bind (substringTest components)

def someElement (found : Option Json) (passes : Json → Option Bool) : Option Bool :=
  match found with
  | some (.array items) => some (items.any fun item => passes item == some true)
  | _ => none

/-- An equality on an attribute of unknown shape. A single value that differs leaves it open, since
an array would have been searched. -/
def judgeEitherShape (found : Option Json) (value : AssertionValue) : Option Bool :=
  match found with
  | some (.array items) =>
    some (equalValues (.array items) value.toJson || items.any (equalValues · value.toJson))
  | some single => if equalValues single value.toJson then some true else none
  | none => none

def judgeLeaf (valueOf : Record → Filter → Option Json) (r : Record) (internal : String) :
    Test → Option Filter → Cardinality → Option Bool
  | .compare .equality value, some aliasFilter, .multi =>
    let element := Document.elementName internal
    someElement (r internal) fun item =>
      (valueOf (r.bind element item) (aliasFilter.withName element)).map
        (equalValues · value.toJson)
  | .compare .equality value, some aliasFilter, _ =>
    (valueOf r aliasFilter).map (equalValues · value.toJson)
  | .compare .equality value, none, .unknown => judgeEitherShape (r internal) value
  | test, _, .multi => someElement (r internal) fun item => judge (some item) test
  | test, _, _ => judge (r internal) test

def judgeNode (ctx : CompileContext) (truthOf : Filter → Option Bool)
    (valueOf : Record → Filter → Option Json) (r : Record) (node : Filter) : Option Bool :=
  match node with
  | .not operand => (truthOf operand).map (!·)
  | .junction op operands => op.verdict (operands.map truthOf)
  | .leaf _ test aliasFilter _ =>
    node.effectiveName?.bind fun name =>
      judgeLeaf valueOf r (ctx.resolve name) test aliasFilter (ctx.cardinality node)
  | .lowercase _ => none
  | .raw _ => none

def leafIsMissing (valueOf : Record → Filter → Option Json) (r : Record) (internal : String) :
    Test → Option Filter → Cardinality → Bool
  | _, _, .multi => false
  | .presence, _, _ => false
  | .compare .equality _, some aliasFilter, _ => (valueOf r aliasFilter).isNone
  | .compare .equality _, none, .unknown => false
  | _, _, _ => (r internal).isNone

/-- Whether a node is missing as a value, and not just open. Equalities of one attribute under an
*or* are one membership, which a missing field leaves missing. -/
def isMissing (ctx : CompileContext) (valueOf : Record → Filter → Option Json) (r : Record)
    (node : Filter) : Bool :=
  match node with
  | .not operand => (valueOf r operand).isNone
  | .junction .or operands =>
    match Document.memberValues? ctx operands with
    | some (name, _) => (r (ctx.resolve name)).isNone
    | none => false
  | .leaf _ test aliasFilter _ =>
    node.effectiveName?.any fun name =>
      leafIsMissing valueOf r (ctx.resolve name) test aliasFilter (ctx.cardinality node)
  | _ => false

/-- The value of a node that stands in for an attribute. Only the name under a LOWERCASE has a text
as its value; a junction of one operand is that operand. -/
def nodeValue (ctx : CompileContext) (valueOf : Record → Filter → Option Json) (r : Record)
    (node : Filter) : Option Json :=
  match node with
  | .lowercase name => (r name).map lowerValue
  | .junction _ [only] => valueOf r only
  | node =>
    if isMissing ctx valueOf r node then none
    else some (ofBool? (judgeNode ctx (fun f => truth (valueOf r f)) valueOf r node))

def valueAt (ctx : CompileContext) : Nat → Record → Filter → Option Json
  | 0, _, _ => none
  | levels + 1, r, f => (ctx.parsed? f).bind (nodeValue ctx (valueAt ctx levels) r)

/-- What a filter says of a record: true, false or, as `none`, open. -/
def meaningAt (ctx : CompileContext) : Nat → Record → Filter → Option Bool
  | 0, _, _ => none
  | levels + 1, r, f =>
    (ctx.parsed? f).bind (judgeNode ctx (meaningAt ctx levels r) (valueAt ctx levels) r)

variable {ctx : CompileContext} {valueOf : Record → Filter → Option Json} {r : Record}

theorem leaf_missing_open {internal : String} {test : Test} {aliasFilter : Option Filter}
    {shape : Cardinality} (missing : leafIsMissing valueOf r internal test aliasFilter shape) :
    judgeLeaf valueOf r internal test aliasFilter shape = none := by
  cases shape with
  | multi => simp [leafIsMissing] at missing
  | _ =>
      cases test with
      | presence => simp [leafIsMissing] at missing
      | substring components => simp_all [leafIsMissing, judgeLeaf, judge]
      | compare op value =>
          cases op <;> cases aliasFilter <;> simp_all [leafIsMissing, judgeLeaf, judge]

theorem missing_open {node : Filter} (missing : isMissing ctx valueOf r node)
    (members : ∀ operands name values,
      Document.memberValues? ctx operands = some (name, values) → r (ctx.resolve name) = none →
        Junction.or.verdict (operands.map fun f => truth (valueOf r f)) = none) :
    judgeNode ctx (fun f => truth (valueOf r f)) valueOf r node = none := by
  cases node with
  | lowercase name => rfl
  | raw text => rfl
  | not operand =>
      have absent : valueOf r operand = none := Option.isNone_iff_eq_none.mp missing
      simp [judgeNode, absent]
  | junction op operands =>
      cases op with
      | and => simp [isMissing] at missing
      | or =>
          cases found : Document.memberValues? ctx operands with
          | none => simp [isMissing, found] at missing
          | some pair =>
              have absent : r (ctx.resolve pair.1) = none := by
                simpa [isMissing, found] using missing
              exact members operands pair.1 pair.2 found absent
  | leaf own test aliasFilter marker =>
      cases named : (Filter.leaf own test aliasFilter marker).effectiveName? with
      | none => simp [isMissing, named] at missing
      | some name =>
          have absent : leafIsMissing valueOf r (ctx.resolve name) test aliasFilter
              (ctx.cardinality (.leaf own test aliasFilter marker)) = true := by
            simpa [isMissing, named] using missing
          simp [judgeNode, named, leaf_missing_open absent]

theorem member_open {levels : Nat} {operand : Filter} {name : String} {value : AssertionValue}
    (member : Document.memberValue? ctx operand = some (name, value))
    (absent : r (ctx.resolve name) = none) : meaningAt ctx levels r operand = none := by
  obtain ⟨⟨marker, rfl⟩, shape⟩ := Document.member_value_iff.mp member
  cases levels with
  | zero => rfl
  | succ levels =>
      change judgeNode ctx (meaningAt ctx levels r) (valueAt ctx levels) r
        (.leaf name (.compare .equality value) none marker) = none
      cases named : (Filter.leaf name (.compare .equality value) none marker).effectiveName? with
      | none => simp [judgeNode, named]
      | some found =>
          obtain ⟨_, rfl⟩ := Document.own_name_iff.mp named
          simp [judgeNode, named, shape, judgeLeaf, judge, absent]

theorem members_open {levels : Nat} {operands : List Filter} {name : String}
    {values : List AssertionValue}
    (members : Document.memberValues? ctx operands = some (name, values))
    (absent : r (ctx.resolve name) = none) :
    Junction.or.verdict (operands.map (meaningAt ctx levels r)) = none := by
  have all := Document.member_values_all members
  have open_all : operands.map (meaningAt ctx levels r) = operands.map fun _ => none := by
    apply List.map_congr_left
    intro operand inside
    obtain ⟨value, _, member⟩ := Compilation.exists_related all operand inside
    exact member_open member absent
  have nonempty : operands ≠ [] := by
    rintro rfl
    exact Document.member_values_nonempty members (by simpa using all)
  rw [open_all]
  exact Junction.verdict_open .or operands nonempty

theorem truth_valueAt (levels : Nat) (r : Record) (f : Filter) :
    truth (valueAt ctx levels r f) = meaningAt ctx levels r f := by
  -- On the levels, for all records at once: an element is judged in a record of its own.
  induction levels generalizing r f with
  | zero => rfl
  | succ levels ih =>
      have same : (fun f => truth (valueAt ctx levels r f)) = meaningAt ctx levels r :=
        funext fun f => ih r f
      cases parse : ctx.parsed? f with
      | none => simp [valueAt, meaningAt, parse]
      | some node =>
          simp only [valueAt, meaningAt, parse, Option.bind_some]
          unfold nodeValue
          split
          · exact Expr.truth_lower _
          · rename_i op only
            rw [ih]
            exact (Junction.verdict_one op _).symm
          · split
            · rename_i missing
              rw [← same, missing_open missing]
              · rfl
              · intro operands name values members absent
                rw [same]
                exact members_open members absent
            · rw [Expr.truth_ofBool, same]

end FilterQuery.Meaning
