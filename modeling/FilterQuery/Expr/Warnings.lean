import FilterQuery.Expr.Eval

/-!
What an evaluation warns about, in the order in which it comes upon it. Parts that are not evaluated
give no warning.
-/
namespace FilterQuery

inductive EvalWarning where
  | unknownFunction (name : String)
  | patternTooLarge (pattern : String)
deriving DecidableEq, Repr, Inhabited

variable [Like.PatternRoom]

def EvalWarning.message : EvalWarning → String
  | .unknownFunction name => "Unknown function in document expression: " ++ name
  | .patternTooLarge pattern =>
    "Invalid LIKE pattern '" ++ pattern ++ "': Compiled regex exceeds size limit of " ++
      toString Like.PatternRoom.limit ++ " bytes."

namespace Expr

def comparisonWarnings (op : BinaryOp) (left right : Option Json) : List EvalWarning :=
  match op, left, right with
  | .like, some (.string text), some (.string pattern) =>
    if (Like.matches? pattern text).isNone then [.patternTooLarge pattern] else []
  | _, _, _ => []

/-- Elements up to the first one that satisfies the test, which is looked at as well. -/
def untilFirst {α : Type} (test : α → Bool) : List α → List α
  | [] => []
  | a :: rest => if test a then [a] else a :: untilFirst test rest

def isConnective (op : BinaryOp) : Bool := op = .and || op = .or

mutual
def warnings (doc : Json) : Scope → Expr → List EvalWarning
  | _, .path _ => []
  | _, .literal _ => []
  | _, .array _ => []
  | scope, .binary left op right =>
    let leftValue := eval doc scope left
    warnings doc scope left ++
      if isConnective op || leftValue.isSome then
        warnings doc scope right ++ comparisonWarnings op leftValue (eval doc scope right)
      else []
  | scope, .not operand => warnings doc scope operand
  | scope, .isNotMissing operand => warnings doc scope operand
  | scope, .any element source condition =>
    warnings doc scope source ++
      match eval doc scope source with
      | some (.array values) =>
        let accepted := fun value =>
          truth (eval doc ((element, value) :: scope) condition) == some true
        (untilFirst accepted values).flatMap fun value =>
          warnings doc ((element, value) :: scope) condition
      | _ => []
  | scope, .call name args =>
    if name = lowerName then warningsOfFirst doc scope args else [.unknownFunction name]
  | scope, .grouped inner => warnings doc scope inner

def warningsOfFirst (doc : Json) : Scope → List Expr → List EvalWarning
  | _, [] => []
  | scope, arg :: _ => warnings doc scope arg
end

end Expr

end FilterQuery
