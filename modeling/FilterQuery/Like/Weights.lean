import FilterQuery.Like

/-!
An estimate of the room that a compiled pattern takes, for running the matcher. Wildcards stand for
many characters and weigh far more than literal ones.
-/
namespace FilterQuery.Like

def Piece.weight : Piece → Nat
  | .any => 1700
  | .one => 1700
  | .char c => 32 * c.utf8Size

def totalWeight (pieces : List Piece) : Nat := pieces.foldl (fun n p => n + p.weight) 0

instance : PatternRoom where
  limit := 10485760
  tooLarge pieces := 10485760 < totalWeight pieces

end FilterQuery.Like
