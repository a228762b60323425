/-!
# Pieces of sequences

A sequence is cut at the first of a given member, or at every one of them. The members at which it
is cut are left out.
-/

namespace BatchFrontier.Pieces

variable {α : Type} [DecidableEq α]

/-- A sequence cut at the first of a given member. -/
def cut (a : α) (xs : List α) : List α × List α :=
  (xs.takeWhile (· != a), (xs.dropWhile (· != a)).drop 1)

/-- A sequence cut at every one of a given member. -/
def split (a : α) : List α → List (List α)
  | [] => [[]]
  | x :: rest =>
    if x = a then [] :: split a rest
    else
      match split a rest with
      | [] => [[x]]
      | p :: ps => (x :: p) :: ps

example : split 0 [1, 0, 0, 2] = [[1], [], [2]] := by decide

end BatchFrontier.Pieces
