import BatchFrontier.Text.Code

/-!
# Searching in texts

Whether a text occurs in another, and what a text becomes when every occurrence of another is
replaced.
-/

namespace BatchFrontier.Text

/-- Whether a pattern occurs in a text. -/
def occursIn {α : Type} [BEq α] (pattern : List α) : List α → Bool
  | [] => pattern.isEmpty
  | c :: cs => pattern.isPrefixOf (c :: cs) || occursIn pattern cs

/-- The codes after every occurrence of a pattern was replaced, from the front; the first `skip`
codes belong to an occurrence that was replaced already. -/
def replaceCodes (pattern new : List Code) : Nat → List Code → List Code
  | _, [] => []
  | skip + 1, _ :: rest => replaceCodes pattern new skip rest
  | 0, c :: rest =>
    if pattern.isPrefixOf (c :: rest) then new ++ replaceCodes pattern new (pattern.length - 1) rest
    else c :: replaceCodes pattern new 0 rest

/-- A text with every occurrence of a pattern replaced; the pattern is not empty. -/
def replaceAll (t pattern new : Text) : Text := ⟨replaceCodes pattern.codes new.codes 0 t.codes⟩

example : replaceAll "aaab" "aa" "c" = Text.ofString "cab" := by decide +kernel

end BatchFrontier.Text
