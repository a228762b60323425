import BatchFrontier.Text.CharClass
import Mathlib.Data.List.TakeWhile

/-!
# Trimmed sequences

What is left of a sequence without some members at its ends is a piece of it that begins and ends
with other members, or nothing. There is only one such piece, and it is found from both ends.
-/

namespace BatchFrontier

namespace Text

section

variable {α : Type} {p : α → Bool}

/-- That a sequence is what is left of another one without the members with a property at its
ends. -/
structure IsTrimmed (p : α → Bool) (cs rest : List α) : Prop where
  piece : ∃ front back, cs = front ++ (rest ++ back) ∧ (∀ c ∈ front, p c = true) ∧
    ∀ c ∈ back, p c = true
  head : ∀ c ∈ rest.head?, p c = false
  last : ∀ c ∈ rest.getLast?, p c = false

/-- The first member that is not dropped lacks the property. -/
theorem eq_false_of_mem_head?_dropWhile {cs : List α} {c : α} (h : c ∈ (cs.dropWhile p).head?) :
    p c = false := by
  have hhead := List.head?_dropWhile_not p cs
  rw [Option.mem_def.mp h] at hhead
  exact hhead

/-- Dropping stops at the first member that lacks the property. -/
theorem dropWhile_append_of_head? {front rest : List α} (hfront : ∀ c ∈ front, p c = true)
    (hrest : ∀ c ∈ rest.head?, p c = false) : (front ++ rest).dropWhile p = rest := by
  rw [List.dropWhile_append_of_pos hfront]
  cases rest with
  | nil => rfl
  | cons c rest => rw [List.dropWhile_cons_of_neg (by simp [hrest c rfl])]

/-- Trimming leaves what is trimmed. -/
theorem isTrimmed_trimWhere (cs : List α) : IsTrimmed p cs (trimWhere p cs) := by
  have hfront : cs = cs.takeWhile p ++ cs.dropWhile p := List.takeWhile_append_dropWhile.symm
  have hback := congrArg List.reverse
    (List.takeWhile_append_dropWhile (p := p) (l := (cs.dropWhile p).reverse))
  rw [List.reverse_append, List.reverse_reverse] at hback
  refine ⟨⟨cs.takeWhile p, ((cs.dropWhile p).reverse.takeWhile p).reverse, ?_,
    fun c hc => List.mem_takeWhile_imp hc,
    fun c hc => List.mem_takeWhile_imp (List.mem_reverse.mp hc)⟩, ?_, ?_⟩
  · rw [trimWhere, hback]
    exact hfront
  · -- What is left after the front begins what is left in the end, unless nothing is.
    intro c hc
    have hfirst : c ∈ (cs.dropWhile p).head? := by
      rw [trimWhere] at hc
      rw [← hback, List.head?_append, hc]
      rfl
    exact eq_false_of_mem_head?_dropWhile hfirst
  · intro c hc
    rw [trimWhere, List.getLast?_reverse] at hc
    exact eq_false_of_mem_head?_dropWhile hc

/-- What is left without the ends is determined. -/
theorem IsTrimmed.eq_trimWhere {cs rest : List α} (h : IsTrimmed p cs rest) :
    rest = trimWhere p cs := by
  obtain ⟨⟨front, back, rfl, hfront, hback⟩, hhead, hlast⟩ := h
  have hback' : ∀ c ∈ back.reverse, p c = true := fun c hc => hback c (List.mem_reverse.mp hc)
  by_cases hrest : rest = []
  · subst hrest
    rw [List.nil_append, trimWhere, List.dropWhile_append_of_pos hfront,
      List.dropWhile_eq_nil_iff.mpr hback]
    rfl
  · have hdropped : (front ++ (rest ++ back)).dropWhile p = rest ++ back := by
      refine dropWhile_append_of_head? hfront fun c hc => hhead c ?_
      obtain ⟨d, rest, rfl⟩ := List.exists_cons_of_ne_nil hrest
      exact hc
    rw [trimWhere, hdropped, List.reverse_append, dropWhile_append_of_head? hback',
      List.reverse_reverse]
    rw [List.head?_reverse]
    exact hlast

/-- Nothing is left exactly if all members have the property. -/
theorem isTrimmed_nil_iff {cs : List α} : IsTrimmed p cs [] ↔ ∀ c ∈ cs, p c = true := by
  constructor
  · intro h
    obtain ⟨front, back, rfl, hfront, hback⟩ := h.piece
    intro c hc
    rw [List.nil_append] at hc
    exact (List.mem_append.mp hc).elim (hfront c) (hback c)
  · intro h
    exact ⟨⟨cs, [], by simp, h, by simp⟩, by simp, by simp⟩

end

end Text

end BatchFrontier
