/-!
# Runs

A run takes steps in their order from a state, each of which gives an answer. What one step
preserves a whole run preserves.
-/

namespace BatchFrontier.Run

variable {State Other Action Answer View : Type}

/-- The state after some steps, with the answers on the way. -/
def along (step : State → Action → State × Answer) (s : State) : List Action → State × List Answer
  | [] => (s, [])
  | a :: actions =>
    let (s', answer) := step s a
    let (last, answers) := along step s' actions
    (last, answer :: answers)

theorem along_cons (step : State → Action → State × Answer) (s : State) (a : Action)
    (actions : List Action) : along step s (a :: actions) =
      ((along step (step s a).1 actions).1,
        (step s a).2 :: (along step (step s a).1 actions).2) := rfl

/-- A run may stop and go on. -/
theorem along_append (step : State → Action → State × Answer) (s : State)
    (actions more : List Action) : along step s (actions ++ more) =
      ((along step (along step s actions).1 more).1,
        (along step s actions).2 ++ (along step (along step s actions).1 more).2) := by
  induction actions generalizing s with
  | nil => rfl
  | cons a actions ih => simp only [List.cons_append, along_cons, ih]

/-- Actions that stand for others take the steps of those. -/
theorem along_map {Other : Type} (step : State → Action → State × Answer) (f : Other → Action)
    (s : State) (others : List Other) :
    along step s (others.map f) = along (fun s a => step s (f a)) s others := by
  induction others generalizing s with
  | nil => rfl
  | cons a others ih => rw [List.map_cons, along_cons, along_cons, ih]

/-- What every step of a run preserves the run preserves. -/
theorem along_preserves {step : State → Action → State × Answer} {holds : State → Prop}
    {actions : List Action} (hstep : ∀ a ∈ actions, ∀ s, holds s → holds (step s a).1) {s : State}
    (h : holds s) : holds (along step s actions).1 := by
  induction actions generalizing s with
  | nil => exact h
  | cons a actions ih =>
    have hnext : holds (step s a).1 := hstep a List.mem_cons_self s h
    rw [along_cons]
    exact ih (fun b hb => hstep b (List.mem_cons_of_mem a hb)) hnext

/-- What a step answers depends on the state that the steps before it lead to. -/
theorem answer_along (step : State → Action → State × Answer) (s : State) {actions : List Action}
    {i : Nat} {a : Action} (ha : actions[i]? = some a) :
    (along step s actions).2[i]? = some (step (along step s (actions.take i)).1 a).2 := by
  induction actions generalizing s i with
  | nil => simp at ha
  | cons b actions ih =>
    cases i with
    | zero =>
      obtain rfl : b = a := by simpa using ha
      rfl
    | succ i =>
      rw [along_cons, List.take_succ_cons, along_cons, List.getElem?_cons_succ]
      exact ih (step s b).1 (by simpa using ha)

/-- If the steps after one step answer as they would without it, so does the run without it. -/
theorem along_eraseIdx (step : State → Action → State × Answer) (s : State) {actions : List Action}
    {i : Nat} {a : Action} (ha : actions[i]? = some a)
    (h : (along step (step (along step s (actions.take i)).1 a).1 (actions.drop (i + 1))).2 =
      (along step (along step s (actions.take i)).1 (actions.drop (i + 1))).2) :
    (along step s (actions.eraseIdx i)).2 = (along step s actions).2.eraseIdx i := by
  induction actions generalizing s i with
  | nil => simp at ha
  | cons b actions ih =>
    cases i with
    | zero =>
      obtain rfl : b = a := by simpa using ha
      exact h.symm
    | succ i =>
      rw [List.eraseIdx_cons_succ, along_cons, along_cons, List.eraseIdx_cons_succ]
      have hrest := ih (step s b).1 (by simpa using ha) h
      exact congrArg _ hrest

/-- Two systems that stay related and give the same view of their answers step by step do so along
every run. -/
theorem along_refines {step : State → Action → State × Answer}
    {step' : Other → Action → Other × View} {related : State → Other → Prop}
    {view : Answer → View} {actions : List Action}
    (hstep : ∀ a ∈ actions, ∀ s t, related s t →
      related (step s a).1 (step' t a).1 ∧ view (step s a).2 = (step' t a).2)
    {s : State} {t : Other} (h : related s t) :
    related (along step s actions).1 (along step' t actions).1 ∧
      (along step s actions).2.map view = (along step' t actions).2 := by
  induction actions generalizing s t with
  | nil => exact ⟨h, rfl⟩
  | cons a actions ih =>
    obtain ⟨hnext, hanswer⟩ := hstep a List.mem_cons_self s t h
    obtain ⟨hlast, hanswers⟩ := ih (fun b hb => hstep b (List.mem_cons_of_mem a hb)) hnext
    rw [along_cons, along_cons]
    exact ⟨hlast, by rw [List.map_cons, hanswer, hanswers]⟩

end BatchFrontier.Run
