import BatchFrontier.Resolution

/-!
# The order of providers

What a provider comes to is its value, if that is accepted, or else its failure or the rejection.
Asking a provider does what its read does, and logs. A list of providers comes to what the first one
comes to, unless that is a failure after which others may be asked; then the rest of the list is
asked.
-/

namespace BatchFrontier

/-- Whether an event is a line in the log. -/
def Event.isLogged : Event → Bool
  | .logged .. => true
  | _ => false

namespace Traced

variable {α β : Type}

/-- What a computation does apart from logging. -/
def acts (x : Traced α) : List Event := x.events.filter fun e => !e.isLogged

@[simp] theorem acts_pure (a : α) : (pure a : Traced α).acts = [] := rfl

@[simp] theorem acts_fail (f : Fault) : (fail f : Traced α).acts = [] := rfl

@[simp] theorem acts_ofResult (r : Except Fault α) : (ofResult r).acts = [] := rfl

@[simp] theorem acts_lift (r : Except Fault α) : (liftM r : Traced α).acts = [] := rfl

@[simp] theorem acts_log (level : Level) (topic : Topic) (message : Text) :
    (log level topic message).acts = [] := rfl

@[simp] theorem acts_resume (x : Traced α) (next : Except Fault α → Traced β) :
    (x.resume next).acts = x.acts ++ (next x.result).acts := List.filter_append _ _

theorem acts_bind_of_ok {x : Traced α} {a : α} (next : α → Traced β) (h : x.result = .ok a) :
    (x >>= next).acts = x.acts ++ (next a).acts := by
  rw [bind_of_ok next h]
  exact List.filter_append _ _

theorem acts_bind_of_error {x : Traced α} {f : Fault} (next : α → Traced β)
    (h : x.result = .error f) : (x >>= next).acts = x.acts := by
  rw [bind_of_error next h]
  rfl

/-- A line in the log changes nothing else. -/
theorem result_log_bind (level : Level) (topic : Topic) (message : Text) (next : Unit → Traced β) :
    (log level topic message >>= next).result = (next ()).result := rfl

theorem acts_log_bind (level : Level) (topic : Topic) (message : Text) (next : Unit → Traced β) :
    (log level topic message >>= next).acts = (next ()).acts := rfl

end Traced

namespace Provider

/-- A value that was read, unless it is rejected or cannot be checked. -/
def judge (check : Check) (v : Value) : Except Fault Value :=
  match check.run v with
  | .error f => .error f
  | .ok none => .ok v
  | .ok (some f) => .error f

/-- What a provider comes to. -/
def outcome (check : Check) (p : Provider) : Except Fault Value :=
  p.read.result.bind (judge check)

/-- That a provider fails, by its read or by a rejection, and others may be asked after it. -/
structure FailsWith (check : Check) (p : Provider) (f : Fault) : Prop where
  outcome : p.outcome check = .error f
  going : p.isLast check = false

variable {what : Value} {check : Check} {p q : Provider} {rest : List Provider} {last f : Fault}
  {v : Value}

/-- A read that fails without a request to stop is a failure of its provider. -/
theorem FailsWith.of_read (h : p.read.result = .error f) (hs : f.isStop = false) :
    p.FailsWith check f where
  outcome := by
    rw [Provider.outcome, h]
    rfl
  going := by
    rw [isLast, h]
    exact hs

/-- A value that is rejected is a failure of its provider. -/
theorem FailsWith.of_rejected (h : p.read.result = .ok v) (hrejected : check.run v = .ok (some f)) :
    p.FailsWith check f where
  outcome := by
    rw [Provider.outcome, h, Except.bind, judge, hrejected]
  going := by
    rw [isLast, h]
    simp only [hrejected]
    rfl

section

variable (what check p)

/-- Asking a provider gives what it comes to. -/
theorem ask_result : (ask what check p).result = p.outcome check := by
  unfold ask outcome
  rw [Traced.resume_result]
  cases p.read.result with
  | error f => cases hs : f.isStop <;> simp [hs, Except.bind, Traced.result_log_bind,
      Traced.fail_bind]
  | ok v =>
    simp only [Except.bind, judge, Traced.result_log_bind]
    rcases check.run v with f | _ | f <;> rfl

/-- Asking a provider does what its read does. -/
theorem ask_acts : (ask what check p).acts = p.read.acts := by
  unfold ask
  rw [Traced.acts_resume]
  cases p.read.result with
  | error f => cases hs : f.isStop <;> simp [hs, Traced.acts_log_bind, Traced.fail_bind]
  | ok v =>
    simp only [Traced.acts_log_bind]
    rcases check.run v with f | _ | f <;> simp [Traced.acts_log_bind]

end

/-- After an accepted value no other provider is asked. -/
theorem firstAccepted_of_ok (h : p.outcome check = .ok v) :
    (firstAccepted what check last (p :: rest)).result = .ok v ∧
      (firstAccepted what check last (p :: rest)).acts = p.read.acts := by
  rw [firstAccepted, Traced.resume_result, Traced.acts_resume, ask_result, ask_acts, h]
  exact ⟨rfl, List.append_nil _⟩

/-- After a failure the other providers are asked, and the failure stands if there are none. -/
theorem firstAccepted_of_failsWith (h : p.FailsWith check f) :
    (firstAccepted what check last (p :: rest)).result =
        (firstAccepted what check f rest).result ∧
      (firstAccepted what check last (p :: rest)).acts =
        p.read.acts ++ (firstAccepted what check f rest).acts := by
  rw [firstAccepted, Traced.resume_result, Traced.acts_resume, ask_result, ask_acts, h.outcome]
  simp [h.going]

/-- After a provider that is the last one no other is asked. -/
theorem firstAccepted_of_isLast (h : p.outcome check = .error f) (hlast : p.isLast check = true) :
    (firstAccepted what check last (p :: rest)).result = .error f ∧
      (firstAccepted what check last (p :: rest)).acts = p.read.acts := by
  rw [firstAccepted, Traced.resume_result, Traced.acts_resume, ask_result, ask_acts, h]
  simp [hlast]

variable (what check p last) in
/-- A single provider decides. -/
theorem firstAccepted_singleton :
    (firstAccepted what check last [p]).result = p.outcome check ∧
      (firstAccepted what check last [p]).acts = p.read.acts := by
  cases h : p.outcome check with
  | ok v => exact firstAccepted_of_ok h
  | error f =>
    rw [firstAccepted, Traced.resume_result, Traced.acts_resume, ask_result, ask_acts, h]
    cases p.isLast check <;> simp [firstAccepted]

variable (what q) in
/-- Of two providers the second is not asked if the first gives an accepted value. -/
theorem resolve_pair_of_ok (h : p.outcome check = .ok v) :
    (resolve what check [p, q]).result = .ok v ∧ (resolve what check [p, q]).acts = p.read.acts :=
  firstAccepted_of_ok h

variable (what q) in
/-- Of two providers the second decides if the first fails. -/
theorem resolve_pair_of_failsWith (h : p.FailsWith check f) :
    (resolve what check [p, q]).result = q.outcome check ∧
      (resolve what check [p, q]).acts = p.read.acts ++ q.read.acts := by
  unfold resolve
  obtain ⟨hresult, hacts⟩ := firstAccepted_singleton what check q f
  rw [(firstAccepted_of_failsWith h).1, (firstAccepted_of_failsWith h).2, hresult, hacts]
  exact ⟨rfl, rfl⟩

variable (what q) in
/-- Of two providers the second is not asked if the value of the first cannot be checked. -/
theorem resolve_pair_of_broken (h : p.read.result = .ok v) (hbroken : check.run v = .error f) :
    (resolve what check [p, q]).result = .error f ∧
      (resolve what check [p, q]).acts = p.read.acts := by
  refine firstAccepted_of_isLast ?_ ?_
  · rw [outcome, h, Except.bind, judge, hbroken]
  · rw [isLast, h]
    simp only [hbroken]
    rfl

end Provider

end BatchFrontier
