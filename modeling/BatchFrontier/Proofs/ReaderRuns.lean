import BatchFrontier.Proofs.ReaderReads
import BatchFrontier.Proofs.Runs
import Mathlib.Data.List.Basic

/-!
# Runs of a reader

The handlers of the contracts are set and unset between reads. A handler is in force from the step
that sets it to the next step that sets or unsets it. Along every run a read is answered from the
handlers in force, as if nothing had been read before.
-/

namespace BatchFrontier

namespace Answers

/-- Among answers of other functions a function has the outcome that it has among all. -/
theorem outcome?_erase (answers : Answers) (callee function callee' function' : Text) :
    (answers.erase callee function).outcome? callee' function' =
      if (callee', function') = (callee, function) then none
      else answers.outcome? callee' function' := by
  unfold outcome? erase
  simp only [List.find?_filter, Bool.decide_and, Bool.decide_eq_true]
  split
  · next h =>
    have hnone : answers.find? (fun a => a.1 != (callee, function) && a.1 == (callee', function')) =
        none := by
      rw [List.find?_eq_none]
      intro a _
      by_cases ha : a.1 = (callee, function) <;> simp [h, ha]
    rw [hnone]
    rfl
  · next h =>
    have hsame : (fun a : (Text × Text) × Outcome =>
        a.1 != (callee, function) && a.1 == (callee', function')) =
        fun a => a.1 == (callee', function') := by
      funext a
      by_cases ha : a.1 = (callee', function') <;> simp [ha, h]
    rw [hsame]

/-- A new answer is the outcome of its function, and of no other. -/
theorem outcome?_insert (answers : Answers) (callee function : Text) (outcome : Outcome)
    (callee' function' : Text) :
    (answers.insert callee function outcome).outcome? callee' function' =
      if (callee', function') = (callee, function) then some outcome
      else answers.outcome? callee' function' := by
  have herase := answers.outcome?_erase callee function callee' function'
  unfold insert
  unfold outcome? at herase ⊢
  by_cases h : (callee', function') = (callee, function)
  · simp [h]
  · rw [if_neg h] at herase ⊢
    rw [List.find?_cons_of_neg (by simpa using Ne.symm h)]
    exact herase

end Answers

/-- The handlers of the functions that are in force. -/
abbrev Handlers := Text → Text → Option Outcome

namespace Handlers

/-- Calls a function; a function without a handler is not called. -/
def call (handlers : Handlers) (callee function : String) (arguments : List Value) :
    Traced Value :=
  match handlers callee function with
  | none => Traced.fail (.missingFunction function)
  | some outcome => ⟨[.called callee function arguments], outcome⟩

/-- The reads of handlers. -/
def sources (handlers : Handlers) : Sources where
  rollupData rollup := handlers.call "manager" "rollupIDToRollupData" [rollup]
  sequencedBatch rollup batch := handlers.call "manager" "getRollupSequencedBatches" [rollup, batch]
  lastVerifiedBatch := handlers.call "legacy" "lastVerifiedBatch" []
  chainId := handlers.call "legacy" "chainID" []
  latestBlock := handlers.call "node" "get_block" [.text "latest"]

/-- A call of a function that has a handler, if it has one. -/
def callOf (handlers : Handlers) (callee function : String) (arguments : List Value) :
    List Event :=
  if (handlers callee function).isSome then [.called callee function arguments] else []

theorem call_acts (handlers : Handlers) (callee function : String) (arguments : List Value) :
    (handlers.call callee function arguments).acts =
      handlers.callOf callee function arguments := by
  unfold call callOf
  split
  · next h => simp [h]
  · next h => simp [h]; rfl

theorem call_result (handlers : Handlers) (callee function : String) (arguments : List Value) :
    (handlers.call callee function arguments).result =
      (handlers callee function).getD (.error (.missingFunction function)) := by
  unfold call
  split
  · next h => simp [h]
  · next h => simp [h]

end Handlers

/-- The reads of answers are those of the handlers that they are. -/
theorem Answers.sources_eq (answers : Answers) :
    answers.sources = Handlers.sources answers.outcome? :=
  rfl

namespace Reader

/-! ## Steps -/

/-- What is done between and with a reader. -/
inductive Step where
  | set (callee function : Text) (outcome : Outcome)
  | unset (callee function : Text)
  | readBatch
  | readChainId
  | readHash (batch : Value)
  | readBlock

/-- What comes of a step. -/
inductive Observation where
  | nothing
  | batch (x : Traced Int)
  | chainId (x : Traced Int)
  | hash (x : Traced (List UInt8))
  | block (x : Traced (Option Value))

/-- What a step shows of a reader. -/
def observe (r : Reader) : Step → Observation
  | .set .. | .unset .. => .nothing
  | .readBatch => .batch r.latestVerifiedBatch
  | .readChainId => .chainId r.chainId
  | .readHash batch => .hash (r.accInputHash batch)
  | .readBlock => .block r.latestBlock

/-- The handlers after a step. -/
def change (answers : Answers) : Step → Answers
  | .set callee function outcome => answers.insert callee function outcome
  | .unset callee function => answers.erase callee function
  | _ => answers

/-- Takes a step: reads the rollup of an id, or changes the handlers. -/
def step (rollup : Value) (answers : Answers) (s : Step) : Answers × Observation :=
  (change answers s, observe ⟨answers.sources, rollup⟩ s)

/-- The handlers in force after some steps, the last one first. -/
def inForce (initial : Answers) : List Step → Handlers
  | [] => initial.outcome?
  | .set callee function outcome :: past => fun callee' function' =>
    if (callee', function') = (callee, function) then some outcome
    else inForce initial past callee' function'
  | .unset callee function :: past => fun callee' function' =>
    if (callee', function') = (callee, function) then none
    else inForce initial past callee' function'
  | _ :: past => inForce initial past

/-- A run leaves the handlers in force. -/
theorem outcome?_run (rollup : Value) (initial : Answers) (past : List Step) :
    (Run.along (step rollup) initial past.reverse).1.outcome? = inForce initial past := by
  induction past with
  | nil => rfl
  | cons s past ih =>
    rw [List.reverse_cons, Run.along_append]
    funext callee' function'
    cases s with
    | set callee function outcome =>
      simp only [Run.along, step, change, Answers.outcome?_insert, inForce, ih]
    | unset callee function =>
      simp only [Run.along, step, change, Answers.outcome?_erase, inForce, ih]
    | _ => exact congrFun (congrFun ih callee') function'

/-! ## Reads from handlers -/

/-- That a computation gives the last verified batch from handlers: what the manager says, zero too,
without a call of the legacy contract; or what the legacy contract says or fails with, after one
call of each, if the manager has no such function, fails, or answers without that part. -/
structure ReadsBatch (rollup : Value) (handlers : Handlers) (x : Traced Int) : Prop where
  manager : ∀ data v n, handlers "manager" "rollupIDToRollupData" = some (.ok data) →
    data.part? "lastVerifiedBatch" 6 = some v → v.integer? = some n →
    x.result = .ok n ∧ x.acts = [.called "manager" "rollupIDToRollupData" [rollup]]
  legacy : (handlers "manager" "rollupIDToRollupData" = none ∨
      (∃ f, handlers "manager" "rollupIDToRollupData" = some (.error f) ∧ f.isStop = false) ∨
      ∃ data, handlers "manager" "rollupIDToRollupData" = some (.ok data) ∧
        data.isCompound = true ∧ data.part? "lastVerifiedBatch" 6 = none) →
    x.acts = handlers.callOf "manager" "rollupIDToRollupData" [rollup] ++
        handlers.callOf "legacy" "lastVerifiedBatch" [] ∧
      (handlers "legacy" "lastVerifiedBatch" = none →
        x.result = .error (.missingFunction "lastVerifiedBatch")) ∧
      (∀ f, handlers "legacy" "lastVerifiedBatch" = some (.error f) → x.result = .error f) ∧
      ∀ v n, handlers "legacy" "lastVerifiedBatch" = some (.ok v) → v.integer? = some n →
        x.result = .ok n

/-- That a computation gives the hash of a batch from handlers, by one call of the manager: the same
bytes whether the hash comes first in a sequence or under its name, or what the manager fails
with. -/
structure ReadsHash (rollup batch : Value) (handlers : Handlers) (x : Traced (List UInt8)) :
    Prop where
  acts : x.acts = handlers.callOf "manager" "getRollupSequencedBatches" [rollup, batch]
  missing : handlers "manager" "getRollupSequencedBatches" = none →
    x.result = .error (.missingFunction "getRollupSequencedBatches")
  failed : ∀ f, handlers "manager" "getRollupSequencedBatches" = some (.error f) →
    x.result = .error f
  read : ∀ data v, handlers "manager" "getRollupSequencedBatches" = some (.ok data) →
    data.part? "accInputHash" 0 = some v → x.result = v.toByteString
  unread : ∀ data, handlers "manager" "getRollupSequencedBatches" = some (.ok data) →
    data.isCompound = true → data.part? "accInputHash" 0 = none → ∃ f, x.result = .error f

variable (rollup : Value) (handlers : Handlers)

/-- The last verified batch is read from the handlers. -/
theorem readsBatch :
    ReadsBatch rollup handlers (latestVerifiedBatch ⟨handlers.sources, rollup⟩) := by
  have hplace : Chain.fieldIndex? "lastVerifiedBatch" = some 6 := by decide +kernel
  have hacts := handlers.call_acts "manager" "rollupIDToRollupData" [rollup]
  refine ⟨fun data v n hhandler hpart hv => ?_, fun hfails => ?_⟩
  · have hdata : (handlers.sources.rollupData rollup).result = .ok data := by
      rw [Handlers.sources, Handlers.call_result, hhandler, Option.getD_some]
    have hread : (managerField ⟨handlers.sources, rollup⟩ "lastVerifiedBatch").result = .ok v :=
      (managerField_of_ok hdata "lastVerifiedBatch").trans
        ((Chain.rollupField_of_part? hplace).1 v hpart)
    obtain ⟨hresult, hcalls⟩ := latestVerifiedBatch_of_manager hread hv
    refine ⟨hresult, hcalls.trans (hacts.trans ?_)⟩
    rw [Handlers.callOf, hhandler]
    rfl
  · have hdata := handlers.call_result "manager" "rollupIDToRollupData" [rollup]
    have hunread : ∃ f, (managerField ⟨handlers.sources, rollup⟩ "lastVerifiedBatch").result =
        .error f ∧ f.isStop = false := by
      rcases hfails with hnone | ⟨f, hhandler, hs⟩ | ⟨data, hhandler, hcompound, hpart⟩
      · rw [hnone, Option.getD_none] at hdata
        exact ⟨_, managerField_of_error hdata "lastVerifiedBatch", rfl⟩
      · rw [hhandler, Option.getD_some] at hdata
        exact ⟨f, managerField_of_error hdata "lastVerifiedBatch", hs⟩
      · rw [hhandler, Option.getD_some] at hdata
        obtain ⟨f, hf, hs⟩ := (Chain.rollupField_of_part? hplace).2 hcompound hpart
        exact ⟨f, (managerField_of_ok hdata "lastVerifiedBatch").trans hf, hs⟩
    obtain ⟨f, hf, hs⟩ := hunread
    obtain ⟨hvalue, herror, hcalls⟩ := latestVerifiedBatch_of_legacy hf hs
    have hlegacy := handlers.call_result "legacy" "lastVerifiedBatch" []
    refine ⟨hcalls.trans (congrArg₂ _ hacts (handlers.call_acts "legacy" "lastVerifiedBatch" [])),
      fun hnone => ?_, fun g hg => ?_, fun v n hv hn => ?_⟩
    · rw [hnone] at hlegacy
      exact herror _ hlegacy
    · rw [hg] at hlegacy
      exact herror g hlegacy
    · rw [hv] at hlegacy
      exact hvalue v n hlegacy hn

/-- The hash of a batch is read from the handlers. -/
theorem readsHash (batch : Value) :
    ReadsHash rollup batch handlers (accInputHash ⟨handlers.sources, rollup⟩ batch) := by
  have hdata := handlers.call_result "manager" "getRollupSequencedBatches" [rollup, batch]
  refine ⟨(accInputHash_acts _ batch).trans (handlers.call_acts _ _ _), fun hnone => ?_,
    fun f hf => ?_, fun data v hok hpart => ?_, fun data hok hcompound hpart => ?_⟩
  · rw [hnone] at hdata
    exact accInputHash_of_error hdata
  · rw [hf] at hdata
    exact accInputHash_of_error hdata
  · rw [hok] at hdata
    exact (accInputHash_of_ok hdata).trans (hashOf_of_part?.1 v hpart)
  · rw [hok] at hdata
    obtain ⟨f, hf⟩ := hashOf_of_part?.2 hcompound hpart
    exact ⟨f, (accInputHash_of_ok hdata).trans hf⟩

/-! ## Runs -/

/-- That a step shows what it is meant to read from handlers. -/
def Shows (rollup : Value) (handlers : Handlers) : Step → Observation → Prop
  | .readBatch, o => ∃ x, o = .batch x ∧ ReadsBatch rollup handlers x
  | .readHash batch, o => ∃ x, o = .hash x ∧ ReadsHash rollup batch handlers x
  | _, _ => True

/-- Along every run a step shows what it shows of a new reader of the handlers in force, and so what
it is meant to read from them, whatever was read before. -/
theorem run_shows (rollup : Value) (initial : Answers) {steps : List Step} {i : Nat} {s : Step}
    (hs : steps[i]? = some s) :
    ∃ o, (Run.along (step rollup) initial steps).2[i]? = some o ∧
      o = observe ⟨(inForce initial (steps.take i).reverse).sources, rollup⟩ s ∧
      Shows rollup (inForce initial (steps.take i).reverse) s o := by
  have hforce := outcome?_run rollup initial (steps.take i).reverse
  rw [List.reverse_reverse] at hforce
  refine ⟨_, Run.answer_along (step rollup) initial hs, ?_, ?_⟩
  · rw [step, Answers.sources_eq, hforce]
  · rw [step, Answers.sources_eq, hforce]
    cases s with
    | readBatch => exact ⟨_, rfl, readsBatch rollup _⟩
    | readHash batch => exact ⟨_, rfl, readsHash rollup _ batch⟩
    | _ => trivial

/-- A manager that is set between two reads is asked by the second one only, and its zero counts. -/
theorem run_shows_zero :
    let steps : List Step := [.readBatch,
      .set "manager" "rollupIDToRollupData" (.ok (.record [("lastVerifiedBatch", .integer 0)])),
      .readBatch]
    let initial : Answers := [(("legacy", "lastVerifiedBatch"), .ok (.integer 7))]
    steps[2]? = some .readBatch ∧
      ∃ x, (Run.along (step (.integer 1)) initial steps).2[2]? = some (.batch x) ∧
        x.result = .ok 0 ∧ x.acts = [.called "manager" "rollupIDToRollupData" [.integer 1]] := by
  intro steps initial
  have hs : steps[2]? = some .readBatch := rfl
  obtain ⟨o, ho, -, x, rfl, hx⟩ := run_shows (.integer 1) initial hs
  have hforce : inForce initial (steps.take 2).reverse "manager" "rollupIDToRollupData" =
      some (.ok (.record [("lastVerifiedBatch", .integer 0)])) := by simp [steps, inForce]
  have hpart : (Value.record [("lastVerifiedBatch", .integer 0)]).part? "lastVerifiedBatch" 6 =
      some (.integer 0) := by simp [Value.part?, Value.field?]
  exact ⟨hs, x, ho, hx.manager _ _ 0 hforce hpart rfl⟩

end Reader

end BatchFrontier
