import BatchFrontier.Proofs.BafflingBlocks
import BatchFrontier.Proofs.CommandOutcome
import BatchFrontier.Reader

/-!
# When a chain has no block

A reader finds no block exactly where the node has none: it replies with nothing to the question for
its last block, or the transport says that there is no such block. Every other failure to read the
block is kept, whatever is wrong with the fields of the block or with the reply.
-/

namespace BatchFrontier

open Chain

namespace Reader

/-- Whether a failure says something else than that there is no block. -/
def saysOther (f : Fault) : Bool := !isMissingBlock f

end Reader

namespace Chain

open Reader

namespace Block

theorem checkFields_saysOther (fields : List (Text × Value)) :
    FailsOnly saysOther (checkFields fields) := by
  induction fields with
  | nil => exact .ok _
  | cons f fields ih =>
    rw [checkFields_cons]
    refine FailsOnly.bind ?_ fun _ _ => ih
    split
    · exact .ok _
    · next defect _ => cases defect <;> exact .error rfl

/-- A record in the place of a block is never a missing block. -/
theorem read_record_saysOther (fields : List (Text × Value)) :
    FailsOnly saysOther (read (.record fields)) := by
  have hshown (name : Text) : FailsOnly saysOther (checkShown fields name) := by
    unfold checkShown
    split
    · exact .error rfl
    · exact .ok _
  have hextra : FailsOnly saysOther (checkExtra fields) :=
    checkExtra_failsOnly fields (fun _ => rfl) fun _ _ => rfl
  have hnested : FailsOnly saysOther (checkNested fields) := by
    unfold checkNested
    split
    · exact .error rfl
    · exact .ok _
  refine (hshown _).bind fun _ _ => hextra.bind fun _ _ => (hshown _).bind fun _ _ => ?_
  refine (checkFields_saysOther fields).bind fun _ _ => hnested.bind fun _ _ => ?_
  exact (mapM_readField_failsOnly fields fun _ => rfl).bind fun _ _ => .ok _

/-- A block is missing exactly where nothing stands in its place. -/
theorem read_missing_iff (v : Value) :
    (∃ f, read v = .error f ∧ isMissingBlock f = true) ↔ v = .nothing := by
  constructor
  · rintro ⟨f, hread, hmissing⟩
    have hother (h : FailsOnly saysOther (read v)) : v = .nothing := by
      have hf := h f hread
      rw [saysOther, hmissing] at hf
      cases hf
    cases v with
    | nothing => rfl
    | record fields => exact hother (read_record_saysOther fields)
    | _ => exact hother (.error rfl)
  · rintro rfl
    exact ⟨missing, rfl, rfl⟩

end Block

namespace Node

/-- That a node has no block: it brings nothing where it is asked for its last block, or the
transport says that there is none. -/
def HasNoBlock (n : Node) : Prop :=
  (n.reply "eth_getBlockByNumber").Brings .nothing ∨
    ∃ f, n.reply "eth_getBlockByNumber" = .raised f ∧ isMissingBlock f = true

/-- An error object says something else than that there is no block. -/
theorem fault_saysOther (e : ErrorObject) : saysOther e.fault = true := by
  have hkind : e.kind ≠ .missingBlock := by
    unfold ErrorObject.kind
    split
    · exact Report.Kind.noConfusion
    · split
      · exact Report.Kind.noConfusion
      · split <;> exact Report.Kind.noConfusion
  simpa [saysOther, isMissingBlock, ErrorObject.fault] using hkind

variable {n : Node}

/-- The last block is read as missing exactly where the node has none. -/
theorem latestBlock_missing_iff :
    (∃ f, n.latestBlock.result = .error f ∧ isMissingBlock f = true) ↔ n.HasNoBlock := by
  have hasked : (n.result "eth_getBlockByNumber").result =
      (n.reply "eth_getBlockByNumber").outcome true ErrorObject.fault := rfl
  simp only [latestBlock_result, hasked, bind_eq_error_iff, HasNoBlock]
  constructor
  · rintro ⟨f, houtcome | ⟨v, houtcome, hread⟩, hmissing⟩
    · refine .inr ?_
      cases hreply : n.reply "eth_getBlockByNumber" with
      | raised g =>
        rw [hreply] at houtcome
        obtain rfl := Except.error.inj houtcome
        exact ⟨g, rfl, hmissing⟩
      | response r =>
        rw [hreply] at houtcome
        have hf : saysOther f = true :=
          r.outcome_failsOnly (fun _ _ => rfl) rfl true fault_saysOther f houtcome
        rw [saysOther, hmissing] at hf
        cases hf
    · obtain rfl := (Block.read_missing_iff v).mp ⟨f, hread, hmissing⟩
      exact .inl (Reply.outcome_eq_ok_iff.mp houtcome)
  · rintro (hnothing | ⟨f, hraised, hmissing⟩)
    · exact ⟨Block.missing, .inr ⟨.nothing, Reply.outcome_eq_ok_iff.mpr hnothing, rfl⟩, rfl⟩
    · exact ⟨f, .inl (by rw [hraised]; rfl), hmissing⟩

end Node

end Chain

namespace Reader

/-- A reader finds no block exactly where the node has none. -/
theorem latestBlock_none_iff (n : Node) (c : Contracts) (rollup : Value) :
    (latestBlock ⟨.ofNode n c, rollup⟩).result = .ok none ↔ n.HasNoBlock := by
  have hread : (Sources.ofNode n c).latestBlock.result = n.latestBlock.result := rfl
  rw [← Node.latestBlock_missing_iff, latestBlock, Traced.resume_result, hread]
  cases n.latestBlock.result with
  | ok v => simp
  | error f => cases hmissing : isMissingBlock f <;> simp [hmissing]

end Reader

end BatchFrontier
