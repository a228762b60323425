import BatchFrontier.Proofs.RefusalFaults
import BatchFrontier.Sources

/-!
# The faults of a node

A call of a contract fails for many reasons: a mismatch, a response that breaks a rule, an error
object of many kinds, an answer that cannot be read, a failure on the way. If no failure on the way
is a request to stop, then no failure of a call is one, and none is the refusal of a chain id of
zero.
-/

namespace BatchFrontier

/-- Whether a fault neither asks to stop nor refuses a chain id of zero. -/
def Fault.isOrdinary : Fault → Bool
  | .emptyChainId _ => false
  | .reported _ r => r.kind != .stop
  | _ => true

namespace Fault

theorem isStop_of_isOrdinary {f : Fault} (h : f.isOrdinary = true) : f.isStop = false := by
  cases f with
  | reported label r => simpa [isOrdinary, isStop] using h
  | _ => rfl

theorem isOrdinary_of_isPlain {f : Fault} (h : f.isPlain = true) : f.isOrdinary = true := by
  cases f with
  | reported label r => exact nomatch h
  | emptyChainId rollup => exact nomatch h
  | _ => rfl

theorem isOrdinary_of_isMalformed {f : Fault} (h : f.isMalformed = true) : f.isOrdinary = true := by
  cases f with
  | words fault => rfl
  | hugeCount => rfl
  | utf8 defect => rfl
  | _ => exact nomatch h

theorem ne_emptyChainId_of_isOrdinary {f : Fault} (h : f.isOrdinary = true) (rollup : Value) :
    f ≠ .emptyChainId rollup := by
  rintro rfl
  exact Bool.false_ne_true h

end Fault

/-- That a result is no fault, or an ordinary one. -/
def FailsOrdinarily {α : Type} (x : Except Fault α) : Prop :=
  ∀ f, x = .error f → f.isOrdinary = true

namespace FailsOrdinarily

variable {α β : Type}

theorem ok (a : α) : FailsOrdinarily (.ok a) := FailsOnly.ok a

theorem error {f : Fault} (h : f.isOrdinary = true) : FailsOrdinarily (.error f : Except Fault α) :=
  FailsOnly.error h

theorem bind {x : Except Fault α} {next : α → Except Fault β} (hx : FailsOrdinarily x)
    (hnext : ∀ a, FailsOrdinarily (next a)) : FailsOrdinarily (x >>= next) :=
  FailsOnly.bind hx fun a _ => hnext a

theorem map {x : Except Fault α} (g : α → β) (hx : FailsOrdinarily x) :
    FailsOrdinarily (x.map g) :=
  FailsOnly.map g hx

end FailsOrdinarily

open FailsOrdinarily

/-! ## Readings of values -/

namespace Value

theorem bytesOfText_fails (t : Text) : FailsOrdinarily (bytesOfText t) := fun f hf =>
  Fault.isOrdinary_of_isPlain (bytesOfText_plain t f hf)

theorem toBytes_fails (v : Value) : FailsOrdinarily v.toBytes := by
  unfold toBytes
  split
  · exact ok _
  · exact bytesOfText_fails _
  · exact ok _
  · split
    · exact error rfl
    · exact ok _
  · exact error rfl

theorem named_fails (v : Value) (name : Text) : FailsOrdinarily (v.named name) := by
  unfold named
  split
  · split
    · exact ok _
    · exact error rfl
  all_goals exact error rfl

theorem item_fails (v : Value) (i : Nat) : FailsOrdinarily (v.item i) := by
  have hpick (kind : String) (items : List Value) : FailsOrdinarily (item.pick i kind items) := by
    unfold item.pick
    split
    · exact ok _
    · exact error rfl
  unfold item
  split
  · exact hpick _ _
  · exact hpick _ _
  · exact hpick _ _
  · exact hpick _ _
  · exact error rfl
  · exact error rfl

end Value

namespace Chain

theorem rollupField_fails (data name : Value) : FailsOrdinarily (rollupField data name) := by
  unfold rollupField
  split
  · split
    · exact error rfl
    · split
      · split
        · exact ok _
        · exact error rfl
      · exact error rfl
  · split
    · split
      · exact Value.item_fails _ _
      · exact error rfl
    · exact error rfl

/-! ## Rejected calls -/

namespace Refusal

theorem markedText_fails (v : Value) : FailsOrdinarily (markedText v) := by
  unfold markedText
  split
  · exact ok _
  · split
    · exact ok _
    · exact error rfl
  · exact error rfl

/-- That a reading gives an ordinary fault, whether it fails or not. -/
def EndsOrdinarily (x : Except Fault Fault) : Prop :=
  ∀ f, x = .error f ∨ x = .ok f → f.isOrdinary = true

theorem endsOrdinarily_ok {f : Fault} (h : f.isOrdinary = true) : EndsOrdinarily (.ok f) := by
  rintro g (hg | hg)
  · exact nomatch hg
  · exact Except.ok.inj hg ▸ h

theorem endsOrdinarily_error {f : Fault} (h : f.isOrdinary = true) :
    EndsOrdinarily (.error f) := by
  rintro g (hg | hg)
  · exact Except.error.inj hg ▸ h
  · exact nomatch hg

theorem endsOrdinarily_bind {α : Type} {x : Except Fault α} {next : α → Except Fault Fault}
    (hx : FailsOrdinarily x) (hnext : ∀ a, EndsOrdinarily (next a)) :
    EndsOrdinarily (x >>= next) := by
  cases x with
  | error f => exact endsOrdinarily_error (hx f rfl)
  | ok a => exact hnext a

theorem isOrdinary_of_endsOrdinarily {x : Except Fault Fault} (h : EndsOrdinarily x) :
    (match x with | .error f => f | .ok f => f).isOrdinary = true := by
  cases x with
  | error f => exact h f (.inl rfl)
  | ok f => exact h f (.inr rfl)

theorem requestFault_isOrdinary (address : Address) (request : Value) :
    (requestFault address request).isOrdinary = true := by
  refine isOrdinary_of_endsOrdinarily (endsOrdinarily_bind (Value.named_fails _ _) fun _ =>
    endsOrdinarily_bind (markedText_fails _) fun sender =>
    endsOrdinarily_bind (Value.named_fails _ _) fun _ =>
    endsOrdinarily_bind (markedText_fails _) fun question => ?_)
  split
  · refine endsOrdinarily_bind (Value.named_fails _ _) fun places => ?_
    split
    · exact endsOrdinarily_ok (Fault.isOrdinary_of_isPlain (Place.search_plain _ _ _))
    · exact endsOrdinarily_error rfl
  · exact endsOrdinarily_ok rfl

theorem raisedFault_isOrdinary (address : Address) {f : Fault} (h : f.isOrdinary = true) :
    (raisedFault address f).isOrdinary = true := by
  unfold raisedFault
  split
  · split
    · exact requestFault_isOrdinary _ _
    · exact h
  · exact h

theorem callFault_isOrdinary (address : Address) (e : ErrorObject) :
    (callFault address e).isOrdinary = true := by
  rcases callFault_plain_or_malformed address e with hplain | ⟨data, bs, -, -, hlookup⟩
  · exact Fault.isOrdinary_of_isPlain hplain
  · exact Fault.isOrdinary_of_isMalformed (Abi.Lookup.ofBytes_malformed bs _ hlookup)

end Refusal

/-! ## Responses and calls -/

/-- A response that is no result is an error object or breaks a rule of the protocol. -/
theorem Response.outcome_failsOnly {p : Fault → Bool}
    (hrule : ∀ rule raw, p (.badResponse rule raw) = true)
    (hparameter : p (.outOfRange "tuple") = true) (r : Response) (hasParameter : Bool)
    {faultOf : ErrorObject → Fault} (h : ∀ e, p (faultOf e) = true) :
    FailsOnly p (r.outcome hasParameter faultOf) := by
  have hrefuse {α : Type} (rule : String) : FailsOnly p (r.refuse rule : Except Fault α) :=
    .error (hrule rule _)
  have herror (fields : List (Text × Value)) : FailsOnly p (r.readError hasParameter fields) := by
    unfold readError
    split
    · split
      · exact .error hparameter
      · split
        · exact .ok _
        · exact hrefuse _
    · exact hrefuse _
  have hread : FailsOnly p (r.read hasParameter) := by
    unfold read
    split
    · exact hrefuse _
    · split
      · exact hrefuse _
      · exact hrefuse _
      · exact .ok _
      · exact (herror _).map _
      · exact hrefuse _
  unfold outcome
  split
  · exact .ok _
  · exact .error (h _)
  · next f hf => exact .error (hread f hf)

theorem Response.outcome_fails (r : Response) (hasParameter : Bool)
    {faultOf : ErrorObject → Fault} (h : ∀ e, (faultOf e).isOrdinary = true) :
    FailsOrdinarily (r.outcome hasParameter faultOf) :=
  r.outcome_failsOnly (fun _ _ => rfl) rfl hasParameter h

theorem Reply.outcome_fails (reply : Reply) (hraised : ∀ f, reply = .raised f → f.isOrdinary = true)
    (hasParameter : Bool) {faultOf : ErrorObject → Fault} (h : ∀ e, (faultOf e).isOrdinary = true) :
    FailsOrdinarily (reply.outcome hasParameter faultOf) := by
  cases reply with
  | response r => exact r.outcome_fails hasParameter h
  | raised f => exact .error (hraised f rfl)

/-- The only failure of reading a quantity is that its text is none. -/
theorem quantity_failsOnly {p : Fault → Bool} (h : ∀ v, p (.quantityText v) = true) (v : Value) :
    FailsOnly p (quantity v) := by
  have hnumber (cs : List Char) : FailsOnly p (numberOf v cs) := by
    unfold numberOf
    split
    · exact .ok _
    · exact .error (h v)
  unfold quantity
  split
  · exact hnumber _
  · exact hnumber _
  · exact .ok _

theorem quantity_fails (v : Value) : FailsOrdinarily (quantity v) :=
  quantity_failsOnly (fun _ => rfl) v

namespace Node

/-- A call whose arguments do not fit is refused without a request. -/
theorem call_of_mismatch {f : Function} {arguments : List Value}
    (h : f.callData? arguments = none) (n : Node) (address : Address) :
    n.call address f arguments =
      Traced.fail (.showing (fun _ => .mismatch (f.mismatch arguments)) (.list arguments)) := by
  rw [call, Function.callData_of_none h]
  exact Traced.fail_bind _ _

/-- That every failure on the way to a node is ordinary. -/
def RaisesOrdinarily (n : Node) : Prop :=
  (∀ r ∈ n.replies, ∀ f, r.2 = .raised f → f.isOrdinary = true) ∧
    ∀ r ∈ n.calls, ∀ f, r.reply = .raised f → f.isOrdinary = true

variable {n : Node} (hn : n.RaisesOrdinarily)

include hn

theorem reply_outcome_fails (method : String) (hasParameter : Bool)
    {faultOf : ErrorObject → Fault} (h : ∀ e, (faultOf e).isOrdinary = true) :
    FailsOrdinarily ((n.reply method).outcome hasParameter faultOf) := by
  unfold reply
  split
  · next r hr => exact Reply.outcome_fails _ (hn.1 r (List.mem_of_find?_eq_some hr)) _ h
  · exact Reply.outcome_fails _ (fun f hf => by cases hf) _ h

theorem callReply_outcome_fails (address : Address) (data : List UInt8) (hasParameter : Bool)
    {faultOf : ErrorObject → Fault} (h : ∀ e, (faultOf e).isOrdinary = true) :
    FailsOrdinarily ((n.callReply address data).outcome hasParameter faultOf) := by
  unfold callReply
  simp only
  split
  · next r hr => exact Reply.outcome_fails _ (hn.2 r (List.mem_of_find?_eq_some hr)) _ h
  · exact Reply.outcome_fails _ (fun f hf => by cases hf) _ h

theorem result_fails (method : String) : FailsOrdinarily (n.result method).result :=
  reply_outcome_fails hn method _ fun _ => rfl

theorem callResult_fails (address : Address) (data : List UInt8) :
    FailsOrdinarily (n.callResult address data).result := by
  have hquantity : FailsOrdinarily (n.quantityOf chainIdMethod).result := by
    rw [quantityOf, Traced.bind_result]
    exact (result_fails hn chainIdMethod).bind quantity_fails
  rw [callResult, Traced.bind_result]
  exact hquantity.bind fun _ =>
    callReply_outcome_fails hn address data true (Refusal.callFault_isOrdinary address)

theorem send_fails (address : Address) (data : List UInt8) :
    FailsOrdinarily (n.send address data).result := by
  have hresult := callResult_fails hn address data
  rw [send, Traced.resume_result]
  cases h : (n.callResult address data).result with
  | ok v => exact v.toBytes_fails
  | error f => exact error (Refusal.raisedFault_isOrdinary address (hresult f h))

theorem failUnread_fails (f : Function) (bs : List UInt8) :
    FailsOrdinarily (n.failUnread f bs).result := by
  unfold failUnread
  split
  · rw [Traced.bind_result]
    refine (result_fails hn "eth_getCode").bind fun v => ?_
    rw [Traced.bind_result]
    refine v.toBytes_fails.bind fun code => error ?_
    split <;> rfl
  · exact error rfl

/-- If every failure on the way to a node is ordinary, so is every failure of a call. -/
theorem call_fails (address : Address) (f : Function) (arguments : List Value) :
    FailsOrdinarily (n.call address f arguments).result := by
  rw [call, Traced.bind_result]
  refine FailsOrdinarily.bind ?_ fun data => ?_
  · unfold Function.callData
    split
    · exact ok _
    · exact FailsOnly.showing rfl rfl
  · rw [Traced.bind_result]
    refine (send_fails hn address data).bind fun answer => ?_
    split
    · exact ok _
    · exact failUnread_fails hn f answer

end Node

end Chain

end BatchFrontier
