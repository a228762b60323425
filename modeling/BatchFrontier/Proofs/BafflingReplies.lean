import BatchFrontier.Proofs.Escapes
import BatchFrontier.Proofs.ManagerRecords

/-!
# Replies that nobody expects

A node whose failures on the way are all expected can still reply with what nobody expects: a number
that is none, a block that is no record or hides how it is asked, bytes that are none. What a
reading of the node does then depends on the reply alone. Everything else that a node can do is
expected.
-/

namespace BatchFrontier

/-- Whether a fault is a report of a failure elsewhere that is expected. -/
def Fault.isReport : Fault → Bool
  | .reported _ r => r.isExpected
  | _ => false

theorem Fault.isExpected_of_isReport {f : Fault} (h : f.isReport = true) : f.isExpected = true := by
  cases f with
  | reported label r => exact h
  | _ => cases h

theorem Fault.isOrdinary_of_isReport {f : Fault} (h : f.isReport = true) :
    f.isOrdinary = true := by
  cases f with
  | reported label r =>
    have hstop := Fault.isStop_of_isExpected (Fault.isExpected_of_isReport h)
    simpa [isStop, isOrdinary] using hstop
  | _ => cases h

namespace Chain

/-! ## Responses -/

namespace Response

variable (r : Response) (hasParameter : Bool)

/-- Reading an error object escapes if it misses a transaction that nobody asked for. -/
theorem readError_escapes_iff (fields : List (Text × Value)) :
    Escapes (r.readError hasParameter fields) ↔ hasParameter = false ∧
      Value.field? fields "message" = some (.text ErrorObject.missingMessage) := by
  have hrefuse {α : Type} (rule : String) : ¬ Escapes (r.refuse rule : Except Fault α) := by
    simp [refuse, Fault.isExpected]
  unfold readError
  split
  · next message hmessage =>
    rw [hmessage, Option.some.injEq, Value.text.injEq]
    by_cases hmissing : message = ErrorObject.missingMessage ∧ hasParameter = false
    · rw [if_pos hmissing]
      exact iff_of_true (by simp [Fault.isExpected]) hmissing.symm
    · rw [if_neg hmissing, and_comm]
      refine iff_of_false ?_ hmissing
      split
      · exact not_escapes_ok _
      · exact hrefuse _
  · next hmessage =>
    refine iff_of_false (hrefuse _) ?_
    rintro ⟨-, hmissing⟩
    exact hmessage _ hmissing

/-- Reading a response gives a result if it brings one by the rules. -/
theorem read_eq_inl_iff (v : Value) : r.read hasParameter = .ok (.inl v) ↔
    r.isCurrent = true ∧ r.result = some v ∧ r.error = none := by
  unfold read refuse
  by_cases hcurrent : r.isCurrent = false
  · simp [hcurrent]
  · rw [if_neg hcurrent]
    split
    · next hresult herror => simp [herror]
    · next hresult herror => simp [hresult]
    · next hresult herror => simp [hresult, herror, hcurrent]
    · next fields hresult herror =>
      cases r.readError hasParameter fields with
      | error f => simp [herror, Except.map]
      | ok e => simp [herror, Except.map]
    · next hresult herror => simp [herror]

end Response

namespace Reply

variable (reply : Reply)

/-- That a reply follows the protocol and brings a result. -/
def Brings (v : Value) : Prop :=
  ∃ r, reply = .response r ∧ r.isCurrent = true ∧ r.result = some v ∧ r.error = none

/-- That a reply follows the protocol and is an error object. -/
def Refuses (hasParameter : Bool) (e : ErrorObject) : Prop :=
  ∃ r, reply = .response r ∧ r.read hasParameter = .ok (.inr e)

/-- That a reply misses a transaction. -/
def MissesTransaction : Prop :=
  ∃ r fields, reply = .response r ∧ r.isCurrent = true ∧ r.result = none ∧
    r.error = some (.record fields) ∧
    Value.field? fields "message" = some (.text ErrorObject.missingMessage)

variable {reply} {hasParameter : Bool} {faultOf : ErrorObject → Fault}

/-- A reply gives the result that it brings. -/
theorem outcome_eq_ok_iff {v : Value} :
    reply.outcome hasParameter faultOf = .ok v ↔ reply.Brings v := by
  cases reply with
  | raised f =>
    refine iff_of_false (fun h => by cases h) ?_
    rintro ⟨r, hr, -⟩
    cases hr
  | response r =>
    have hbrings : (Reply.response r).Brings v ↔ r.read hasParameter = .ok (.inl v) := by
      rw [Response.read_eq_inl_iff]
      constructor
      · rintro ⟨r', hr, h⟩
        obtain rfl := Reply.response.inj hr
        exact h
      · intro h
        exact ⟨r, rfl, h⟩
    rw [hbrings, outcome, Response.outcome]
    split
    · next w hw => simp [hw]
    · next e he => simp [he]
    · next f hf => simp [hf]

theorem escapes_read_iff (r : Response) (hasParameter : Bool) :
    Escapes (r.read hasParameter) ↔
      hasParameter = false ∧ (Reply.response r).MissesTransaction := by
  have hmisses : (Reply.response r).MissesTransaction ↔ r.isCurrent = true ∧ r.result = none ∧
      ∃ fields, r.error = some (.record fields) ∧
        Value.field? fields "message" = some (.text ErrorObject.missingMessage) := by
    constructor
    · rintro ⟨r', fields, hr, hcurrent, hresult, herror, hmissing⟩
      obtain rfl := Reply.response.inj hr
      exact ⟨hcurrent, hresult, fields, herror, hmissing⟩
    · rintro ⟨hcurrent, hresult, fields, herror, hmissing⟩
      exact ⟨r, fields, rfl, hcurrent, hresult, herror, hmissing⟩
  rw [hmisses]
  unfold Response.read Response.refuse
  by_cases hcurrent : r.isCurrent = false
  · simp [hcurrent, Fault.isExpected]
  · rw [if_neg hcurrent]
    split
    · next hresult herror => simp [hresult, Fault.isExpected]
    · next hresult herror => simp [herror, Fault.isExpected]
    · next hresult herror => simp [hresult]
    · next fields hresult herror =>
      rw [escapes_map_iff, Response.readError_escapes_iff]
      simp [hcurrent, hresult, herror]
    · next v hrecord hresult herror =>
      simp only [escapes_error_iff, Fault.isExpected, Bool.true_eq_false, false_iff]
      rintro ⟨-, -, -, fields, hfields, -⟩
      exact hrecord fields (Option.some.inj (herror.symm.trans hfields))

/-- Apart from what failed on the way, a reply escapes if it misses a transaction that nobody asked
for, or is an error object that stands for a fault that nobody expects. -/
theorem outcome_escapes_iff (hraised : ∀ f, reply = .raised f → f.isExpected = true) :
    Escapes (reply.outcome hasParameter faultOf) ↔
      (hasParameter = false ∧ reply.MissesTransaction) ∨
        ∃ e, reply.Refuses hasParameter e ∧ (faultOf e).isExpected = false := by
  cases reply with
  | raised f =>
    refine iff_of_false ?_ ?_
    · simp [outcome, hraised f rfl]
    · rintro (⟨-, r, fields, hr, -⟩ | ⟨e, ⟨r, hr, -⟩, -⟩)
      · cases hr
      · cases hr
  | response r =>
    rw [← escapes_read_iff, outcome, Response.outcome]
    have hrefuses (e : ErrorObject) :
        (Reply.response r).Refuses hasParameter e ↔ r.read hasParameter = .ok (.inr e) := by
      constructor
      · rintro ⟨r', hr, h⟩
        obtain rfl := Reply.response.inj hr
        exact h
      · intro h
        exact ⟨r, rfl, h⟩
    simp only [hrefuses]
    split
    · next v hv => simp [hv]
    · next e he => simp [he]
    · next f hf => simp [hf]

end Reply

namespace Node

/-- That every failure on the way to a node is a report that is expected. -/
def RaisesReports (n : Node) : Prop :=
  (∀ r ∈ n.replies, ∀ f, r.2 = .raised f → f.isReport = true) ∧
    ∀ r ∈ n.calls, ∀ f, r.reply = .raised f → f.isReport = true

theorem RaisesReports.ordinarily {n : Node} (h : n.RaisesReports) : n.RaisesOrdinarily :=
  ⟨fun r hr f hf => Fault.isOrdinary_of_isReport (h.1 r hr f hf),
    fun r hr f hf => Fault.isOrdinary_of_isReport (h.2 r hr f hf)⟩

variable {n : Node} (hn : n.RaisesReports)

include hn

theorem isReport_of_reply {method : String} {f : Fault} (h : n.reply method = .raised f) :
    f.isReport = true := by
  unfold reply at h
  split at h
  · next r hr => exact hn.1 r (List.mem_of_find?_eq_some hr) f h
  · cases h

theorem isReport_of_callReply {address : Address} {data : List UInt8} {f : Fault}
    (h : n.callReply address data = .raised f) : f.isReport = true := by
  unfold callReply at h
  simp only at h
  split at h
  · next r hr => exact hn.2 r (List.mem_of_find?_eq_some hr) f h
  · cases h

/-! ## Numbers -/

/-- The result of a method escapes only where it misses a transaction that nobody asked for. -/
theorem result_escapes_iff (method : String) : Escapes (n.result method).result ↔
    methodsWithParameter.contains method = false ∧ (n.reply method).MissesTransaction := by
  have hresult : (n.result method).result = (n.reply method).outcome
    (methodsWithParameter.contains method) ErrorObject.fault := rfl
  rw [hresult, Reply.outcome_escapes_iff fun f hf =>
    Fault.isExpected_of_isReport (isReport_of_reply hn hf)]
  refine or_iff_left ?_
  rintro ⟨e, -, hescapes⟩
  cases hescapes

omit hn in
theorem result_eq_ok_iff (method : String) (v : Value) :
    (n.result method).result = .ok v ↔ (n.reply method).Brings v :=
  Reply.outcome_eq_ok_iff

omit hn in
/-- The number of a value that is none escapes. -/
theorem quantity_toInteger_escapes_iff (v : Value) :
    Escapes (quantity v >>= Value.toInteger) ↔ v.isCountable = false := by
  have hnumber (w : Value) (cs : List Char) : ¬ Escapes (numberOf w cs >>= Value.toInteger) := by
    unfold numberOf
    split
    · exact not_escapes_ok _
    · simp [Bind.bind, Except.bind, Fault.isExpected]
  unfold quantity
  split
  · exact iff_of_false (hnumber _ _) (by simp [Value.isCountable])
  · exact iff_of_false (hnumber _ _) (by simp [Value.isCountable])
  · exact Value.toInteger_escapes_iff v

/-- That a node replies with what nobody expects to a question for the id of its chain: with a
transaction that is missing, or with a value that is no number. -/
def BafflesChainId (n : Node) : Prop :=
  (n.reply chainIdMethod).MissesTransaction ∨
    ∃ v, (n.reply chainIdMethod).Brings v ∧ v.isCountable = false

theorem chainId_escapes_iff : Escapes n.chainId.result ↔ n.BafflesChainId := by
  have hread : n.chainId.result =
      ((n.result chainIdMethod).result >>= fun v => quantity v >>= Value.toInteger) := by
    rw [chainId, number, quantityOf, Traced.bind_result, Traced.bind_result]
    cases (n.result chainIdMethod).result <;> rfl
  have hbare : methodsWithParameter.contains chainIdMethod = false := by decide
  rw [hread, escapes_bind_iff, result_escapes_iff hn, BafflesChainId]
  simp only [hbare, true_and, result_eq_ok_iff, quantity_toInteger_escapes_iff]

end Node

/-! ## Calls of contracts -/

namespace Refusal

/-- What is neither a report nor asks for data is left as it is. -/
theorem raisedFault_of_isPlain (address : Address) {f : Fault} (h : f.isPlain = true) :
    raisedFault address f = f := by
  cases f with
  | reported label r => cases h
  | _ => rfl

theorem raisedFault_of_isMalformed (address : Address) {f : Fault} (h : f.isMalformed = true) :
    raisedFault address f = f := by
  cases f with
  | reported label r => cases h
  | _ => rfl

/-- That the data of an error object begin like a request for data from elsewhere, and what follows
is no request. -/
def AsksInVain (e : ErrorObject) : Prop :=
  ∃ data bs, AsksElsewhere e data ∧
    Value.bytesOfText (data.drop lookupMark.length) = .ok bs ∧ Escapes (Abi.Lookup.ofBytes bs)

/-- An error object escapes if it asks for data in vain. -/
theorem raisedFault_callFault_iff (address : Address) (e : ErrorObject) :
    (raisedFault address (callFault address e)).isExpected = false ↔ AsksInVain e := by
  constructor
  · intro h
    rcases callFault_plain_or_malformed address e with hplain | ⟨data, bs, hasks, hbytes, hlookup⟩
    · rw [raisedFault_of_isPlain address hplain, Fault.isExpected_of_isPlain hplain] at h
      cases h
    · rw [raisedFault_of_isMalformed address (Abi.Lookup.ofBytes_malformed bs _ hlookup)] at h
      exact ⟨data, bs, hasks, hbytes, _, hlookup, h⟩
  · rintro ⟨data, bs, hasks, hbytes, f, hlookup, hescapes⟩
    rw [callFault_of_asks hasks, lookupFault_of_malformed address hbytes hlookup,
      raisedFault_of_isMalformed address (Abi.Lookup.ofBytes_malformed bs _ hlookup)]
    exact hescapes

theorem markedText_escapes_iff (v : Value) : Escapes (markedText v) ↔ Form.isText v = false := by
  cases v with
  | text t =>
    refine iff_of_false ?_ (by simp [Form.isText])
    unfold markedText
    simp only
    split
    · exact not_escapes_ok _
    · simp [Fault.isExpected]
  | _ => simp [markedText, Form.isText, Fault.isExpected]

/-- A part of a request by its name, with its mark. -/
def part (request : Value) (name : Text) : Except Fault Text := request.named name >>= markedText

/-- A part of a request escapes if the request is no record, or the part is no text. -/
theorem part_escapes_iff (request : Value) (name : Text) : Escapes (part request name) ↔
    Form.isRecord request = false ∨ ∃ v, request.named name = .ok v ∧ Form.isText v = false := by
  rw [part, escapes_bind_iff, Value.named_escapes_iff]
  simp only [markedText_escapes_iff]

/-- What is examined of a request for data from elsewhere by a record: whether it is one, whether
who asks and what is asked are texts, and, if the contract that was called asks, whether the places
can be listed. -/
def examinations (address : Address) (request : Value) : List Examination :=
  [⟨∃ sender, part request "sender" = .ok sender, Form.isRecord request = false ∨
      ∃ v, request.named "sender" = .ok v ∧ Form.isText v = false⟩,
    ⟨∃ question, part request "callData" = .ok question, Form.isRecord request = false ∨
      ∃ v, request.named "callData" = .ok v ∧ Form.isText v = false⟩,
    ⟨True, part request "sender" = .ok (asker address) ∧ (Form.isRecord request = false ∨
      ∃ v, request.named "urls" = .ok v ∧ v.members? = none)⟩]

/-- The search for data through the places that a request lists. -/
def searchOf (request : Value) (sender question : Text) : Except Fault Fault := do
  let places ← request.named "urls"
  match places.members? with
  | some urls => pure (Place.search sender question (urls.map Value.shown))
  | none => throw (.mistyped places.kind)

theorem searchOf_escapes_iff (request : Value) (sender question : Text) :
    Escapes (searchOf request sender question) ↔ Form.isRecord request = false ∨
      ∃ v, request.named "urls" = .ok v ∧ v.members? = none := by
  rw [searchOf, escapes_bind_iff, Value.named_escapes_iff]
  refine or_congr_right (exists_congr fun v => and_congr_right fun _ => ?_)
  cases v.members? with
  | none => exact iff_of_true (escapes_error_iff.mpr rfl) rfl
  | some urls => exact iff_of_false (not_escapes_ok _) (Option.some_ne_none _)

/-- What is found in the end is expected. -/
theorem isExpected_of_searchOf {request : Value} {sender question : Text} {f : Fault}
    (h : searchOf request sender question = .ok f) : f.isExpected = true := by
  unfold searchOf at h
  cases hurls : request.named "urls" with
  | error g =>
    rw [hurls] at h
    cases h
  | ok v =>
    simp only [hurls, Bind.bind, Except.bind] at h
    split at h
    · rw [← Except.ok.inj h]
      exact Fault.isExpected_of_isPlain (Place.search_plain _ _ _)
    · cases h

/-- A request is read part by part, and the places count only if the contract that was called
asks. -/
def readRequest (address : Address) (request : Value) : Except Fault Fault := do
  let sender ← part request "sender"
  let question ← part request "callData"
  if sender = asker address then searchOf request sender question else pure .foreignSender

theorem requestFault_eq (address : Address) (request : Value) : requestFault address request =
    match readRequest address request with
    | .error f => f
    | .ok f => f := by
  simp only [readRequest, part, bind_assoc]
  rfl

theorem readRequest_escapes_iff (address : Address) (request : Value) :
    Escapes (readRequest address request) ↔ FirstEscapes (examinations address request) := by
  refine escapes_bind_iff_firstEscapes (part_escapes_iff request _) Iff.rfl fun sender hs => ?_
  refine escapes_bind_iff_firstEscapes (part_escapes_iff request _) Iff.rfl fun question _ => ?_
  rw [firstEscapes_cons_iff, hs, Except.ok.injEq]
  simp only [not_firstEscapes_nil, and_false, or_false]
  by_cases hsender : sender = asker address
  · rw [if_pos hsender, searchOf_escapes_iff]
    simp [hsender]
  · rw [if_neg hsender]
    exact iff_of_false (not_escapes_ok _) fun h => hsender h.1

theorem isExpected_of_readRequest {address : Address} {request : Value} {f : Fault}
    (h : readRequest address request = .ok f) : f.isExpected = true := by
  unfold readRequest at h
  cases hs : part request "sender" with
  | error g => simp [hs, Bind.bind, Except.bind] at h
  | ok sender =>
    cases hq : part request "callData" with
    | error g => simp [hs, hq, Bind.bind, Except.bind] at h
    | ok question =>
      simp only [hs, hq, Bind.bind, Except.bind] at h
      split at h
      · exact isExpected_of_searchOf h
      · rw [← Except.ok.inj h]
        rfl

/-- A request escapes as the first of its examinations does. -/
theorem requestFault_iff (address : Address) (request : Value) :
    (requestFault address request).isExpected = false ↔
      FirstEscapes (examinations address request) := by
  rw [requestFault_eq, ← readRequest_escapes_iff]
  cases hread : readRequest address request with
  | error f => exact escapes_error_iff.symm
  | ok f => exact iff_of_false (by simp [isExpected_of_readRequest hread]) (not_escapes_ok f)

/-- That a failure on the way is a request for data from elsewhere and none that can be read. -/
def FailsInVain (address : Address) (f : Fault) : Prop :=
  ∃ label r, f = .reported label r ∧ r.kind = .offchain ∧
    FirstEscapes (examinations address ((r.attribute? "payload").getD r.first))

/-- A report that is expected escapes if it is a request that cannot be read. -/
theorem raisedFault_iff (address : Address) {f : Fault} (h : f.isReport = true) :
    (raisedFault address f).isExpected = false ↔ FailsInVain address f := by
  cases f with
  | reported label r =>
    by_cases hkind : r.kind = .offchain
    · rw [raisedFault, if_pos hkind, requestFault_iff]
      constructor
      · intro hfirst
        exact ⟨label, r, rfl, hkind, hfirst⟩
      · rintro ⟨_, _, hreport, -, hfirst⟩
        obtain ⟨rfl, rfl⟩ := Fault.reported.inj hreport
        exact hfirst
    · rw [raisedFault, if_neg hkind]
      refine iff_of_false (by simp [Fault.isExpected_of_isReport h]) ?_
      rintro ⟨_, _, hreport, hoffchain, -⟩
      obtain ⟨rfl, rfl⟩ := Fault.reported.inj hreport
      exact hkind hoffchain
  | _ => cases h

end Refusal

theorem Response.read_plain (r : Response) : FailsOnly Fault.isPlain (r.read true) := by
  have hrefuse {α : Type} (rule : String) :
      FailsOnly Fault.isPlain (r.refuse rule : Except Fault α) := .error rfl
  unfold read
  split
  · exact hrefuse _
  · split
    · exact hrefuse _
    · exact hrefuse _
    · exact .ok _
    · refine FailsOnly.map _ ?_
      unfold readError
      split
      · rw [if_neg (by simp)]
        split
        · exact .ok _
        · exact hrefuse _
      · exact hrefuse _
    · exact hrefuse _

namespace Node

/-- That a node replies to a call of a contract with what nobody expects: with a value that stands
for no bytes, with such a value in the place of the code of a contract that answered nothing, with
an error object that asks for data in vain, or by failing on the way with a request for data that is
none. -/
inductive Baffles (n : Node) (address : Address) (f : Function) (data : List UInt8) : Prop
  | answer {v : Value} (hreply : (n.callReply address data).Brings v)
    (hkind : v.isByteLike = false)
  | code {v w : Value} {bs : List UInt8} (hreply : (n.callReply address data).Brings v)
    (hbytes : v.toBytes = .ok bs) (hunread : f.answer? bs = none) (hempty : isEmptyCode bs = true)
    (hcode : (n.reply "eth_getCode").Brings w) (hkind : w.isByteLike = false)
  | refusal {e : ErrorObject} (hreply : (n.callReply address data).Refuses true e)
    (hasks : Refusal.AsksInVain e)
  | failure {g : Fault} (hreply : n.callReply address data = .raised g)
    (hrequest : Refusal.FailsInVain address g)

/-- That a node replies to a call of a function with what nobody expects, once it is called. -/
def BafflesCall (n : Node) (address : Address) (f : Function) (arguments : List Value) : Prop :=
  ∃ data, f.callData? arguments = some data ∧ n.Baffles address f data

variable {n : Node} (hn : n.RaisesReports)

/-- After a node has told its chain, what it says to a call is its reply to the call. -/
theorem callResult_of_told (htold : ∃ id, n.chainId.result = .ok id) (address : Address)
    (data : List UInt8) : (n.callResult address data).result =
      (n.callReply address data).outcome true (Refusal.callFault address) := by
  obtain ⟨id, hid⟩ := htold
  rw [chainId, number, Traced.bind_result] at hid
  cases hquantity : (n.quantityOf chainIdMethod).result with
  | error f =>
    rw [hquantity] at hid
    cases hid
  | ok q =>
    rw [callResult, Traced.bind_result, hquantity]
    rfl

theorem send_of_error {address : Address} {data : List UInt8} {f : Fault}
    (h : (n.callResult address data).result = .error f) :
    (n.send address data).result = .error (Refusal.raisedFault address f) := by
  rw [send, Traced.resume_result, h]
  rfl

/-- The bytes of a call are those that the reply brings. -/
theorem send_eq_ok_iff (htold : ∃ id, n.chainId.result = .ok id) {address : Address}
    {data bs : List UInt8} : (n.send address data).result = .ok bs ↔
      ∃ v, (n.callReply address data).Brings v ∧ v.toBytes = .ok bs := by
  have htold := callResult_of_told htold address data
  cases hcall : (n.callResult address data).result with
  | ok v =>
    have houtcome := htold.symm.trans hcall
    rw [send_of_ok hcall]
    constructor
    · intro h
      exact ⟨v, Reply.outcome_eq_ok_iff.mp houtcome, h⟩
    · rintro ⟨w, hw, hbytes⟩
      obtain rfl := Except.ok.inj ((Reply.outcome_eq_ok_iff.mpr hw).symm.trans houtcome)
      exact hbytes
  | error f =>
    rw [send_of_error hcall]
    refine iff_of_false (fun h => by cases h) ?_
    rintro ⟨w, hw, -⟩
    cases hcall.symm.trans (htold.trans (Reply.outcome_eq_ok_iff.mpr hw))

/-- A call that is sent escapes if the reply to it brings a value that stands for no bytes, asks
for data in vain, or is a failure that does. -/
theorem send_escapes_iff (hn : n.RaisesReports) (htold : ∃ id, n.chainId.result = .ok id)
    {address : Address} {data : List UInt8} : Escapes (n.send address data).result ↔
      (∃ v, (n.callReply address data).Brings v ∧ v.isByteLike = false) ∨
      (∃ e, (n.callReply address data).Refuses true e ∧ Refusal.AsksInVain e) ∨
      ∃ g, n.callReply address data = .raised g ∧ Refusal.FailsInVain address g := by
  have htold := callResult_of_told htold address data
  cases hreply : n.callReply address data with
  | raised g =>
    rw [hreply] at htold
    rw [send_of_error htold, escapes_error_iff,
      Refusal.raisedFault_iff address (isReport_of_callReply hn hreply)]
    constructor
    · intro h
      exact .inr (.inr ⟨g, rfl, h⟩)
    · rintro (⟨v, ⟨r, hr, -⟩, -⟩ | ⟨e, ⟨r, hr, -⟩, -⟩ | ⟨g', hg, h⟩)
      · cases hr
      · cases hr
      · obtain rfl := Reply.raised.inj hg
        exact h
  | response r =>
    rw [hreply, Reply.outcome, Response.outcome] at htold
    cases hread : r.read true with
    | error f =>
      rw [hread] at htold
      have hplain := r.read_plain f hread
      rw [send_of_error htold, Refusal.raisedFault_of_isPlain address hplain]
      refine iff_of_false (by simp [Fault.isExpected_of_isPlain hplain]) ?_
      rintro (⟨v, ⟨r', hr, hbrings⟩, -⟩ | ⟨e, ⟨r', hr, hrefuses⟩, -⟩ | ⟨g, hg, -⟩)
      · obtain rfl := Reply.response.inj hr
        cases hread.symm.trans ((r.read_eq_inl_iff true v).mpr hbrings)
      · obtain rfl := Reply.response.inj hr
        cases hread.symm.trans hrefuses
      · cases hg
    | ok given =>
      cases given with
      | inl v =>
        rw [hread] at htold
        rw [send_of_ok htold, Value.toBytes_escapes_iff]
        constructor
        · intro h
          exact .inl ⟨v, ⟨r, rfl, (r.read_eq_inl_iff true v).mp hread⟩, h⟩
        · rintro (⟨w, ⟨r', hr, hbrings⟩, h⟩ | ⟨e, ⟨r', hr, hrefuses⟩, -⟩ | ⟨g, hg, -⟩)
          · obtain rfl := Reply.response.inj hr
            have hsame := hread.symm.trans ((r.read_eq_inl_iff true w).mpr hbrings)
            obtain rfl := Sum.inl.inj (Except.ok.inj hsame)
            exact h
          · obtain rfl := Reply.response.inj hr
            cases hread.symm.trans hrefuses
          · cases hg
      | inr e =>
        rw [hread] at htold
        rw [send_of_error htold, escapes_error_iff, Refusal.raisedFault_callFault_iff]
        constructor
        · intro h
          exact .inr (.inl ⟨e, ⟨r, rfl, hread⟩, h⟩)
        · rintro (⟨w, ⟨r', hr, hbrings⟩, -⟩ | ⟨e', ⟨r', hr, hrefuses⟩, h⟩ | ⟨g, hg, -⟩)
          · obtain rfl := Reply.response.inj hr
            cases hread.symm.trans ((r.read_eq_inl_iff true w).mpr hbrings)
          · obtain rfl := Reply.response.inj hr
            obtain rfl := Sum.inr.inj (Except.ok.inj (hread.symm.trans hrefuses))
            exact h
          · cases hg

include hn

/-- An answer that is not read escapes if it is empty and the code of the contract is a value that
stands for no bytes. -/
theorem failUnread_escapes_iff (f : Function) (bs : List UInt8) :
    Escapes (n.failUnread f bs).result ↔ isEmptyCode bs = true ∧
      ∃ w, (n.reply "eth_getCode").Brings w ∧ w.isByteLike = false := by
  unfold failUnread
  by_cases hempty : isEmptyCode bs = true
  · have hread : (n.result "eth_getCode" >>= fun v => liftM v.toBytes >>= fun code =>
          Traced.fail (if isEmptyCode code then .emptyAnswer else badAnswer f bs) :
            Traced Value).result =
        ((n.result "eth_getCode").result >>= fun v => v.toBytes >>= fun code =>
          .error (if isEmptyCode code then .emptyAnswer else badAnswer f bs)) := by
      rw [Traced.bind_result]
      refine congrArg _ (funext fun v => ?_)
      rw [Traced.bind_result]
      rfl
    have hparameter : methodsWithParameter.contains "eth_getCode" = true := by decide
    have hrefused (code : List UInt8) :
        (if isEmptyCode code then Fault.emptyAnswer else badAnswer f bs).isExpected = true := by
      split <;> rfl
    rw [if_pos hempty, hread, escapes_bind_iff, result_escapes_iff hn]
    simp only [hparameter, hempty, Bool.true_eq_false, false_and, false_or, true_and,
      result_eq_ok_iff, escapes_bind_iff, Value.toBytes_escapes_iff, escapes_error_iff, hrefused,
      and_false, exists_false, or_false]
  · rw [if_neg hempty]
    exact iff_of_false (by simp [badAnswer, Fault.isExpected]) fun h => hempty h.1

/-- After a node has told its chain, a call escapes if the node replies to it with what nobody
expects. -/
theorem call_escapes_iff (htold : ∃ id, n.chainId.result = .ok id) (address : Address)
    (f : Function) (arguments : List Value) :
    Escapes (n.call address f arguments).result ↔ n.BafflesCall address f arguments := by
  unfold BafflesCall
  cases hdata : f.callData? arguments with
  | none =>
    rw [call_of_mismatch hdata n address]
    exact iff_of_false (not_escapes_showing rfl) (by simp)
  | some data =>
    have hread : (n.call address f arguments).result =
        ((n.send address data).result >>= fun bs =>
          (f.answer? bs).elim (n.failUnread f bs).result .ok) := by
      rw [call, Function.callData, hdata, Traced.bind_result, Traced.lift_result]
      simp only [Except.bind, Traced.bind_result]
      refine congrArg _ (funext fun bs => ?_)
      cases hanswer : f.answer? bs with
      | none => simp only [hanswer, Option.elim_none]
      | some v => simp only [hanswer, Option.elim_some, Traced.pure_result]
    rw [hread, escapes_bind_iff, send_escapes_iff hn htold]
    simp only [Option.some.injEq, exists_eq_left', send_eq_ok_iff htold]
    constructor
    · rintro ((⟨v, hv, hkind⟩ | ⟨e, he, hasks⟩ | ⟨g, hg, hrequest⟩) | ⟨bs, ⟨v, hv, hbytes⟩, h⟩)
      · exact .answer hv hkind
      · exact .refusal he hasks
      · exact .failure hg hrequest
      · cases hanswer : f.answer? bs with
        | some w =>
          rw [hanswer] at h
          exact absurd h (not_escapes_ok w)
        | none =>
          rw [hanswer] at h
          obtain ⟨hempty, w, hw, hkind⟩ := (failUnread_escapes_iff hn f bs).mp h
          exact .code hv hbytes hanswer hempty hw hkind
    · rintro (⟨hv, hkind⟩ | ⟨hv, hbytes, hanswer, hempty, hw, hkind⟩ | ⟨he, hasks⟩ |
        ⟨hg, hrequest⟩)
      · exact .inl (.inl ⟨_, hv, hkind⟩)
      · refine .inr ⟨_, ⟨_, hv, hbytes⟩, ?_⟩
        rw [hanswer]
        exact (failUnread_escapes_iff hn f _).mpr ⟨hempty, _, hw, hkind⟩
      · exact .inl (.inr (.inl ⟨_, he, hasks⟩))
      · exact .inl (.inr (.inr ⟨_, hg, hrequest⟩))

end Node

end Chain

end BatchFrontier
