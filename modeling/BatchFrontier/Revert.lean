import BatchFrontier.Abi.Message
import BatchFrontier.Abi.Selector
import BatchFrontier.Bytes.Hex
import BatchFrontier.Fault

/-!
# Reverts

A call that the chain rejects fails in one of several forms: with the payload of an error that the
rollup manager declares, with the payload of a plain message, or with a text that holds the words
`execution reverted:`. Recognising a revert finds its reason in any of these forms.
-/

namespace BatchFrontier.Revert

open BatchFrontier.Text

/-- The signatures of the errors with which the rollup manager rejects a verification. -/
def signatures : List String :=
  ["OnlyTrustedAggregator()", "RollupMustExist()", "InitNumBatchAboveLastVerifiedBatch()",
   "InitNumBatchDoesNotMatchPendingState()", "FinalNumBatchBelowLastVerifiedBatch()",
   "FinalNumBatchDoesNotMatchPendingState()", "FinalPendingStateNumInvalid()",
   "OldAccInputHashDoesNotExist()", "NewAccInputHashDoesNotExist()",
   "NewStateRootNotInsidePrime()", "InvalidProof()", "PendingStateNotConsolidable()",
   "TrustedAggregatorTimeoutNotExpired()", "ExceedMaxVerifyBatches()"]

/-- The name in a signature, which stands before its parameters. -/
def nameOf (signature : String) : String :=
  String.ofList (signature.toList.takeWhile (· != '('))

/-- The errors that the rollup manager declares: the digits of their selectors with their names. -/
def declared : List (String × String) :=
  signatures.map fun signature => (Abi.selectorDigits signature, nameOf signature)

/-- The selector of a plain message, `Error(string)`. -/
def messageSelector : String := "08c379a0"

/-- The digits of a payload in lower case, without the mark. -/
def payloadDigits (payload : Text) : List Char :=
  match payload.chars.map Char.toLower with
  | '0' :: 'x' :: rest => rest
  | cs => cs

/-- The reason in the payload of a declared error or of a plain message. -/
def reasonOfPayload? (payload : Text) : Option Text :=
  let digits := payloadDigits payload
  let selector := String.ofList (digits.take 8)
  match declared.find? fun e => e.1 == selector with
  | some e => some (.ofString e.2)
  | none =>
    if selector = messageSelector then
      ((Hex.readSpaced (digits.drop 8)).toOption.bind Abi.readMessage?).map Text.ofChars
    else none

/-- The words before a reason in a text. -/
def marker : Text := "execution reverted:"

/-- The characters that end a reason. -/
def endsReason (c : Char) : Bool := c == '\'' || c == '"' || c == '\n' || c == '}'

/-- The reason in what follows the marker. Blanks are skipped; where nothing else follows them, a
blank that may stand in a reason makes an empty one. -/
def reasonAfterMarker? (rest : List Code) : Option Text :=
  let blanks := rest.takeWhile (Code.satisfies isBlank)
  let body := (rest.drop blanks.length).takeWhile fun c => !c.satisfies endsReason
  if body ≠ [] then some ⟨trimWhere (Code.satisfies isBlank) body⟩
  else if blanks.any (· != .char '\n') then some ""
  else none

/-- The reason after the first marker that is followed by one. -/
def reasonOfCodes? : List Code → Option Text
  | [] => none
  | c :: cs =>
    let here :=
      if marker.codes.isPrefixOf (c :: cs) then
        reasonAfterMarker? ((c :: cs).drop marker.length)
      else none
    here.orElse fun _ => reasonOfCodes? cs

/-- The reason that a text holds. -/
def reasonOfText? (t : Text) : Option Text := reasonOfCodes? t.codes

/-- What a failed call shows of itself. -/
structure Evidence where
  /-- The data of a call that reverted; none for other failures. -/
  payload : Option Value
  /-- Whether the call reverted with an error declared by the contract. -/
  isCustom : Bool
  /-- The message that the failure carries. -/
  message : Option Value
  /-- The text of the failure. -/
  text : Text

/-- What a report shows. -/
def Evidence.ofReport (r : Report) : Evidence :=
  let payload := match r.kind with
    | .logic | .custom | .panic | .offchain => some ((r.attribute? "data").getD .nothing)
    | _ => none
  ⟨payload, r.kind == .custom, r.attribute? "message", r.text⟩

/-- What a fault shows. -/
def Evidence.ofFault : Fault → Evidence
  | .reported _ r => .ofReport r
  | .refused r => .ofReport r
  | f => ⟨none, false, none, f.message⟩

/-- The payload to look at first: the data if it is a text, and for a declared error else the text
of the failure. -/
def Evidence.payloadText? (e : Evidence) : Option Text :=
  match e.payload with
  | some (.text t) => some t
  | some _ => if e.isCustom then some e.text else none
  | none => none

/-- The message to search: the one carried if it is a text, else the text of the failure. -/
def Evidence.searched (e : Evidence) : Text :=
  match e.message with
  | some (.text t) => t
  | _ => e.text

/-- The reason of the revert that the evidence speaks of. -/
def Evidence.reason? (e : Evidence) : Option Text :=
  (e.payloadText?.bind reasonOfPayload?).orElse fun _ =>
    reasonOfText? e.searched

/-- The revert that a fault comes from, if it is recognised. -/
def recognise? (f : Fault) : Option Fault := (Evidence.ofFault f).reason?.map .reverted

end BatchFrontier.Revert
