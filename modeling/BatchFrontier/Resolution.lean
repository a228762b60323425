import BatchFrontier.Traced

/-!
# Resolution by providers

A value is asked for from providers in their order, until one gives a value that is accepted. A
rejected value counts as a failure of its provider, and when all fail the last failure stands. Where
a value cannot even be checked, nothing more is asked.
-/

namespace BatchFrontier

/-- A named way to read a value. -/
structure Provider where
  name : Text
  read : Traced Value

namespace Provider

/-- What is made of a value that was read: why it must not be used, or nothing against it. The check
itself can fail. -/
structure Check where
  run : Value → Except Fault (Option Fault)

/-- A check that never fails. -/
instance : Coe (Value → Option Fault) Check := ⟨fun reject? => ⟨fun v => .ok (reject? v)⟩⟩

/-- The line about a failed read. -/
def failureLine (what : Value) (name : Text) (f : Fault) : Text :=
  "error getting " ++ what.shown ++ " from " ++ name ++ ": " ++ f.message

/-- The line about a value that was read. -/
def readLine (what : Value) (name : Text) (v : Value) : Text :=
  what.shown ++ " read from " ++ name ++ ": " ++ v.shown

/-- The line about a value that was read and must not be used. -/
def rejectionLine (what : Value) (name : Text) (f : Fault) : Text :=
  what.shown ++ " from " ++ name ++ " rejected: " ++ f.message

/-- Asks one provider: its value if that is accepted, else its failure or the rejection. A request
to stop is not logged, nor is a check that fails. -/
def ask (what : Value) (check : Check) (p : Provider) : Traced Value :=
  p.read.resume fun
    | .error f => do
      if f.isStop then Traced.fail f
      Traced.log .debug .state (failureLine what p.name f)
      Traced.fail f
    | .ok v => do
      Traced.log .debug .state (readLine what p.name v)
      match check.run v with
      | .error f => Traced.fail f
      | .ok none => pure v
      | .ok (some f) => do
        Traced.log .debug .state (rejectionLine what p.name f)
        Traced.fail f

/-- Whether a provider is the last to be asked, unless its value is accepted: its read ends with a
request to stop, or the check of its value fails. -/
def isLast (check : Check) (p : Provider) : Bool :=
  match p.read.result with
  | .ok v => !(check.run v).isOk
  | .error f => f.isStop

/-- Asks providers in their order, where `last` is the failure that stands if there are none. -/
def firstAccepted (what : Value) (check : Check) (last : Fault) : List Provider → Traced Value
  | [] => Traced.fail last
  | p :: rest =>
    (ask what check p).resume fun
      | .ok v => pure v
      | .error f => if p.isLast check then Traced.fail f else firstAccepted what check f rest

/-- The first accepted value of a number of providers. -/
def resolve (what : Value) (check : Check) (providers : List Provider) : Traced Value :=
  firstAccepted what check (.noProviders what) providers

/-- Rejects no value. -/
def rejectNone (_ : Value) : Option Fault := none

end Provider

end BatchFrontier
