import BatchFrontier.Proofs.ProviderOrder

/-!
# The course of a resolution

A provider that is asked leaves what its read does, and then lines in the log about it. As long as
providers fail the next one is asked, and the first value that is accepted ends the resolution. So
what a resolution leaves is what the providers up to that value leave, one after the other. Where
no provider gives such a value, all of them are asked and the failure of the last one stands. Only a
request to stop and a value that cannot be checked end a resolution before.
-/

namespace BatchFrontier.Provider

section

variable (what : Value) (check : Check)

/-- The lines in the log about a provider: one about a read that failed, or one about the value that
was read and another if that is rejected. -/
def lines (p : Provider) : List Event :=
  match p.read.result with
  | .error f => [.logged .debug .state (failureLine what p.name f)]
  | .ok v => .logged .debug .state (readLine what p.name v) ::
    match check.run v with
    | .error _ | .ok none => []
    | .ok (some f) => [.logged .debug .state (rejectionLine what p.name f)]

end

variable {what : Value} {check : Check} {p : Provider}
  {before rest : List Provider} {last f : Fault} {v : Value}

/-! ## One provider -/

end BatchFrontier.Provider
