import BatchFrontier.Chain.Form
import BatchFrontier.Files
import BatchFrontier.Network
import BatchFrontier.Proofs.RefusalFaults
import Mathlib.Tactic.ByContra
import Mathlib.Tactic.Tauto

/-!
# Faults that escape

Some faults are not expected at the command line: they escape it. Whether a computation that is put
together escapes follows from its parts, and whether a reading of a value escapes follows from the
kind of the value alone: what is of the right kind and cannot be read is refused with a fault that
is expected.
-/

namespace BatchFrontier

variable {α β : Type}

/-- That a computation fails with a fault that nobody expects. -/
def Escapes (x : Except Fault α) : Prop := ∃ f, x = .error f ∧ f.isExpected = false

@[simp] theorem not_escapes_ok (a : α) : ¬ Escapes (.ok a : Except Fault α) := by
  rintro ⟨f, hf, -⟩
  cases hf

@[simp] theorem escapes_error_iff {f : Fault} :
    Escapes (.error f : Except Fault α) ↔ f.isExpected = false := by
  constructor
  · rintro ⟨g, hg, hescapes⟩
    rw [Except.error.inj hg]
    exact hescapes
  · intro h
    exact ⟨f, rfl, h⟩

/-- Two computations escape if the first does, or if it gives a value with which the second does. -/
theorem escapes_bind_iff {x : Except Fault α} {next : α → Except Fault β} :
    Escapes (x >>= next) ↔ Escapes x ∨ ∃ a, x = .ok a ∧ Escapes (next a) := by
  cases x with
  | error f =>
    have hbind : (.error f >>= next : Except Fault β) = .error f := rfl
    rw [hbind]
    simp
  | ok a =>
    constructor
    · intro h
      exact .inr ⟨a, rfl, h⟩
    · rintro (h | ⟨b, hb, h⟩)
      · exact absurd h (not_escapes_ok a)
      · obtain rfl := Except.ok.inj hb
        exact h

theorem escapes_map_iff {x : Except Fault α} (g : α → β) : Escapes (x.map g) ↔ Escapes x := by
  cases x with
  | error f => exact escapes_error_iff.trans escapes_error_iff.symm
  | ok a => exact iff_of_false (not_escapes_ok (g a)) (not_escapes_ok a)

/-- A computation that only fails with what is expected does not escape. -/
theorem FailsOnly.not_escapes {x : Except Fault α} (h : FailsOnly Fault.isExpected x) :
    ¬ Escapes x := by
  rintro ⟨f, hf, hescapes⟩
  exact Bool.false_ne_true (hescapes.symm.trans (h f hf))

/-- A fault that shows a value is expected whether the value can be written or not. -/
theorem Fault.isExpected_showing {fault : Value → Fault} {v : Value}
    (h : (fault v).isExpected = true) : (showing fault v).isExpected = true :=
  FailsOnly.showing (α := Unit) h rfl _ rfl

theorem not_escapes_showing {fault : Value → Fault} {v : Value}
    (h : (fault v).isExpected = true) :
    ¬ Escapes (.error (.showing fault v) : Except Fault α) :=
  (FailsOnly.showing h rfl).not_escapes

theorem failsOnly_iff_not_escapes {x : Except Fault α} :
    FailsOnly Fault.isExpected x ↔ ¬ Escapes x := by
  refine ⟨FailsOnly.not_escapes, fun h f hf => ?_⟩
  by_contra hescapes
  exact h ⟨f, hf, by simpa using hescapes⟩

/-- A request to stop is not expected. -/
theorem Fault.isStop_of_isExpected {f : Fault} (h : f.isExpected = true) : f.isStop = false := by
  cases f with
  | reported label r =>
    by_contra hstop
    have hkind : r.kind = .stop := by simpa [isStop] using hstop
    simp [isExpected, Report.isExpected, hkind] at h
  | _ => rfl

/-! ## Examinations in their order -/

/-- Something that is examined, by when it is passed and when the examination escapes. -/
structure Examination where
  passes : Prop
  escapes : Prop

/-- That one of some examinations escapes after all before it were passed. -/
inductive FirstEscapes : List Examination → Prop
  | here {e : Examination} {rest : List Examination} (h : e.escapes) : FirstEscapes (e :: rest)
  | later {e : Examination} {rest : List Examination} (h : e.passes) (hrest : FirstEscapes rest) :
    FirstEscapes (e :: rest)

@[simp] theorem not_firstEscapes_nil : ¬ FirstEscapes [] := nofun

theorem firstEscapes_cons_iff {e : Examination} {rest : List Examination} :
    FirstEscapes (e :: rest) ↔ e.escapes ∨ e.passes ∧ FirstEscapes rest := by
  constructor
  · rintro (h | ⟨h, hrest⟩)
    · exact .inl h
    · exact .inr ⟨h, hrest⟩
  · rintro (h | ⟨h, hrest⟩)
    · exact .here h
    · exact .later h hrest

/-- Where all of some examinations are passed and none of them escapes, only what follows them
counts. -/
theorem firstEscapes_append_iff {es rest : List Examination} :
    FirstEscapes (es ++ rest) ↔ FirstEscapes es ∨ (∀ e ∈ es, e.passes) ∧ FirstEscapes rest := by
  induction es with
  | nil => simp
  | cons e es ih =>
    rw [List.cons_append, firstEscapes_cons_iff, firstEscapes_cons_iff, ih, List.forall_mem_cons]
    tauto

/-- That a computation is made of examinations: it escapes as the first of them does, and ends well
if all of them are passed. -/
structure ConsistsOf (x : Except Fault α) (es : List Examination) : Prop where
  escapes_iff : Escapes x ↔ FirstEscapes es
  passes_iff : (∃ a, x = .ok a) ↔ ∀ e ∈ es, e.passes

theorem ConsistsOf.single {x : Except Fault α} {e : Examination}
    (hescapes : Escapes x ↔ e.escapes) (hpasses : (∃ a, x = .ok a) ↔ e.passes) :
    ConsistsOf x [e] where
  escapes_iff := by simp [firstEscapes_cons_iff, hescapes]
  passes_iff := by simp [hpasses]

/-- Two computations escape like examinations and those that follow them, if the first computation
is made of those and the second escapes like what follows. -/
theorem ConsistsOf.bind {x : Except Fault α} {next : α → Except Fault β}
    {es rest : List Examination} (h : ConsistsOf x es)
    (hrest : ∀ a, x = .ok a → (Escapes (next a) ↔ FirstEscapes rest)) :
    Escapes (x >>= next) ↔ FirstEscapes (es ++ rest) := by
  rw [escapes_bind_iff, firstEscapes_append_iff, h.escapes_iff, ← h.passes_iff]
  refine or_congr_right ?_
  constructor
  · rintro ⟨a, ha, hnext⟩
    exact ⟨⟨a, ha⟩, (hrest a ha).mp hnext⟩
  · rintro ⟨⟨a, ha⟩, hfirst⟩
    exact ⟨a, ha, (hrest a ha).mpr hfirst⟩

/-- Two computations are made of the examinations of both. -/
theorem ConsistsOf.append {x : Except Fault α} {next : α → Except Fault β}
    {es rest : List Examination} (h : ConsistsOf x es)
    (hrest : ∀ a, x = .ok a → ConsistsOf (next a) rest) : ConsistsOf (x >>= next) (es ++ rest) where
  escapes_iff := h.bind fun a ha => (hrest a ha).escapes_iff
  passes_iff := by
    rw [List.forall_mem_append, ← h.passes_iff]
    cases hx : x with
    | error f =>
      refine iff_of_false ?_ ?_
      · rintro ⟨b, hb⟩
        cases hb
      · rintro ⟨⟨a, ha⟩, -⟩
        cases ha
    | ok a =>
      have hnext : (.ok a >>= next : Except Fault β) = next a := rfl
      rw [hnext, (hrest a hx).passes_iff]
      constructor
      · intro hpasses
        exact ⟨⟨a, rfl⟩, hpasses⟩
      · rintro ⟨-, hpasses⟩
        exact hpasses

/-- Two computations escape like two examinations in their order, if the first computation does
like the first examination and the second like what follows it. -/
theorem escapes_bind_iff_firstEscapes {x : Except Fault α} {next : α → Except Fault β}
    {e : Examination} {rest : List Examination} (hescapes : Escapes x ↔ e.escapes)
    (hpasses : (∃ a, x = .ok a) ↔ e.passes)
    (hrest : ∀ a, x = .ok a → (Escapes (next a) ↔ FirstEscapes rest)) :
    Escapes (x >>= next) ↔ FirstEscapes (e :: rest) :=
  (ConsistsOf.single hescapes hpasses).bind hrest

/-! ## Readings of values -/

namespace Value

/-- Whether a value is of a kind of which an integer is made: a number that is not infinite, or a
text in characters or in bytes. -/
def isCountable : Value → Bool
  | .integer _ | .truth _ | .text _ | .bytes _ => true
  | .real (.infinite _) => false
  | .real _ => true
  | _ => false

/-- Whether a value is of a kind that stands for bytes: a text, bytes, or a whole number. -/
def isByteLike : Value → Bool
  | .integer _ | .truth _ | .text _ | .bytes _ => true
  | _ => false

theorem decimal_expected (v : Value) (cs : List Char) :
    FailsOnly Fault.isExpected (toInteger.decimal v cs) := by
  unfold toInteger.decimal
  split
  · exact .ok _
  · exact .error rfl
  · exact .error rfl

theorem toInteger_escapes_iff (v : Value) : Escapes v.toInteger ↔ v.isCountable = false := by
  have htext (v : Value) (cs : List Char) : ¬ Escapes (toInteger.decimal v cs) :=
    (decimal_expected v cs).not_escapes
  cases v with
  | text t => simpa [toInteger, isCountable] using htext _ _
  | bytes bs => simpa [toInteger, isCountable] using htext _ _
  | real x => cases x <;> simp [toInteger, isCountable, Fault.isExpected]
  | _ => simp [toInteger, isCountable, Fault.isExpected]

theorem toBytes_escapes_iff (v : Value) : Escapes v.toBytes ↔ v.isByteLike = false := by
  cases v with
  | text t =>
    have hplain : FailsOnly Fault.isExpected (bytesOfText t) := fun f hf =>
      Fault.isExpected_of_isPlain (bytesOfText_plain t f hf)
    simpa [toBytes, isByteLike] using hplain.not_escapes
  | integer n =>
    by_cases hn : n < 0
    · simp [toBytes, isByteLike, hn, Fault.isExpected]
    · simp [toBytes, isByteLike, hn]
  | _ => simp [toBytes, isByteLike, Fault.isExpected]

theorem isNonpositive_escapes_iff (v : Value) :
    Escapes v.isNonpositive ↔ Report.isNumber v = false := by
  cases v <;> simp [isNonpositive, integer?, Report.isNumber, Fault.isExpected]

theorem named_escapes_iff (v : Value) (name : Text) :
    Escapes (v.named name) ↔ Chain.Form.isRecord v = false := by
  cases v with
  | record fields =>
    cases h : field? fields name <;> simp [named, h, Chain.Form.isRecord, Fault.isExpected]
  | _ => simp [named, Chain.Form.isRecord, Fault.isExpected]

theorem decimal_number_expected (n : Int) : FailsOnly Fault.isExpected (decimal n) := by
  unfold decimal
  split
  · exact .ok _
  · exact .error rfl

end Value

namespace Files

theorem nameOf_expected (path : Text) : FailsOnly Fault.isExpected (nameOf path) := by
  unfold nameOf
  split
  · exact .error rfl
  · split
    · exact .error rfl
    · exact .ok _

end Files

theorem Network.nameOfNumber_expected (n : Int) :
    FailsOnly Fault.isExpected (Network.nameOfNumber n) :=
  (Value.decimal_number_expected n).bind fun _ _ => .ok _

end BatchFrontier
