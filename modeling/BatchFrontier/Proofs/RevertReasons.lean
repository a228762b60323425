import BatchFrontier.Proofs.RevertOrigin
import BatchFrontier.Proofs.RevertPayloads
import BatchFrontier.Proofs.TrimmedTexts

/-!
# The reason in a text

A reason is read from a text at a marker: blanks are skipped, and a run of codes that do not end a
reason is taken. There may be several ways to do so. The one that counts has its marker first, and
from there it skips the most blanks and takes the longest run. The run without the blanks at its
ends is the reason.
-/

namespace BatchFrontier

namespace Revert

open BatchFrontier.Text

/-! ## Ways to read a reason -/

/-- A way to read a reason right after a marker: blanks to skip and a run to take. -/
structure Reading (cs : List Code) where
  blanks : List Code
  run : List Code
  after : List Code
  split : cs = blanks ++ (run ++ after)
  blank : ∀ c ∈ blanks, c.satisfies isBlank = true
  nonempty : run ≠ []
  free : ∀ c ∈ run, c.satisfies endsReason = false

/-- That a reading skips the most blanks, and takes the longest run after so many. -/
def Reading.IsLongest {cs : List Code} (r : Reading cs) : Prop :=
  ∀ s : Reading cs, s.blanks.length < r.blanks.length ∨
    s.blanks.length = r.blanks.length ∧ s.run.length ≤ r.run.length

/-- A place in a text where a marker stands and a reason can be read. -/
structure Occurrence (cs : List Code) where
  before : List Code
  rest : List Code
  split : cs = before ++ (marker.codes ++ rest)
  reading : Reading rest

/-- That an occurrence has the first marker that one has, and from there the longest reading. -/
structure Occurrence.IsFirst {cs : List Code} (o : Occurrence cs) : Prop where
  leftmost : ∀ p : Occurrence cs, o.before.length ≤ p.before.length
  longest : o.reading.IsLongest

/-- Codes give a reason if there is a way to read one. -/
theorem givesReason_iff {cs : List Code} : GivesReason cs ↔ Nonempty (Reading cs) := by
  constructor
  · rintro ⟨blanks, c, after, rfl, hblanks, hc⟩
    exact ⟨⟨blanks, [c], after, rfl, hblanks, by simp, by simpa using hc⟩⟩
  · rintro ⟨r⟩
    obtain ⟨c, run, hrun⟩ := List.exists_cons_of_ne_nil r.nonempty
    have hsplit := r.split
    rw [hrun, List.cons_append] at hsplit
    exact ⟨r.blanks, c, run ++ r.after, hsplit, r.blank, r.free c (by simp [hrun])⟩

/-- A text speaks of a revert if a reason can be read somewhere. -/
theorem speaks_iff {t : Text} : Speaks t ↔ Nonempty (Occurrence t.codes) := by
  constructor
  · rintro ⟨before, rest, hsplit, hgives⟩
    obtain ⟨reading⟩ := givesReason_iff.mp hgives
    exact ⟨⟨before, rest, hsplit, reading⟩⟩
  · rintro ⟨o⟩
    exact ⟨o.before, o.rest, o.split, givesReason_iff.mpr ⟨o.reading⟩⟩

/-! ## The longest reading -/

/-- A beginning with a property is no longer than the longest one. -/
theorem length_le_takeWhile {α : Type} {p : α → Bool} {front rest : List α}
    (h : ∀ c ∈ front, p c = true) : front.length ≤ ((front ++ rest).takeWhile p).length := by
  rw [List.takeWhile_append_of_pos h, List.length_append]
  exact Nat.le_add_right _ _

/-- If a run is left after all blanks, it is taken by the longest reading. -/
theorem exists_longest_of_body {cs : List Code}
    (hbody : (cs.dropWhile (Code.satisfies isBlank)).takeWhile (fun c => !c.satisfies endsReason) ≠
      []) : ∃ r : Reading cs, r.IsLongest ∧
        r.run = (cs.dropWhile (Code.satisfies isBlank)).takeWhile
          (fun c => !c.satisfies endsReason) := by
  have hcs : cs = cs.takeWhile (Code.satisfies isBlank) ++ cs.dropWhile (Code.satisfies isBlank) :=
    List.takeWhile_append_dropWhile.symm
  generalize htail : cs.dropWhile (Code.satisfies isBlank) = tail at hbody hcs ⊢
  let r : Reading cs :=
    { blanks := cs.takeWhile (Code.satisfies isBlank)
      run := tail.takeWhile fun c => !c.satisfies endsReason
      after := tail.dropWhile fun c => !c.satisfies endsReason
      split := by rwa [List.takeWhile_append_dropWhile]
      blank := fun c hc => List.mem_takeWhile_imp hc
      nonempty := hbody
      free := fun c hc => by simpa using List.mem_takeWhile_imp hc }
  refine ⟨r, ?_, rfl⟩
  intro s
  have hblanks : s.blanks.length ≤ r.blanks.length := by
    change s.blanks.length ≤ (cs.takeWhile (Code.satisfies isBlank)).length
    conv_rhs => rw [s.split]
    exact length_le_takeWhile s.blank
  rcases Nat.lt_or_eq_of_le hblanks with hlt | heq
  · exact .inl hlt
  · obtain ⟨-, hrest⟩ := List.append_inj (s.split.symm.trans hcs) heq
    have hrun : s.run.length ≤ (tail.takeWhile fun c => !c.satisfies endsReason).length := by
      rw [← hrest]
      apply length_le_takeWhile
      intro c hc
      simp [s.free c hc]
    exact .inr ⟨heq, hrun⟩

/-- If the last code from which a reason can be read stands behind blanks, the longest reading takes
it and nothing else. -/
theorem exists_longest_of_not_givesReason {cs front after : List Code} {b : Code}
    (hcs : cs = front ++ b :: after) (hfront : ∀ c ∈ front, c.satisfies isBlank = true)
    (hb : b.satisfies endsReason = false) (hafter : ¬ GivesReason after) :
    ∃ r : Reading cs, r.IsLongest ∧ r.run = [b] := by
  let r : Reading cs :=
    { blanks := front
      run := [b]
      after := after
      split := hcs
      blank := hfront
      nonempty := by simp
      free := by simpa using hb }
  refine ⟨r, ?_, rfl⟩
  -- A reading that skips the code, or goes on behind it, reads a reason from what follows.
  intro s
  obtain ⟨c, run, hrun⟩ := List.exists_cons_of_ne_nil s.nonempty
  have hsplit : s.blanks ++ c :: (run ++ s.after) = front ++ b :: after := by
    rw [← hcs, ← List.cons_append, ← hrun, ← s.split]
  rcases Nat.lt_trichotomy s.blanks.length front.length with hlt | heq | hgt
  · exact .inl hlt
  · obtain ⟨-, hrest⟩ := List.append_inj hsplit heq
    obtain ⟨-, hbehind⟩ := List.cons.inj hrest
    cases run with
    | nil => exact .inr ⟨heq, by simp [hrun, r]⟩
    | cons d run =>
      have hd : d.satisfies endsReason = false := s.free d (by simp [hrun])
      exact absurd ⟨[], d, run ++ s.after, hbehind.symm, by simp, hd⟩ hafter
  · obtain ⟨skipped, hskip, hrest⟩ : ∃ skipped, s.blanks = front ++ skipped ∧
        b :: after = skipped ++ c :: (run ++ s.after) := by
      rcases List.append_eq_append_iff.mp hsplit with ⟨skipped, hlonger, -⟩ | hshorter
      · rw [hlonger, List.length_append] at hgt
        omega
      · exact hshorter
    cases skipped with
    | nil => simp [hskip] at hgt
    | cons a skipped =>
      have hblank : ∀ d ∈ skipped, d.satisfies isBlank = true := by
        intro d hd
        exact s.blank d (by rw [hskip]; simp [hd])
      have hc : c.satisfies endsReason = false := s.free c (by simp [hrun])
      exact absurd ⟨skipped, c, run ++ s.after, (List.cons.inj hrest).2, hblank, hc⟩ hafter

/-- No reason can be read from codes that end reasons, with nothing behind them or with one more
that is no blank. -/
theorem not_givesReason_of_ends {ends tail : List Code}
    (hends : ∀ e ∈ ends, e.satisfies endsReason = true)
    (htail : ∀ d ∈ tail.head?, d.satisfies isBlank = false ∧ d.satisfies endsReason = true) :
    ¬ GivesReason (ends ++ tail) := by
  rintro ⟨front, c, after, hsplit, hfront, hc⟩
  induction ends generalizing front with
  | nil =>
    rw [List.nil_append] at hsplit
    cases front with
    | nil =>
      have hcends := (htail c (by rw [hsplit]; rfl)).2
      rw [hc] at hcends
      cases hcends
    | cons b front =>
      have hb := (htail b (by rw [hsplit]; rfl)).1
      rw [hfront b List.mem_cons_self] at hb
      cases hb
  | cons e ends ih =>
    cases front with
    | nil =>
      obtain ⟨rfl, -⟩ := List.cons.inj hsplit
      rw [hends e List.mem_cons_self] at hc
      cases hc
    | cons b front =>
      rw [List.cons_append, List.cons_append] at hsplit
      exact ih (fun e he => hends e (List.mem_cons_of_mem _ he)) front (List.cons.inj hsplit).2
        fun b hb => hfront b (List.mem_cons_of_mem _ hb)

/-- Among some members with a property there is a last one. -/
theorem exists_last_of_any {α : Type} {p : α → Bool} {cs : List α} (h : cs.any p = true) :
    ∃ front c back, cs = front ++ c :: back ∧ p c = true ∧ ∀ d ∈ back, p d = false := by
  have hfound : (cs.reverse.find? p).isSome = true := by simpa using h
  obtain ⟨c, hc⟩ := Option.isSome_iff_exists.mp hfound
  obtain ⟨hp, back, front, hsplit, hback⟩ := List.find?_eq_some_iff_append.mp hc
  refine ⟨front.reverse, c, back.reverse, ?_, hp, ?_⟩
  · rw [List.reverse_eq_iff.mp hsplit]
    simp
  · intro d hd
    simpa using hback d (List.mem_reverse.mp hd)

/-- If no run is left after all blanks, the longest reading takes the last blank that is no
newline, and nothing else. -/
theorem exists_longest_of_blank {cs : List Code}
    (hbody : (cs.dropWhile (Code.satisfies isBlank)).takeWhile (fun c => !c.satisfies endsReason) =
      [])
    (hblank : (cs.takeWhile (Code.satisfies isBlank)).any (· != .char '\n') = true) :
    ∃ r : Reading cs, r.IsLongest ∧ ∀ c ∈ r.run, c.satisfies isBlank = true := by
  have hall : ∀ c ∈ cs.takeWhile (Code.satisfies isBlank), c.satisfies isBlank = true :=
    fun c hc => List.mem_takeWhile_imp hc
  have htail : ∀ d ∈ (cs.dropWhile (Code.satisfies isBlank)).head?,
      d.satisfies isBlank = false ∧ d.satisfies endsReason = true := by
    intro d hd
    refine ⟨eq_false_of_mem_head?_dropWhile hd, ?_⟩
    by_contra hends
    obtain ⟨rest, hrest⟩ := List.head?_eq_some_iff.mp hd
    simp [hrest, hends] at hbody
  obtain ⟨front, b, newlines, hblanks, hb, hnewlines⟩ := exists_last_of_any hblank
  have hcs : cs = front ++ b :: (newlines ++ cs.dropWhile (Code.satisfies isBlank)) := by
    rw [← List.cons_append, ← List.append_assoc, ← hblanks, List.takeWhile_append_dropWhile]
  rw [hblanks] at hall
  have hbblank : b.satisfies isBlank = true := hall b (by simp)
  have hbfree : b.satisfies endsReason = false := by
    by_contra hbends
    have hnewline := endsReason_of_isBlank hbblank (by simpa using hbends)
    simp [hnewline] at hb
  have hends : ∀ e ∈ newlines, e.satisfies endsReason = true := by
    intro e he
    have hnewline : e = .char '\n' := by simpa using hnewlines e he
    rw [hnewline]
    decide
  obtain ⟨r, hlongest, hrun⟩ := exists_longest_of_not_givesReason hcs
    (fun c hc => hall c (List.mem_append_left _ hc)) hbfree (not_givesReason_of_ends hends htail)
  exact ⟨r, hlongest, by simpa [hrun] using hbblank⟩

/-- What is read after a marker is the trimmed run of the longest reading. -/
theorem exists_longest_of_reasonAfterMarker? {cs : List Code} {reason : Text}
    (h : reasonAfterMarker? cs = some reason) : ∃ r : Reading cs, r.IsLongest ∧
      IsTrimmed (Code.satisfies isBlank) r.run reason.codes := by
  have hdrop : cs.drop (cs.takeWhile (Code.satisfies isBlank)).length =
      cs.dropWhile (Code.satisfies isBlank) := by
    have htake := List.prefix_iff_eq_append.mp
      (List.takeWhile_prefix (Code.satisfies isBlank) (l := cs))
    exact List.append_cancel_left (htake.trans List.takeWhile_append_dropWhile.symm)
  unfold reasonAfterMarker? at h
  simp only [hdrop] at h
  split at h
  · next hbody =>
    obtain rfl := Option.some.inj h
    obtain ⟨r, hlongest, hrun⟩ := exists_longest_of_body hbody
    refine ⟨r, hlongest, ?_⟩
    rw [hrun]
    apply isTrimmed_trimWhere
  · next hbody =>
    split at h
    · next hblank =>
      obtain rfl := Option.some.inj h
      obtain ⟨r, hlongest, hrun⟩ := exists_longest_of_blank (not_not.mp hbody) hblank
      exact ⟨r, hlongest, isTrimmed_nil_iff.mpr hrun⟩
    · cases h

/-- There is one longest reading. -/
theorem Reading.IsLongest.run_eq {cs : List Code} {r s : Reading cs} (hr : r.IsLongest)
    (hs : s.IsLongest) : r.run = s.run := by
  have hlength : r.blanks.length = s.blanks.length ∧ r.run.length = s.run.length := by
    have hrs := hr s
    have hsr := hs r
    omega
  obtain ⟨-, hrest⟩ := List.append_inj (r.split.symm.trans s.split) hlength.1
  exact (List.append_inj hrest hlength.2).1

/-! ## The first occurrence -/

/-- What is read right here is read after a marker. -/
theorem exists_rest_of_reasonHere {cs : List Code} {reason : Text}
    (h : (if marker.codes.isPrefixOf cs then reasonAfterMarker? (cs.drop marker.length)
      else none) = some reason) :
    ∃ rest, cs = marker.codes ++ rest ∧ reasonAfterMarker? rest = some reason := by
  split at h
  · next hprefix =>
    obtain ⟨rest, rfl⟩ := List.isPrefixOf_iff_prefix.mp hprefix
    have hdrop : (marker.codes ++ rest).drop marker.length = rest := List.drop_left
    exact ⟨rest, rfl, by rwa [hdrop] at h⟩
  · cases h

/-- What is found in some codes is the trimmed run of their first occurrence. The search goes from
the front, so an occurrence that is found later is first if there is none here. -/
theorem exists_first_of_reasonOfCodes? {cs : List Code} {reason : Text}
    (h : reasonOfCodes? cs = some reason) : ∃ o : Occurrence cs, o.IsFirst ∧
      IsTrimmed (Code.satisfies isBlank) o.reading.run reason.codes := by
  induction cs with
  | nil => cases h
  | cons c cs ih =>
    rw [reasonOfCodes?] at h
    cases hhere : (if marker.codes.isPrefixOf (c :: cs) then
        reasonAfterMarker? ((c :: cs).drop marker.length) else none) with
    | some found =>
      rw [hhere] at h
      obtain rfl := Option.some.inj h
      obtain ⟨rest, hrest, hreason⟩ := exists_rest_of_reasonHere hhere
      obtain ⟨r, hlongest, htrimmed⟩ := exists_longest_of_reasonAfterMarker? hreason
      exact ⟨⟨[], rest, hrest, r⟩, ⟨fun _ => Nat.zero_le _, hlongest⟩, htrimmed⟩
    | none =>
      rw [hhere] at h
      obtain ⟨o, hfirst, htrimmed⟩ := ih h
      have hnowhere : ∀ p : Occurrence (c :: cs), p.before ≠ [] := by
        intro p hbefore
        have hsplit := p.split
        rw [hbefore, List.nil_append] at hsplit
        have hsome := (reasonHere_isSome_iff (c :: cs)).mpr
          ⟨p.rest, hsplit, givesReason_iff.mpr ⟨p.reading⟩⟩
        rw [hhere] at hsome
        cases hsome
      refine ⟨⟨c :: o.before, o.rest, ?_, o.reading⟩, ⟨?_, hfirst.longest⟩, htrimmed⟩
      · rw [List.cons_append, ← o.split]
      · intro p
        obtain ⟨d, before, hbefore⟩ := List.exists_cons_of_ne_nil (hnowhere p)
        have hsplit := p.split
        rw [hbefore, List.cons_append] at hsplit
        have hleast := hfirst.leftmost ⟨before, p.rest, (List.cons.inj hsplit).2, p.reading⟩
        rw [hbefore]
        exact Nat.succ_le_succ hleast

/-- There is one run that counts. -/
theorem Occurrence.IsFirst.run_eq {cs : List Code} {o p : Occurrence cs} (ho : o.IsFirst)
    (hp : p.IsFirst) : o.reading.run = p.reading.run := by
  have hlength := Nat.le_antisymm (ho.leftmost p) (hp.leftmost o)
  obtain ⟨-, hmarker⟩ := List.append_inj (o.split.symm.trans p.split) hlength
  have hrest := List.append_cancel_left hmarker
  obtain ⟨before, rest, split, r⟩ := o
  obtain ⟨before', rest', split', s⟩ := p
  obtain rfl : rest = rest' := hrest
  exact ho.longest.run_eq hp.longest

/-- The reason in a text is the trimmed run of its first occurrence. -/
theorem reasonOfText?_eq_some_iff {t reason : Text} : reasonOfText? t = some reason ↔
    ∃ o : Occurrence t.codes, o.IsFirst ∧
      IsTrimmed (Code.satisfies isBlank) o.reading.run reason.codes := by
  constructor
  · exact exists_first_of_reasonOfCodes?
  · rintro ⟨o, hfirst, htrimmed⟩
    obtain ⟨found, hfound⟩ := Option.isSome_iff_exists.mp
      ((reasonOfText?_isSome_iff t).mpr (speaks_iff.mpr ⟨o⟩))
    obtain ⟨p, hfirst', htrimmed'⟩ := exists_first_of_reasonOfCodes? hfound
    have hcodes : reason.codes = found.codes := by
      rw [htrimmed.eq_trimWhere, htrimmed'.eq_trimWhere, hfirst.run_eq hfirst']
    rw [hfound, show reason = found from congrArg Text.mk hcodes]

example : reasonOfText? "failed: execution reverted:\n no batch \x7d" = some "no batch" := by
  decide +kernel

/-! ## Reasons -/

/-- A reason holds no code that ends reasons. -/
theorem Occurrence.free_of_isTrimmed {cs reason : List Code} (o : Occurrence cs)
    (h : IsTrimmed (Code.satisfies isBlank) o.reading.run reason) :
    ∀ c ∈ reason, c.satisfies endsReason = false := by
  intro c hc
  obtain ⟨front, back, hrun, -, -⟩ := h.piece
  apply o.reading.free
  simp [hrun, hc]

end Revert

/-! ## Faults that are passed on -/

namespace Builder

/-- That a build passes all checks before it shapes its transaction, and fails there. -/
def FailsToShape (b : Builder) (key : Except Fault Address) (v : Verification) (f : Fault) :
    Prop :=
  ∃ auth exitRoot stateRoot proof, authorize b.chain key = .ok auth ∧
    (Root.ofValue "newLocalExitRoot" v.inputs.exitRoot).result = .ok exitRoot ∧
    (Root.ofValue "newStateRoot" v.inputs.stateRoot).result = .ok stateRoot ∧
    Proof.ofValue v.inputs.proof = .ok proof ∧
    (b.shape v auth exitRoot stateRoot proof).result = .error f

/-- A fault in which no revert is recognised is passed on as it is. -/
theorem FailsToShape.build {b : Builder} {key : Except Fault Address} {v : Verification}
    {f : Fault} (h : FailsToShape b key v f) (hsilent : Revert.recognise? f = none) :
    (b.build key v).result = .error f := by
  obtain ⟨auth, exitRoot, stateRoot, proof, hauth, hexit, hstate, hproof, hshape⟩ := h
  have hsettled : settled f = f := by simp [settled, hsilent]
  rw [build_of_proof hauth hexit hstate hproof, recogniseRevert_eq, hshape]
  simp only [Except.mapError, hsettled]
  rfl

end Builder

namespace Revert

open BatchFrontier.Text

/-! ## The grammar -/

/-- That no payload tells why a fault came about. -/
def LacksPayload (f : Fault) : Prop :=
  ∀ payload, (Evidence.ofFault f).payloadText? = some payload →
    ∀ reason, ¬ Says (digitsOf payload) reason

section

variable {f : Fault} (h : LacksPayload f)

include h

/-- Without a payload a fault is told by its text alone. -/
theorem recognise?_of_lacksPayload : recognise? f = (reasonOfText? f.spoken).map .reverted := by
  have hpayload : (Evidence.ofFault f).payloadText?.bind reasonOfPayload? = none := by
    rw [Option.bind_eq_none_iff]
    intro payload hpayload
    exact reasonOfPayload?_eq_none_iff.mpr (h payload hpayload)
  rw [recognise?_eq, hpayload]
  rfl

end

end Revert

end BatchFrontier
