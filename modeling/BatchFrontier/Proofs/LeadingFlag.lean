import BatchFrontier.Proofs.UnreportedFailures

/-!
# A flag before all other arguments

Values are kept in the order in which arguments give them, and no argument is placed by what others
have given. So a flag that stands before all other arguments is set, and the others are taken as
they are without it.
-/

namespace BatchFrontier.CommandLine

namespace Parsed

variable (p : Parsed) (first : List (String × Value))

/-- What has been understood, with some values that were given before. -/
def after : Parsed := { p with values := first ++ p.values }

theorem set_after (key : String) (v : Value) :
    (p.after first).set key v = (p.set key v).after first := by
  simp only [after, set, List.append_assoc]

variable {p first}

theorem get?_after_eq (key : String) : (p.after first).get? key =
    (p.get? key).or ((first.reverse.find? fun v => v.1 == key).map (·.2)) := by
  simp only [get?, after, List.reverse_append, List.find?_append]
  cases p.values.reverse.find? fun v => v.1 == key <;> rfl

/-- Values under other names do not count. -/
theorem get?_after_of_ne {key : String} (h : ∀ v ∈ first, v.1 ≠ key) :
    (p.after first).get? key = p.get? key := by
  have hnone : (first.reverse.find? fun v => v.1 == key) = none := by
    rw [List.find?_eq_none]
    intro v hv
    have hne := h v (List.mem_reverse.mp hv)
    simpa using hne
  rw [get?_after_eq, hnone, Option.map_none, Option.or_none]

end Parsed

namespace Grammar

variable {g : Grammar} (first : List (String × Value)) {p q : Parsed}

/-- An option is carried out whatever was given before. -/
theorem apply_after {o : OptionSpec} {arg : Text} (h : g.apply p o arg = .ok q) :
    g.apply (p.after first) o arg = .ok (q.after first) := by
  unfold apply at h ⊢
  cases htake : o.take with
  | help =>
    rw [htake] at h
    cases h
  | flag =>
    rw [htake] at h
    obtain rfl := Except.ok.inj h
    exact congrArg Except.ok (p.set_after first o.key (.truth true))
  | text =>
    simp only [htake, bind_eq_ok_iff] at h ⊢
    obtain ⟨v, hv, h⟩ := h
    obtain rfl := Except.ok.inj h
    exact ⟨v, hv, congrArg Except.ok (p.set_after first o.key v)⟩
  | integer =>
    simp only [htake, bind_eq_ok_iff] at h ⊢
    obtain ⟨v, hv, h⟩ := h
    obtain rfl := Except.ok.inj h
    exact ⟨v, hv, congrArg Except.ok (p.set_after first o.key v)⟩

theorem applyAll_after {before : List OptionSpec}
    (h : before.foldlM (fun p o => g.apply p o "") p = .ok q) :
    before.foldlM (fun p o => g.apply p o "") (p.after first) = .ok (q.after first) := by
  induction before generalizing p with
  | nil =>
    obtain rfl := Except.ok.inj h
    rfl
  | cons o before ih =>
    rw [List.foldlM_cons, bind_eq_ok_iff] at h ⊢
    obtain ⟨p', hp', h⟩ := h
    exact ⟨p'.after first, apply_after first hp', ih h⟩

theorem fillOperands_after {ms : List (Text × Mark)} {os : List Operand} {n : Nat}
    (h : g.fillOperands ms os p = .ok (q, n)) :
    g.fillOperands ms os (p.after first) = .ok (q.after first, n) := by
  induction os generalizing ms p n with
  | nil =>
    cases h
    rfl
  | cons o os ih =>
    rw [fillOperands] at h ⊢
    split at h
    · cases h
      rfl
    · simp only [bind_eq_ok_iff] at h ⊢
      obtain ⟨v, hv, ⟨q', m⟩, hfill, h⟩ := h
      cases h
      refine ⟨v, hv, (q'.after first, m), ?_, rfl⟩
      rw [p.set_after]
      exact ih hfill

/-- Operands and commands are filled whatever was given before. -/
theorem fill_after {ms : List (Text × Mark)} {n : Nat} (h : g.fill ms p = .ok (q, n)) :
    g.fill ms (p.after first) = .ok (q.after first, n) := by
  unfold fill at h ⊢
  split at h
  · exact fillOperands_after first h
  · have hcommand : (p.after first).command = p.command := rfl
    unfold fillCommand at h ⊢
    rw [hcommand]
    split at h
    · split at h
      · cases h
        rfl
      · cases h
    · cases h
      rfl

/-- Arguments get their places whatever was given before. -/
theorem place_after {ms : List (Text × Mark)} (h : g.place ms p = .ok q) :
    g.place ms (p.after first) = .ok (q.after first) := by
  induction ms, p using place.induct with
  | case1 p =>
    rw [place, map_eq_ok_iff] at h ⊢
    obtain ⟨⟨q', n⟩, hfill, rfl⟩ := h
    exact ⟨(q'.after first, n), fill_after first hfill, rfl⟩
  | case2 p arg rest ih =>
    rw [place] at h ⊢
    exact ih h
  | case3 p arg rest o name joined ih =>
    rw [place] at h ⊢
    simp only [bind_eq_ok_iff] at h ⊢
    obtain ⟨⟨before, last, joined'⟩, hspread, ⟨value, left⟩, hleft, p', hbefore, p'', hlast, h⟩ := h
    exact ⟨_, hspread, _, hleft, p'.after first, applyAll_after first hbefore, p''.after first,
      apply_after first hlast, ih left p'' h⟩
  | case4 p arg m rest hunknown hoption ihrest ihdrop =>
    rw [place] at h ⊢
    · simp only [bind_eq_ok_iff] at h ⊢
      obtain ⟨⟨p', n⟩, hfill, h⟩ := h
      refine ⟨(p'.after first, n), fill_after first hfill, ?_⟩
      split at h
      · next hmore =>
        rw [if_pos hmore]
        split at h
        · next hnone =>
          rw [if_pos hnone]
          exact ihrest p' h
        · next hsome =>
          rw [if_neg hsome]
          exact ihdrop p' n h
      · next hlast =>
        rw [if_neg hlast]
        cases h
        rfl
    all_goals assumption

/-- A flag that stands before all other arguments of a grammar without required options is set. -/
theorem parse_cons_flag {arg : Text} {o : OptionSpec} {name : String}
    (hmark : g.mark arg = .ok (.option o name none)) (harg : arg ≠ separator)
    (hflag : o.take = .flag) (hfree : ∀ o ∈ g.options, o.isRequired = false) {args : List Text}
    (h : g.parse args = .ok p) :
    g.parse (arg :: args) = .ok (p.after [(o.key, .truth true)]) := by
  have htakes : takesArgument o = false := by
    rw [takesArgument, hflag]
  have hunmet (q : Parsed) : g.unmet (q.after [(o.key, .truth true)]) = g.unmet q := by
    have hnone (q : Parsed) :
        g.options.filter (fun o => o.isRequired && (q.get? o.key).isNone) = [] := by
      rw [List.filter_eq_nil_iff]
      intro o' ho'
      rw [hfree o' ho', Bool.false_and]
      exact Bool.false_ne_true
    simp only [unmet, hnone]
    rfl
  unfold parse at h ⊢
  simp only [bind_eq_ok_iff] at h ⊢
  obtain ⟨ms, hms, q, hplace, h⟩ := h
  have hmarks : g.marks (arg :: args) = .ok ((arg, .option o name none) :: ms) := by
    rw [marks, if_neg harg, hmark, hms]
    rfl
  have hmet : g.unmet q = [] ∧ q = p := by
    split at h
    · next hnothing => exact ⟨hnothing, Except.ok.inj h⟩
    · cases h
  obtain ⟨hnothing, rfl⟩ := hmet
  refine ⟨_, hmarks, q.after [(o.key, .truth true)], ?_, ?_⟩
  · have hset := place_after [(o.key, .truth true)] hplace
    rw [place]
    simp only [bind_eq_ok_iff]
    refine ⟨([], o, none), rfl, ("", ⟨ms, Nat.le_refl _⟩), ?_, _, rfl, _, ?_, hset⟩
    · simp [argumentOf, htakes]
    · rw [apply, hflag]
      rfl
  · rw [hunmet, hnothing]
    rfl

end Grammar

/-- Arguments that ask for a command ask for the same with a document over several lines if the flag
for that stands before them. -/
theorem Asks.pretty {env : Environment} {arguments : List Text} {i : Invocation}
    (h : Asks env arguments i) :
    Asks env ("--pretty" :: arguments) { i with isPretty := true } := by
  obtain ⟨d, s, hsettings, hinvocation⟩ := h
  obtain ⟨p, name, rest, command, extras, hparse, hcommand, hread, hleft, rfl⟩ :=
    ofArguments_eq_ok_iff.mp hinvocation
  have hmark : Invocation.grammar.mark "--pretty" =
      .ok (.option ⟨["--pretty"], "pretty", .flag, false⟩ "--pretty" none) := by decide
  have hset := Grammar.parse_cons_flag hmark (by decide) rfl (by decide) hparse
  refine ⟨d, s, hsettings, ofArguments_eq_ok_iff.mpr
    ⟨_, name, rest, command, extras, hset, hcommand, hread, hleft, ?_⟩⟩
  have hother (key : String) (hkey : "pretty" ≠ key) :
      (p.after [("pretty", .truth true)]).get? key = p.get? key :=
    Parsed.get?_after_of_ne (List.forall_mem_singleton.mpr hkey)
  have hpretty : ((p.after [("pretty", .truth true)]).get? "pretty").isSome = true := by
    rw [Parsed.get?_after_eq, Option.isSome_or]
    exact Bool.or_true _
  simp only [Invocation.settingsOf, hother _ (show "pretty" ≠ "rpc" by decide),
    hother _ (show "pretty" ≠ "l1_chain_id" by decide),
    hother _ (show "pretty" ≠ "rollup_id" by decide),
    hother _ (show "pretty" ≠ "manager" by decide),
    hother _ (show "pretty" ≠ "legacy" by decide),
    hother _ (show "pretty" ≠ "debug" by decide), hpretty]

end BatchFrontier.CommandLine
