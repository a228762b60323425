import BatchFrontier.CommandLine.Invocation
import BatchFrontier.Proofs.DecimalDigits

/-!
# Kinds of arguments

Under every key the arguments of a program give values of the kind that its grammar takes there, or
the empty list that two dashes alone leave. Every placement of an argument keeps this, together
with the fact that an operand is given or still missing. So an integer is found where an integer is
asked for, and every operand is there in the end.
-/

namespace BatchFrontier.CommandLine

/-- The values that are taken from arguments: of the kind that is asked for, or the empty list. An
integer that was read can be written. -/
def Take.Gives : Take → Value → Prop
  | .flag, v => v = .truth true
  | .help, _ => False
  | .text, v => (∃ t, v = .text t) ∨ v = .list []
  | .integer, v => (∃ n, v = .integer n ∧ (Value.integer n).isWritable = true) ∨ v = .list []

/-- An integer that was read from a text is one that is taken from arguments. -/
theorem Take.gives_of_readInteger {cs : List Char} {n : Int} (h : Text.readInteger cs = .ok n) :
    Take.integer.Gives (.integer n) :=
  .inl ⟨n, rfl, Value.isWritable_integer_iff.mpr (Text.natAbs_lt_of_readInteger h)⟩

/-- A text that counts as an integer counts as one that is taken from arguments. -/
theorem Take.gives_of_toInteger {t : Text} {n : Int} (h : (Value.text t).toInteger = .ok n) :
    Take.integer.Gives (.integer n) := by
  have hread : Value.toInteger.decimal (.text t) t.chars = .ok n := h
  unfold Value.toInteger.decimal at hread
  split at hread
  · next m hm =>
    obtain rfl := Except.ok.inj hread
    exact gives_of_readInteger hm
  · cases hread
  · cases hread

theorem Take.gives_one : Take.integer.Gives (.integer 1) := by
  have hone : (1 : Int).natAbs < 10 ^ 1 := by decide
  exact .inl ⟨1, rfl, Value.isWritable_of_natAbs_lt hone (by decide)⟩

/-- What is taken from arguments can be written. -/
theorem Take.Gives.isWritable {v : Value} (h : Take.integer.Gives v) : v.isWritable = true := by
  rcases h with ⟨n, rfl, hn⟩ | rfl
  · exact hn
  · rfl

/-- What an operand takes. -/
def Operand.take (o : Operand) : Take := if o.isInteger then .integer else .text

namespace Grammar

/-- The single operands of a grammar. -/
def singles (g : Grammar) : List Operand :=
  match g.operands with
  | .single os => os
  | .command .. => []

/-- The keys under which a grammar takes values, with the kinds that it takes there. -/
def keys (g : Grammar) : List (String × Take) :=
  g.options.map (fun o => (o.key, o.take)) ++ g.singles.map fun o => (o.key, o.take)

/-- That values have the kinds that a grammar takes, and that every operand which is not missing is
among them. -/
structure Fits (g : Grammar) (missing : List Operand) (values : List (String × Value)) : Prop where
  valid : ∀ v ∈ values, ∃ take, (v.1, take) ∈ g.keys ∧ take.Gives v.2
  known : ∀ o ∈ missing, o ∈ g.singles
  given : ∀ o ∈ g.singles, o ∈ missing ∨ ∃ v, (o.key, v) ∈ values

/-- That a mark names no option, or one of a grammar. -/
def Marks (g : Grammar) (m : Mark) : Prop :=
  ∀ o name joined, m = .option o name joined → o ∈ g.options

variable {g : Grammar}

/-! ## Values and options -/

/-- A grammar fits what was understood if a further value is of a kind that it takes. -/
theorem Fits.set {missing : List Operand} {values : List (String × Value)}
    (h : g.Fits missing values) {key : String} {take : Take} (hkey : (key, take) ∈ g.keys)
    {v : Value} (hv : take.Gives v) : g.Fits missing (values ++ [(key, v)]) where
  valid w hw := by
    rcases List.mem_append.mp hw with hw | hw
    · exact h.valid w hw
    · obtain rfl := List.mem_singleton.mp hw
      exact ⟨take, hkey, hv⟩
  known := h.known
  given o ho := (h.given o ho).imp_right fun ⟨w, hw⟩ => ⟨w, List.mem_append_left _ hw⟩

/-- The value of arguments is of the kind that is asked for. -/
theorem gives_of_valueOf {label : String} {isInteger : Bool} {args : List Text} {v : Value}
    (h : g.valueOf label isInteger args = .ok v) :
    (if isInteger then Take.integer else Take.text).Gives v := by
  unfold valueOf at h
  split at h
  · unfold convert at h
    cases isInteger with
    | true =>
      simp only [if_true] at h ⊢
      split at h
      · next n hn =>
        obtain rfl := Except.ok.inj h
        exact Take.gives_of_toInteger hn
      · cases h
    | false => exact .inl ⟨_, (Except.ok.inj h).symm⟩
  · obtain rfl := Except.ok.inj h
    cases isInteger <;> exact .inr rfl

theorem mem_keys_of_option {o : OptionSpec} (h : o ∈ g.options) : (o.key, o.take) ∈ g.keys :=
  List.mem_append_left _ (List.mem_map_of_mem h)

theorem mem_keys_of_operand {o : Operand} (h : o ∈ g.singles) : (o.key, o.take) ∈ g.keys :=
  List.mem_append_right _ (List.mem_map_of_mem h)

/-- Carrying out an option keeps the fit. -/
theorem fits_apply {p p' : Parsed} {o : OptionSpec} {arg : Text} (ho : o ∈ g.options)
    (hp : g.Fits p.missing p.values) (h : g.apply p o arg = .ok p') :
    g.Fits p'.missing p'.values := by
  have hkey := mem_keys_of_option ho
  unfold apply at h
  cases htake : o.take with
  | help =>
    rw [htake] at h
    cases h
  | flag =>
    rw [htake] at h hkey
    obtain rfl := Except.ok.inj h
    exact hp.set hkey rfl
  | text =>
    simp only [htake, bind_eq_ok_iff] at h
    obtain ⟨v, hv, h⟩ := h
    obtain rfl := Except.ok.inj h
    rw [htake] at hkey
    exact hp.set hkey (gives_of_valueOf hv)
  | integer =>
    simp only [htake, bind_eq_ok_iff] at h
    obtain ⟨v, hv, h⟩ := h
    obtain rfl := Except.ok.inj h
    rw [htake] at hkey
    exact hp.set hkey (gives_of_valueOf hv)

/-- Carrying out several options keeps the fit. -/
theorem fits_applyAll {before : List OptionSpec} (ho : ∀ o ∈ before, o ∈ g.options) {p p' : Parsed}
    (hp : g.Fits p.missing p.values)
    (h : before.foldlM (fun p o => g.apply p o "") p = .ok p') :
    g.Fits p'.missing p'.values := by
  induction before generalizing p with
  | nil =>
    obtain rfl := Except.ok.inj h
    exact hp
  | cons o before ih =>
    rw [List.foldlM_cons, bind_eq_ok_iff] at h
    obtain ⟨q, hq, h⟩ := h
    exact ih (fun o' ho' => ho o' (List.mem_cons_of_mem o ho'))
      (fits_apply (ho o List.mem_cons_self) hp hq) h

/-! ## Marks -/

theorem mem_options_of_mem_names {n : String × OptionSpec} (h : n ∈ g.names) :
    n.2 ∈ g.options := by
  obtain ⟨o, ho, hn⟩ := List.mem_flatMap.mp h
  obtain ⟨name, -, rfl⟩ := List.mem_map.mp hn
  exact ho

theorem mem_options_of_named? {name : Text} {n : String × OptionSpec}
    (h : g.named? name = some n) : n.2 ∈ g.options :=
  mem_options_of_mem_names (List.mem_of_find?_eq_some h)

theorem marks_option {o : OptionSpec} (h : o ∈ g.options) (name : String) (joined : Option Text) :
    g.Marks (.option o name joined) := by
  intro o' name' joined' heq
  cases heq
  exact h

theorem marks_of_mem_candidates {arg : Text} {m : Mark} (h : m ∈ g.candidates arg) :
    g.Marks m := by
  unfold candidates at h
  split at h
  · obtain ⟨n, hn, rfl⟩ := List.mem_map.mp h
    exact marks_option (mem_options_of_mem_names (List.mem_filter.mp hn).1) _ _
  · obtain ⟨n, hn, hm⟩ := List.mem_filterMap.mp h
    split at hm
    · obtain rfl := Option.some.inj hm
      exact marks_option (mem_options_of_mem_names hn) _ _
    · split at hm
      · obtain rfl := Option.some.inj hm
        exact marks_option (mem_options_of_mem_names hn) _ _
      · cases hm
  · cases h

theorem marks_operand : g.Marks .operand := by
  intro o name joined heq
  cases heq

/-- An argument is marked with an option of the grammar, if with any. -/
theorem marks_of_mark {arg : Text} {m : Mark} (h : g.mark arg = .ok m) : g.Marks m := by
  unfold mark at h
  split at h
  · obtain rfl := Except.ok.inj h
    exact marks_operand
  · obtain rfl := Except.ok.inj h
    exact marks_operand
  · split at h
    · next n hn =>
      obtain rfl := Except.ok.inj h
      exact marks_option (mem_options_of_named? hn) _ _
    · simp only at h
      split at h
      · next n v hn hv =>
        obtain rfl := Except.ok.inj h
        exact marks_option (mem_options_of_named? hn) _ _
      · split at h
        · next m' hm =>
          obtain rfl := Except.ok.inj h
          exact marks_of_mem_candidates (hm ▸ List.mem_cons_self)
        · split at h
          · obtain rfl := Except.ok.inj h
            exact marks_operand
          · obtain rfl := Except.ok.inj h
            intro o name joined heq
            cases heq
        · cases h
  · obtain rfl := Except.ok.inj h
    exact marks_operand

theorem marks_of_marks {args : List Text} {ms : List (Text × Mark)} (h : g.marks args = .ok ms) :
    ∀ m ∈ ms, g.Marks m.2 := by
  induction args generalizing ms with
  | nil =>
    obtain rfl := Except.ok.inj h
    exact fun m hm => absurd hm List.not_mem_nil
  | cons arg rest ih =>
    rw [marks] at h
    split at h
    · obtain rfl := Except.ok.inj h
      refine List.forall_mem_cons.mpr ⟨?_, fun m hm => ?_⟩
      · intro o name joined heq
        cases heq
      · obtain ⟨a, -, rfl⟩ := List.mem_map.mp hm
        exact marks_operand
    · simp only [bind_eq_ok_iff] at h
      obtain ⟨m, hm, ms', hms', h⟩ := h
      obtain rfl := Except.ok.inj h
      exact List.forall_mem_cons.mpr ⟨marks_of_mark hm, ih hms'⟩

/-- The options in a cluster of letters are options of the grammar. -/
theorem options_of_cluster {o : OptionSpec} (ho : o ∈ g.options) {codes : List Code}
    {before : List OptionSpec} {last : OptionSpec} {joined : Option Text}
    (h : g.cluster o codes = .ok (before, last, joined)) :
    (∀ o ∈ before, o ∈ g.options) ∧ last ∈ g.options := by
  induction codes generalizing o before with
  | nil =>
    cases h
    exact ⟨fun o hmem => absurd hmem List.not_mem_nil, ho⟩
  | cons c rest ih =>
    rw [cluster] at h
    split at h
    · cases h
      exact ⟨fun o hmem => absurd hmem List.not_mem_nil, ho⟩
    · split at h
      · cases h
      · next next' hnext =>
        simp only [bind_eq_ok_iff] at h
        obtain ⟨⟨before', last', joined'⟩, hcluster, h⟩ := h
        cases h
        obtain ⟨hbefore, hlast⟩ := ih (mem_options_of_named? hnext) hcluster
        exact ⟨List.forall_mem_cons.mpr ⟨ho, hbefore⟩, hlast⟩

/-- The options in an argument are options of the grammar. -/
theorem options_of_spread {o : OptionSpec} (ho : o ∈ g.options) {name : String}
    {joined joined' : Option Text} {before : List OptionSpec} {last : OptionSpec}
    (h : g.spread o name joined = .ok (before, last, joined')) :
    (∀ o ∈ before, o ∈ g.options) ∧ last ∈ g.options := by
  have halone {before : List OptionSpec} (hnil : before = []) :
      ∀ o ∈ before, o ∈ g.options := by
    rintro o hmem
    rw [hnil] at hmem
    exact absurd hmem List.not_mem_nil
  unfold spread at h
  split at h
  · cases h
    exact ⟨halone rfl, ho⟩
  · split at h
    · cases h
      exact ⟨halone rfl, ho⟩
    · split at h
      · cases h
      · exact options_of_cluster ho h

/-! ## Places -/

/-- Filling operands keeps the fit; the operands that are to be filled count as missing. -/
theorem fits_fillOperands {ms : List (Text × Mark)} {os : List Operand} {p p' : Parsed} {n : Nat}
    (hp : g.Fits os p.values) (h : g.fillOperands ms os p = .ok (p', n)) :
    g.Fits p'.missing p'.values := by
  induction os generalizing ms p n with
  | nil =>
    cases h
    exact hp
  | cons o os ih =>
    rw [fillOperands] at h
    split at h
    · cases h
      exact hp
    · simp only [bind_eq_ok_iff] at h
      obtain ⟨v, hv, ⟨q, m⟩, hfill, h⟩ := h
      cases h
      refine ih ?_ hfill
      have ho := hp.known o List.mem_cons_self
      have hset := hp.set (mem_keys_of_operand ho) (gives_of_valueOf hv)
      exact {
        valid := hset.valid
        known := fun o' ho' => hp.known o' (List.mem_cons_of_mem o ho')
        given := fun o' ho' => by
          rcases hset.given o' ho' with hmissing | hgiven
          · rcases List.mem_cons.mp hmissing with rfl | hmissing
            · exact .inr ⟨v, List.mem_append_right _ List.mem_cons_self⟩
            · exact .inl hmissing
          · exact .inr hgiven }

/-- Filling operands or a command keeps the fit. -/
theorem fits_fill {ms : List (Text × Mark)} {p p' : Parsed} {n : Nat}
    (hp : g.Fits p.missing p.values) (h : g.fill ms p = .ok (p', n)) :
    g.Fits p'.missing p'.values := by
  unfold fill at h
  split at h
  · exact fits_fillOperands hp h
  · unfold fillCommand at h
    split at h
    · split at h
      · cases h
        exact hp
      · cases h
    · cases h
      exact hp

/-- The arguments that an option leaves are among those that followed it. -/
theorem subset_of_argumentOf {o : OptionSpec} {joined : Option Text} {rest : List (Text × Mark)}
    {value : Text} {left : { left : List (Text × Mark) // left.length ≤ rest.length }}
    (h : g.argumentOf o joined rest = .ok (value, left)) : left.1 ⊆ rest := by
  unfold argumentOf at h
  split at h
  · cases h
    exact List.Subset.refl rest
  · split at h
    · split at h
      · cases h
        exact List.subset_cons_self _ _
      · cases h
    · cases h
      exact List.Subset.refl rest

/-- Giving the arguments their places keeps the fit. -/
theorem fits_place {ms : List (Text × Mark)} {p p' : Parsed} (hms : ∀ m ∈ ms, g.Marks m.2)
    (hp : g.Fits p.missing p.values) (h : g.place ms p = .ok p') :
    g.Fits p'.missing p'.values := by
  induction ms, p using place.induct with
  | case1 p =>
    rw [place, map_eq_ok_iff] at h
    obtain ⟨⟨q, n⟩, hfill, rfl⟩ := h
    exact fits_fill hp hfill
  | case2 p arg rest ih =>
    rw [place] at h
    exact ih (fun m hm => hms m (List.mem_cons_of_mem _ hm)) hp h
  | case3 p arg rest o name joined ih =>
    rw [place] at h
    simp only [bind_eq_ok_iff] at h
    obtain ⟨⟨before, last, joined'⟩, hspread, ⟨value, left⟩, hleft, q, hbefore, q', hlast, h⟩ := h
    have ho := hms _ List.mem_cons_self o name joined rfl
    obtain ⟨hoptions, hoption⟩ := options_of_spread ho hspread
    refine ih left q' (fun m hm => ?_) ?_ h
    · exact hms m (List.mem_cons_of_mem _ (subset_of_argumentOf hleft hm))
    · exact fits_apply hoption (fits_applyAll hoptions hp hbefore) hlast
  | case4 p arg m rest hunknown hoption ihrest ihdrop =>
    rw [place] at h
    · simp only [bind_eq_ok_iff] at h
      obtain ⟨⟨q, n⟩, hfill, h⟩ := h
      have hq := fits_fill hp hfill
      have hrest := fun m hm => hms m (List.mem_cons_of_mem _ hm)
      split at h
      · split at h
        · exact ihrest q hrest hq h
        · exact ihdrop q n (fun m hm => hrest m (List.mem_of_mem_drop hm)) hq h
      · cases h
        exact hq
    · exact hunknown
    · exact hoption

/-- What the arguments of a program give fits its grammar, and nothing is missing. -/
theorem fits_parse {args : List Text} {p : Parsed} (h : g.parse args = .ok p) :
    g.Fits [] p.values ∧ g.unmet p = [] := by
  unfold parse at h
  simp only [bind_eq_ok_iff] at h
  obtain ⟨ms, hms, q, hplace, h⟩ := h
  have hstart : g.Fits g.singles [] := {
    valid := fun v hv => absurd hv List.not_mem_nil
    known := fun o ho => ho
    given := fun o ho => .inl ho }
  have hq := fits_place (marks_of_marks hms) hstart hplace
  have hmissing : g.unmet q = [] → q.missing = [] := by
    intro hunmet
    unfold unmet at hunmet
    split at hunmet
    · simpa using (List.append_eq_nil_iff.mp hunmet).1
    · next key choices hoperands =>
      have hnone : g.singles = [] := by rw [singles, hoperands]
      refine List.eq_nil_iff_forall_not_mem.mpr fun o ho => ?_
      have hsingle := hq.known o ho
      rw [hnone] at hsingle
      exact absurd hsingle List.not_mem_nil
  split at h
  · next hunmet =>
    cases h
    rw [hmissing hunmet] at hq
    exact ⟨hq, hunmet⟩
  · cases h

variable {args : List Text} {p : Parsed}

/-- A value that was given under a key is of the kind that is taken there. -/
theorem gives_of_get? (h : g.parse args = .ok p) {key : String} {take : Take}
    (hkey : ∀ k ∈ g.keys, k.1 = key → k.2 = take) {v : Value} (hv : p.get? key = some v) :
    take.Gives v := by
  rw [Parsed.get?, Option.map_eq_some_iff] at hv
  obtain ⟨w, hfind, rfl⟩ := hv
  have hname : w.1 = key := by simpa using List.find?_some hfind
  obtain ⟨take', htake, hgives⟩ := (fits_parse h).1.valid w
    (List.mem_reverse.mp (List.mem_of_find?_eq_some hfind))
  rw [← hkey _ htake hname]
  exact hgives

/-- Every operand was given. -/
theorem exists_get?_of_operand (h : g.parse args = .ok p) {o : Operand} (ho : o ∈ g.singles) :
    ∃ v, p.get? o.key = some v := by
  rcases (fits_parse h).1.given o ho with hmissing | ⟨v, hv⟩
  · exact absurd hmissing List.not_mem_nil
  · have hfind : (p.values.reverse.find? fun v => v.1 == o.key).isSome = true :=
      List.find?_isSome.mpr ⟨(o.key, v), List.mem_reverse.mpr hv, beq_self_eq_true o.key⟩
    obtain ⟨w, hw⟩ := Option.isSome_iff_exists.mp hfind
    exact ⟨w.2, by rw [Parsed.get?, hw]; rfl⟩

/-- Every option that is required was given. -/
theorem exists_get?_of_option (h : g.parse args = .ok p) {o : OptionSpec} (ho : o ∈ g.options)
    (hrequired : o.isRequired = true) : ∃ v, p.get? o.key = some v := by
  have hunmet := (fits_parse h).2
  have hfilter : g.options.filter (fun o => o.isRequired && (p.get? o.key).isNone) = [] := by
    unfold unmet at hunmet
    split at hunmet
    · exact List.map_eq_nil_iff.mp (List.append_eq_nil_iff.mp hunmet).2
    · exact List.map_eq_nil_iff.mp (List.append_eq_nil_iff.mp hunmet).1
  have hgiven := List.filter_eq_nil_iff.mp hfilter o ho
  rw [hrequired, Bool.true_and, Bool.not_eq_true, Option.isNone_eq_false_iff] at hgiven
  exact Option.isSome_iff_exists.mp hgiven

/-- A required value is of the kind that is taken under its key. -/
theorem gives_required (h : g.parse args = .ok p) {key : String} {take : Take}
    (hgiven : ∃ v, p.get? key = some v) (hkey : ∀ k ∈ g.keys, k.1 = key → k.2 = take) :
    take.Gives (Invocation.required p key) := by
  obtain ⟨v, hv⟩ := hgiven
  rw [Invocation.required, hv]
  exact gives_of_get? h hkey hv

end Grammar

/-! ## Invocations -/

/-- That the arguments of a command have the kinds that it takes. -/
def Command.Fits : Command → Prop
  | .state batch => ∀ v ∈ batch, Take.integer.Gives v
  | .buildVerify inputs last new beneficiary => Take.text.Gives inputs ∧ Take.integer.Gives last ∧
    Take.integer.Gives new ∧ Take.text.Gives beneficiary
  | .recordSequence first last db =>
    Take.integer.Gives first ∧ Take.integer.Gives last ∧ ∀ v ∈ db, Take.text.Gives v

namespace Invocation

open Grammar

/-- A command that was read has arguments of the kinds that it takes. -/
theorem fits_readCommand {name : String} {args extras : List Text} {command : Command}
    (h : readCommand name args = .ok (command, extras)) : command.Fits := by
  unfold readCommand at h
  split at h
  · simp only [bind_eq_ok_iff] at h
    obtain ⟨p, hp, h⟩ := h
    cases h
    intro v hv
    exact gives_of_get? hp (by decide) hv
  · simp only [bind_eq_ok_iff] at h
    obtain ⟨p, hp, h⟩ := h
    cases h
    have hinputs := exists_get?_of_operand hp (o := ⟨"inputs", false⟩) (by decide)
    have hlast := exists_get?_of_option hp
      (o := ⟨["--last"], "last", .integer, true⟩) (by decide) rfl
    have hnew := exists_get?_of_option hp
      (o := ⟨["--new"], "new", .integer, true⟩) (by decide) rfl
    have hbeneficiary := exists_get?_of_option hp
      (o := ⟨["--beneficiary"], "beneficiary", .text, true⟩) (by decide) rfl
    exact ⟨gives_required hp hinputs (by decide), gives_required hp hlast (by decide),
      gives_required hp hnew (by decide), gives_required hp hbeneficiary (by decide)⟩
  · simp only [bind_eq_ok_iff] at h
    obtain ⟨p, hp, h⟩ := h
    cases h
    have hfirst := exists_get?_of_operand hp (o := ⟨"from_batch", true⟩) (by decide)
    have hlast := exists_get?_of_operand hp (o := ⟨"to_batch", true⟩) (by decide)
    exact ⟨gives_required hp hfirst (by decide), gives_required hp hlast (by decide),
      fun v hv => gives_of_get? hp (by decide) hv⟩

/-- An invocation of a program whose settings name a rollup by an integer fits: so does the id of
its rollup, and so does its command. -/
theorem fits_ofArguments {d : Defaults} {s : Settings} {args : List Text} {i : Invocation}
    (hrollup : Take.integer.Gives s.rollup) (h : ofArguments d s args = .ok i) :
    Take.integer.Gives i.settings.rollup ∧ i.command.Fits := by
  unfold ofArguments at h
  simp only [bind_eq_ok_iff] at h
  obtain ⟨p, hp, h⟩ := h
  split at h
  · cases h
  · simp only [bind_eq_ok_iff] at h
    obtain ⟨⟨command, extras⟩, hcommand, h⟩ := h
    split at h
    · cases h
      refine ⟨?_, fits_readCommand hcommand⟩
      cases hgiven : p.get? "rollup_id" with
      | none => simpa [settingsOf, hgiven] using hrollup
      | some v =>
        have hv : Take.integer.Gives v := gives_of_get? hp (by decide) hgiven
        simpa [settingsOf, hgiven] using hv
    · cases h

end Invocation

end BatchFrontier.CommandLine
