import BatchFrontier.Proofs.ArgumentKinds

/-!
# What arguments give to options

A flag is set by its name, and any other option takes what is joined to its name or else the operand
right after it. Operands give nothing to options, and a command takes all arguments from its name
on. The values that are found under the key of an option are those that the arguments give to it in
this way, whatever operands stand between them; the last one counts.
-/

namespace BatchFrontier.CommandLine

namespace Grammar

/-- What marked arguments give to the options of a grammar, in order, and which arguments are left
for a command. -/
inductive Gives (g : Grammar) :
    List (Text × Mark) → List (OptionSpec × Value) → List (Text × Mark) → Prop
  /-- No arguments give nothing. -/
  | done : Gives g [] [] []
  /-- A command takes all arguments from its name on. -/
  | command {key : String} {choices : List String} (hcommand : g.operands = .command key choices)
    {m : Text × Mark} (hm : isOption m = false) (rest : List (Text × Mark)) :
    Gives g (m :: rest) [] (m :: rest)
  /-- Neither a single operand nor two dashes alone give anything to an option. -/
  | single {operands : List Operand} (hsingle : g.operands = .single operands) {m : Text × Mark}
    (hm : isOption m = false) {rest left : List (Text × Mark)} {given : List (OptionSpec × Value)}
    (hrest : Gives g rest given left) : Gives g (m :: rest) given left
  /-- A flag is set. -/
  | flag {o : OptionSpec} (hflag : o.take = .flag) (arg : Text) (name : String)
    {rest left : List (Text × Mark)} {given : List (OptionSpec × Value)}
    (hrest : Gives g rest given left) :
    Gives g ((arg, .option o name none) :: rest) ((o, .truth true) :: given) left
  /-- An option that takes a value has it joined to its name. -/
  | joined {o : OptionSpec} (htakes : takesArgument o = true) (arg : Text) (name : String)
    {value : Text} {v : Value}
    (hvalue : g.valueOf o.label (o.take == .integer) [value] = .ok v)
    {rest left : List (Text × Mark)} {given : List (OptionSpec × Value)}
    (hrest : Gives g rest given left) :
    Gives g ((arg, .option o name (some value)) :: rest) ((o, v) :: given) left
  /-- Or it takes the operand right after it. -/
  | next {o : OptionSpec} (htakes : takesArgument o = true) (arg : Text) (name : String)
    {value : Text} {v : Value}
    (hvalue : g.valueOf o.label (o.take == .integer) [value] = .ok v)
    {rest left : List (Text × Mark)} {given : List (OptionSpec × Value)}
    (hrest : Gives g rest given left) :
    Gives g ((arg, .option o name none) :: (value, .operand) :: rest) ((o, v) :: given) left

/-- That an option known by a single letter only asks for help. -/
def IsPlain (g : Grammar) : Prop :=
  ∀ n ∈ g.names, (n.1 : Text).codes.length = 2 → n.2.take = .help

instance (g : Grammar) : Decidable g.IsPlain :=
  inferInstanceAs (Decidable (∀ n ∈ g.names, (n.1 : Text).codes.length = 2 → n.2.take = .help))

end Grammar

/-- The value that was given last to an option with a property. -/
def lastWhere (p : OptionSpec → Bool) (given : List (OptionSpec × Value)) : Option Value :=
  (given.reverse.find? fun v => p v.1).map (·.2)

theorem lastWhere_cons (p : OptionSpec → Bool) (o : OptionSpec) (v : Value)
    (given : List (OptionSpec × Value)) : lastWhere p ((o, v) :: given) =
      (lastWhere p given).or (if p o then some v else none) := by
  unfold lastWhere
  rw [List.reverse_cons, List.find?_append]
  cases given.reverse.find? fun v => p v.1 with
  | some w => rfl
  | none => cases hp : p o <;> simp [hp]

/-- Properties that agree on all options with a value tell the same value. -/
theorem lastWhere_congr {p q : OptionSpec → Bool} {given : List (OptionSpec × Value)}
    (h : ∀ v ∈ given, p v.1 = q v.1) : lastWhere p given = lastWhere q given := by
  induction given with
  | nil => rfl
  | cons v given ih =>
    obtain ⟨hv, hgiven⟩ := List.forall_mem_cons.mp h
    rw [lastWhere_cons, lastWhere_cons, ih hgiven, hv]

namespace Parsed

/-- A further value is found under its key. -/
theorem get?_set (p : Parsed) (key : String) (v : Value) (other : String) :
    (p.set key v).get? other = if key = other then some v else p.get? other := by
  unfold get? set
  rw [List.reverse_append, List.reverse_singleton, List.singleton_append, List.find?_cons]
  by_cases hkey : key = other
  · simp [hkey]
  · simp [hkey, beq_false_of_ne hkey]

/-- That values for options, and arguments that are left for a command, lead from what was
understood before to what is understood after, and that every argument had a place before. -/
structure Leads (given : List (OptionSpec × Value)) (left : List (Text × Mark)) (p q : Parsed) :
    Prop where
  placed : p.extras = []
  command : (left = [] ∧ q.command = p.command) ∨
    ∃ (name : String) (rest : List Text), left.map Prod.fst = (name : Text) :: rest ∧
      q.command = some (name, rest)
  value : ∀ key, (∀ o ∈ p.missing, o.key ≠ key) →
    q.get? key = (lastWhere (·.key == key) given).or (p.get? key)

/-- An option is given its value before all that follows. -/
theorem Leads.cons {given : List (OptionSpec × Value)} {left : List (Text × Mark)} {p q : Parsed}
    {o : OptionSpec} {v : Value} (h : Leads given left (p.set o.key v) q) :
    Leads ((o, v) :: given) left p q where
  placed := h.placed
  command := h.command
  value key hkey := by
    rw [h.value key hkey, lastWhere_cons, get?_set, Option.or_assoc]
    by_cases ho : o.key = key <;> simp [ho]

/-- That operands were filled: what was understood about options and commands is as it was. -/
structure Fills (os : List Operand) (p q : Parsed) : Prop where
  placed : q.extras = p.extras
  command : q.command = p.command
  missing : ∀ o ∈ q.missing, o ∈ os
  value : ∀ key, (∀ o ∈ os, o.key ≠ key) → q.get? key = p.get? key

/-- Nothing was filled, and some operands are still missing. -/
theorem Fills.of_missing (os : List Operand) (p : Parsed) : Fills os p { p with missing := os } :=
  ⟨rfl, rfl, fun _ ho => ho, fun _ _ => rfl⟩

/-- Operands give nothing to options. -/
theorem Leads.of_fills {given : List (OptionSpec × Value)} {left : List (Text × Mark)}
    {p p' q : Parsed} (hfill : Fills p.missing p p') (h : Leads given left p' q) :
    Leads given left p q where
  placed := hfill.placed.symm.trans h.placed
  command := hfill.command ▸ h.command
  value key hkey := by
    rw [h.value key fun o ho => hkey o (hfill.missing o ho), hfill.value key hkey]

end Parsed

namespace Grammar

variable {g : Grammar} {p q : Parsed} {o : OptionSpec} {arg : Text}
  {ms rest left : List (Text × Mark)} {given : List (OptionSpec × Value)}

/-! ## Options -/

/-- An option that is carried out is a flag that is set, or takes the value of its argument. -/
theorem apply_eq_ok_iff : g.apply p o arg = .ok q ↔
    (o.take = .flag ∧ q = p.set o.key (.truth true)) ∨
      takesArgument o = true ∧
        ∃ v, g.valueOf o.label (o.take == .integer) [arg] = .ok v ∧ q = p.set o.key v := by
  have hset (x : Except Halt Value) : (x >>= fun v => pure (p.set o.key v)) = .ok q ↔
      ∃ v, x = .ok v ∧ q = p.set o.key v := by
    rw [bind_eq_ok_iff]
    exact exists_congr fun v => and_congr_right fun _ =>
      ⟨fun h => (Except.ok.inj h).symm, fun h => congrArg Except.ok h.symm⟩
  unfold apply takesArgument
  cases htake : o.take with
  | help => simp
  | flag => simp [eq_comm]
  | text =>
    simp only [reduceCtorEq, false_and, false_or, true_and]
    exact hset (g.valueOf o.label false [arg])
  | integer =>
    simp only [reduceCtorEq, false_and, false_or, true_and]
    exact hset (g.valueOf o.label true [arg])

/-- An option that was carried out did not ask for help. -/
theorem take_ne_help_of_apply (h : g.apply p o arg = .ok q) : o.take ≠ .help := by
  intro hhelp
  rcases apply_eq_ok_iff.mp h with ⟨hflag, -⟩ | ⟨htakes, -⟩
  · cases hhelp.symm.trans hflag
  · rw [takesArgument, hhelp] at htakes
    cases htakes

theorem take_ne_help_of_applyAll {before : List OptionSpec}
    (h : before.foldlM (fun p o => g.apply p o "") p = .ok q) : ∀ o ∈ before, o.take ≠ .help := by
  induction before generalizing p with
  | nil => exact fun o ho => absurd ho List.not_mem_nil
  | cons o before ih =>
    rw [List.foldlM_cons, bind_eq_ok_iff] at h
    obtain ⟨p', hp', h⟩ := h
    exact List.forall_mem_cons.mpr ⟨take_ne_help_of_apply hp', ih h⟩

/-- The first letter of a cluster is one of its options. -/
theorem mem_of_cluster {codes : List Code} {before : List OptionSpec} {last : OptionSpec}
    {joined : Option Text} (h : g.cluster o codes = .ok (before, last, joined)) :
    o ∈ before ∨ o = last := by
  cases codes with
  | nil =>
    cases h
    exact .inr rfl
  | cons c rest =>
    rw [cluster] at h
    split at h
    · cases h
      exact .inr rfl
    · split at h
      · cases h
      · simp only [bind_eq_ok_iff] at h
        obtain ⟨⟨before', last', joined'⟩, -, h⟩ := h
        cases h
        exact .inl List.mem_cons_self

/-- In a plain grammar letters behind an option that takes nothing ask for help. -/
theorem exists_help_of_cluster (hplain : g.IsPlain) (htakes : takesArgument o = false) {c : Code}
    {codes : List Code} {before : List OptionSpec} {last : OptionSpec} {joined : Option Text}
    (h : g.cluster o (c :: codes) = .ok (before, last, joined)) :
    ∃ o', (o' ∈ before ∨ o' = last) ∧ o'.take = .help := by
  rw [cluster, if_neg (by simp [htakes])] at h
  split at h
  · cases h
  · next n hnamed =>
    simp only [bind_eq_ok_iff] at h
    obtain ⟨⟨before', last', joined'⟩, hcluster, h⟩ := h
    cases h
    have hname : (n.1 : Text) = ⟨[.char '-', c]⟩ := by simpa using List.find?_some hnamed
    have hhelp := hplain n (List.mem_of_find?_eq_some hnamed) (by rw [hname]; rfl)
    exact ⟨n.2, (mem_of_cluster hcluster).imp_left (List.mem_cons_of_mem o), hhelp⟩

/-- In a plain grammar an argument whose options were all carried out holds just one, and nothing is
joined to that if it takes nothing. -/
theorem spread_of_applied (hplain : g.IsPlain) {name : String} {joined joined' : Option Text}
    {before : List OptionSpec} {last : OptionSpec}
    (h : g.spread o name joined = .ok (before, last, joined'))
    (hbefore : ∀ o ∈ before, o.take ≠ .help) (hlast : last.take ≠ .help) :
    before = [] ∧ last = o ∧ joined' = joined ∧
      ∀ t, joined = some t → takesArgument o = true := by
  unfold spread at h
  split at h
  · cases h
    exact ⟨rfl, rfl, rfl, fun t ht => by cases ht⟩
  · next t =>
    split at h
    · next htakes =>
      cases h
      exact ⟨rfl, rfl, rfl, fun _ _ => htakes⟩
    · next htakes =>
      split at h
      · cases h
      · next hnonempty =>
        obtain ⟨codes⟩ := t
        cases codes with
        | nil => exact absurd rfl hnonempty
        | cons c codes =>
          -- What is joined is a cluster of letters, and the only letter there is asks for help.
          obtain ⟨o', hmem, hhelp⟩ := exists_help_of_cluster hplain (by simpa using htakes) h
          rcases hmem with hmem | rfl
          · exact absurd hhelp (hbefore o' hmem)
          · exact absurd hhelp hlast

/-- An option that finds its place is given a value, before all that the other arguments give. -/
theorem gives_option (arg : Text) (hplain : g.IsPlain) {name : String}
    {joined joined' : Option Text} {before : List OptionSpec} {last : OptionSpec} {value : Text} {p' : Parsed}
    {after : { after : List (Text × Mark) // after.length ≤ rest.length }}
    (hspread : g.spread o name joined = .ok (before, last, joined'))
    (hargument : g.argumentOf last joined' rest = .ok (value, after))
    (hbefore : before.foldlM (fun p o => g.apply p o "") p = .ok p')
    (hlast : g.apply p' last value = .ok q) :
    ∃ v, q = p.set o.key v ∧ ∀ {given left}, g.Gives after.1 given left →
      g.Gives ((arg, .option o name joined) :: rest) ((o, v) :: given) left := by
  obtain ⟨rfl, rfl, rfl, htakes⟩ := spread_of_applied hplain hspread
    (take_ne_help_of_applyAll hbefore) (take_ne_help_of_apply hlast)
  cases hbefore
  unfold argumentOf at hargument
  rcases apply_eq_ok_iff.mp hlast with ⟨hflag, rfl⟩ | ⟨htaken, v, hv, rfl⟩
  · have hnothing : takesArgument last = false := by rw [takesArgument, hflag]
    cases joined' with
    | some t => exact absurd (htakes t rfl) (by simp [hnothing])
    | none =>
      simp only [hnothing] at hargument
      cases hargument
      exact ⟨_, rfl, .flag hflag arg name⟩
  · cases joined' with
    | some t =>
      cases hargument
      exact ⟨v, rfl, .joined htaken arg name hv⟩
    | none =>
      simp only [htaken, if_true] at hargument
      split at hargument
      · cases hargument
        exact ⟨v, rfl, .next htaken arg name hv⟩
      · cases hargument

/-! ## Operands -/

/-- Whether an argument is two dashes alone. -/
def isSeparator (m : Text × Mark) : Bool := m.2 == .separator

theorem isOption_of_mem_separators {m : Text × Mark} (h : m ∈ ms.takeWhile isSeparator) :
    isOption m = false := by
  have hmark : isSeparator m = true := List.all_eq_true.mp List.all_takeWhile m h
  rw [isOption, eq_of_beq hmark]

theorem operandSpan_eq (ms : List (Text × Mark)) : operandSpan ms =
    match ms.drop (ms.takeWhile isSeparator).length with
    | (_, .operand) :: rest =>
      some ((ms.takeWhile isSeparator).length + 1 + (rest.takeWhile isSeparator).length)
    | _ => none := rfl

/-- The arguments that belong to an operand are no options. -/
theorem isOption_of_operandSpan {n : Nat} (h : operandSpan ms = some n) :
    ∀ m ∈ ms.take n, isOption m = false := by
  rw [operandSpan_eq] at h
  split at h
  · next value rest hdrop =>
    obtain rfl := Option.some.inj h
    have hms : ms = (ms.takeWhile isSeparator ++ (value, .operand) :: rest.takeWhile isSeparator) ++
        rest.dropWhile isSeparator := by
      rw [List.append_assoc, List.cons_append, List.takeWhile_append_dropWhile, ← hdrop]
      exact (List.prefix_iff_eq_append.mp (List.takeWhile_prefix isSeparator)).symm
    have htake : ms.take ((ms.takeWhile isSeparator).length + 1 +
        (rest.takeWhile isSeparator).length) =
        ms.takeWhile isSeparator ++ (value, .operand) :: rest.takeWhile isSeparator := by
      refine (congrArg (List.take _) hms).trans (List.take_left' ?_)
      rw [List.length_append, List.length_cons, Nat.add_assoc, Nat.add_comm 1]
    intro m hm
    rw [htake] at hm
    rcases List.mem_append.mp hm with hm | hm
    · exact isOption_of_mem_separators hm
    · rcases List.mem_cons.mp hm with rfl | hm
      · rfl
      · exact isOption_of_mem_separators hm
  · cases h

/-- Arguments that are no options give nothing in front of others, where operands are single. -/
theorem Gives.append {operands : List Operand} (hsingle : g.operands = .single operands)
    {front : List (Text × Mark)} (hfront : ∀ m ∈ front, isOption m = false)
    (h : g.Gives rest given left) : g.Gives (front ++ rest) given left := by
  induction front with
  | nil => exact h
  | cons m front ih =>
    obtain ⟨hm, hfront⟩ := List.forall_mem_cons.mp hfront
    exact .single hsingle hm (ih hfront)

/-- Operands that are filled take arguments which are no options. -/
theorem fills_fillOperands {os : List Operand} {n : Nat}
    (h : g.fillOperands ms os p = .ok (q, n)) :
    Parsed.Fills os p q ∧ ∀ m ∈ ms.take n, isOption m = false := by
  induction os generalizing ms p n with
  | nil =>
    cases h
    exact ⟨.of_missing [] p, fun m hm => absurd hm (by simp)⟩
  | cons o os ih =>
    rw [fillOperands] at h
    split at h
    · cases h
      exact ⟨.of_missing (o :: os) p, fun m hm => absurd hm (by simp)⟩
    · next k hspan =>
      simp only [bind_eq_ok_iff] at h
      obtain ⟨v, hv, ⟨q', l⟩, hfill, h⟩ := h
      cases h
      obtain ⟨hfills, htaken⟩ := ih hfill
      refine ⟨⟨hfills.placed, hfills.command, ?_, ?_⟩, ?_⟩
      · exact fun o' ho' => List.mem_cons_of_mem o (hfills.missing o' ho')
      · intro key hkey
        obtain ⟨ho, hos⟩ := List.forall_mem_cons.mp hkey
        rw [hfills.value key hos, Parsed.get?_set, if_neg ho]
      · intro m hm
        rw [List.take_add] at hm
        rcases List.mem_append.mp hm with hm | hm
        · exact isOption_of_operandSpan hspan m hm
        · exact htaken m hm

/-- Where no arguments are left, nothing more is understood. -/
theorem leads_nil (h : g.place [] p = .ok q) (hplaced : q.extras = []) :
    Parsed.Leads [] [] p q := by
  have hrefl : Parsed.Leads [] [] q q := ⟨hplaced, .inl ⟨rfl, rfl⟩, fun _ _ => rfl⟩
  rw [place, map_eq_ok_iff] at h
  obtain ⟨⟨p', n⟩, hfill, rfl⟩ := h
  unfold fill at hfill
  split at hfill
  · exact hrefl.of_fills (fills_fillOperands hfill).1
  · unfold fillCommand at hfill
    split at hfill
    · next hnames => simp at hnames
    · cases hfill
      exact hrefl

/-- A command is found at the front, and takes all arguments, or it is not. -/
theorem eq_of_fillCommand {key : String} {choices : List String} {m : Text × Mark} {n : Nat}
    (h : g.fillCommand key choices (m :: rest) p = .ok (q, n)) : (q = p ∧ n = 0) ∨
      ∃ name : String, m.1 = (name : Text) ∧ n = (m :: rest).length ∧
        q = { p with command := some (name, rest.map Prod.fst) } := by
  unfold fillCommand at h
  split at h
  · next name names hcommand hspan hnames =>
    obtain ⟨rfl, rfl⟩ := List.cons.inj hnames
    split at h
    · next name hname =>
      cases h
      have heq : (name : Text) = m.1 := by simpa using List.find?_some hname
      exact .inr ⟨name, heq.symm, rfl, rfl⟩
    · cases h
  · cases h
    exact .inl ⟨rfl, rfl⟩

/-! ## Places -/

/-- Where operands or a command take arguments from the front, and the others find their places,
all find theirs. -/
theorem gives_of_fill {m : Text × Mark} {n : Nat} {p' : Parsed} (hm : isOption m = false)
    (hfill : g.fill (m :: rest) p = .ok (p', n)) (hn : n ≠ 0)
    (hgives : g.Gives ((m :: rest).drop n) given left) (hleads : Parsed.Leads given left p' q) :
    ∃ given left, g.Gives (m :: rest) given left ∧ Parsed.Leads given left p q := by
  unfold fill at hfill
  split at hfill
  · next operands hsingle =>
    obtain ⟨hfills, htaken⟩ := fills_fillOperands hfill
    have happend := hgives.append hsingle htaken
    rw [List.take_append_drop] at happend
    exact ⟨given, left, happend, hleads.of_fills hfills⟩
  · next key choices hcommand =>
    rcases eq_of_fillCommand hfill with ⟨-, hnone⟩ | ⟨name, hname, hall, rfl⟩
    · exact absurd hnone hn
    · rw [hall, List.drop_length] at hgives
      cases hgives
      refine ⟨[], m :: rest, .command hcommand hm rest, hleads.placed, .inr ?_, hleads.value⟩
      refine ⟨name, rest.map Prod.fst, by rw [List.map_cons, hname], ?_⟩
      rcases hleads.command with ⟨-, hcommand⟩ | ⟨_, _, hnil, -⟩
      · exact hcommand
      · cases hnil

/-- Arguments that all find a place give to options what is found under their keys, and leave a
command with all after it. -/
theorem gives_of_place (hplain : g.IsPlain) (h : g.place ms p = .ok q) (hplaced : q.extras = []) :
    ∃ given left, g.Gives ms given left ∧ Parsed.Leads given left p q := by
  induction ms, p using place.induct with
  | case1 p => exact ⟨[], [], .done, leads_nil h hplaced⟩
  | case2 p arg rest ih =>
    -- An option that the program does not have would be left over.
    rw [place] at h
    obtain ⟨given, left, -, hleads⟩ := ih h
    exact absurd hleads.placed (by simp)
  | case3 p arg rest o name joined ih =>
    rw [place] at h
    simp only [bind_eq_ok_iff] at h
    obtain ⟨⟨before, last, joined'⟩, hspread, ⟨value, after⟩, hargument, h⟩ := h
    obtain ⟨p', hbefore, p'', hlast, h⟩ := h
    obtain ⟨v, rfl, hgives⟩ := gives_option arg hplain hspread hargument hbefore hlast
    obtain ⟨given, left, hafter, hleads⟩ := ih after _ h
    exact ⟨(o, v) :: given, left, hgives hafter, hleads.cons⟩
  | case4 p arg m rest hunknown hoption ihrest ihdrop =>
    rw [place] at h
    · simp only [bind_eq_ok_iff] at h
      obtain ⟨⟨p', n⟩, hfill, h⟩ := h
      have hm : isOption (arg, m) = false := by
        unfold isOption
        split
        · next o name joined heq => exact absurd heq (hoption o name joined)
        · next heq => exact absurd heq hunknown
        · rfl
      split at h
      · split at h
        · obtain ⟨given, left, -, hleads⟩ := ihrest p' h
          exact absurd hleads.placed (by simp)
        · next hn =>
          obtain ⟨given, left, hgives, hleads⟩ := ihdrop p' n h
          obtain ⟨k, rfl⟩ := Nat.exists_eq_succ_of_ne_zero hn
          exact gives_of_fill hm hfill hn hgives hleads
      · -- No option follows, so what was not taken would be left over.
        obtain rfl := Except.ok.inj h
        obtain ⟨hextras, hdrop⟩ := List.append_eq_nil_iff.mp hplaced
        have htaken := List.map_eq_nil_iff.mp hdrop
        have hn : n ≠ 0 := by
          rintro rfl
          cases htaken
        have hgives : g.Gives (((arg, m) :: rest).drop n) [] [] := by
          rw [htaken]
          exact .done
        exact gives_of_fill hm hfill hn hgives ⟨hextras, .inl ⟨rfl, rfl⟩, fun _ _ => rfl⟩
    · exact hunknown
    · exact hoption

/-! ## Arguments -/

/-- Values go to options that are marked. -/
theorem Gives.mem_options (hms : ∀ m ∈ ms, g.Marks m.2) (h : g.Gives ms given left) :
    ∀ v ∈ given, v.1 ∈ g.options := by
  induction h with
  | done => exact fun v hv => absurd hv List.not_mem_nil
  | command hcommand hm rest => exact fun v hv => absurd hv List.not_mem_nil
  | single hsingle hm hrest ih => exact ih (List.forall_mem_cons.mp hms).2
  | flag hflag arg name hrest ih =>
    obtain ⟨ho, hrest⟩ := List.forall_mem_cons.mp hms
    exact List.forall_mem_cons.mpr ⟨ho _ _ _ rfl, ih hrest⟩
  | joined htakes arg name hvalue hrest ih =>
    obtain ⟨ho, hrest⟩ := List.forall_mem_cons.mp hms
    exact List.forall_mem_cons.mpr ⟨ho _ _ _ rfl, ih hrest⟩
  | next htakes arg name hvalue hrest ih =>
    obtain ⟨ho, hrest⟩ := List.forall_mem_cons.mp hms
    exact List.forall_mem_cons.mpr ⟨ho _ _ _ rfl, ih (List.forall_mem_cons.mp hrest).2⟩

/-- Marked arguments give the same values whenever they do. -/
theorem Gives.unique {given' : List (OptionSpec × Value)} {left' : List (Text × Mark)}
    (h : g.Gives ms given left) (h' : g.Gives ms given' left') :
    given' = given ∧ left' = left := by
  have hnot {o : OptionSpec} (hflag : o.take = .flag) : takesArgument o ≠ true := by
    rw [takesArgument, hflag]
    exact Bool.false_ne_true
  induction h generalizing given' left' with
  | done =>
    cases h'
    exact ⟨rfl, rfl⟩
  | command hcommand hm rest =>
    cases h' with
    | command => exact ⟨rfl, rfl⟩
    | single hsingle => cases hcommand.symm.trans hsingle
    | flag | joined | next => cases hm
  | single hsingle hm hrest ih =>
    cases h' with
    | command hcommand => cases hcommand.symm.trans hsingle
    | single _ _ hrest' => exact ih hrest'
    | flag | joined | next => cases hm
  | flag hflag arg name hrest ih =>
    cases h' with
    | command _ hm => cases hm
    | single _ hm => cases hm
    | flag _ _ _ hrest' =>
      obtain ⟨rfl, rfl⟩ := ih hrest'
      exact ⟨rfl, rfl⟩
    | next htakes => exact absurd htakes (hnot hflag)
  | joined htakes arg name hvalue hrest ih =>
    cases h' with
    | command _ hm => cases hm
    | single _ hm => cases hm
    | joined _ _ _ hvalue' hrest' =>
      obtain ⟨rfl, rfl⟩ := ih hrest'
      cases hvalue.symm.trans hvalue'
      exact ⟨rfl, rfl⟩
  | next htakes arg name hvalue hrest ih =>
    cases h' with
    | command _ hm => cases hm
    | single _ hm => cases hm
    | flag hflag => exact absurd htakes (hnot hflag)
    | next _ _ _ hvalue' hrest' =>
      obtain ⟨rfl, rfl⟩ := ih hrest'
      cases hvalue.symm.trans hvalue'
      exact ⟨rfl, rfl⟩

/-- That arguments give some values to the options of a grammar and leave some arguments for a
command. -/
def ArgumentsGive (g : Grammar) (args : List Text) (given : List (OptionSpec × Value))
    (forCommand : List Text) : Prop :=
  ∃ ms left, g.marks args = .ok ms ∧ g.Gives ms given left ∧ left.map Prod.fst = forCommand

/-- What arguments give is determined. -/
theorem ArgumentsGive.unique {args forCommand forCommand' : List Text}
    {given' : List (OptionSpec × Value)} (h : g.ArgumentsGive args given forCommand)
    (h' : g.ArgumentsGive args given' forCommand') : given' = given ∧ forCommand' = forCommand := by
  obtain ⟨ms, left, hms, hgives, rfl⟩ := h
  obtain ⟨ms', left', hms', hgives', rfl⟩ := h'
  cases hms.symm.trans hms'
  obtain ⟨rfl, rfl⟩ := hgives.unique hgives'
  exact ⟨rfl, rfl⟩

/-- Where operands are single, no arguments are left for a command. -/
theorem ArgumentsGive.eq_nil {operands : List Operand} (hsingle : g.operands = .single operands)
    {args forCommand : List Text} (h : g.ArgumentsGive args given forCommand) :
    forCommand = [] := by
  obtain ⟨ms, left, -, hgives, rfl⟩ := h
  rw [List.map_eq_nil_iff]
  induction hgives with
  | done => rfl
  | command hcommand => cases hsingle.symm.trans hcommand
  | single _ _ _ ih => exact ih
  | flag _ _ _ _ ih => exact ih
  | joined _ _ _ _ _ ih => exact ih
  | next _ _ _ _ _ ih => exact ih

/-- The value that an option of a name was given last. -/
def lastGiven (name : String) (given : List (OptionSpec × Value)) : Option Value :=
  lastWhere (·.names.contains name) given

/-- Under the key of an option arguments without left-overs give what was given to it last. -/
theorem exists_argumentsGive (hplain : g.IsPlain) {args : List Text} (h : g.parse args = .ok p)
    (hplaced : p.extras = []) :
    ∃ given, g.ArgumentsGive args given (p.command.elim [] fun c => (c.1 : Text) :: c.2) ∧
      ∀ name key, (∀ o ∈ g.singles, o.key ≠ key) →
        (∀ o ∈ g.options, (o.key == key) = o.names.contains name) →
        p.get? key = lastGiven name given := by
  unfold parse at h
  simp only [bind_eq_ok_iff] at h
  obtain ⟨ms, hms, q, hplace, h⟩ := h
  obtain rfl : q = p := by
    split at h
    · exact Except.ok.inj h
    · cases h
  obtain ⟨given, left, hgives, hleads⟩ := gives_of_place hplain hplace hplaced
  refine ⟨given, ⟨ms, left, hms, hgives, ?_⟩, fun name key hsingles hname => ?_⟩
  · rcases hleads.command with ⟨rfl, hcommand⟩ | ⟨name, rest, hleft, hcommand⟩
    · rw [hcommand]
      rfl
    · rw [hleft, hcommand]
      rfl
  · have hlast : lastWhere (·.key == key) given = lastGiven name given :=
      lastWhere_congr fun v hv => hname v.1 (hgives.mem_options (marks_of_marks hms) v hv)
    rw [hleads.value key hsingles, hlast]
    exact Option.or_none

end Grammar

end BatchFrontier.CommandLine
