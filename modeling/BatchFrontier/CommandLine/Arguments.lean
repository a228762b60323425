import BatchFrontier.Conversion

/-!
# Arguments

The arguments of a program are options and operands. An option may be given by any beginning of its
name that no other option shares, with its value after an equals sign or as the next argument. After
two dashes alone all arguments are operands; a negative number is an operand as well, and so is an
argument with a space in it. Arguments that find no place are left over.
-/

namespace BatchFrontier.CommandLine

/-- What an option takes. -/
inductive Take where
  /-- Nothing; the option is set. -/
  | flag
  /-- Nothing; the program explains itself and ends. -/
  | help
  | text
  | integer
  deriving DecidableEq, Repr

/-- An option. -/
structure OptionSpec where
  names : List String
  /-- The name of its value. -/
  key : String
  take : Take
  isRequired : Bool
  deriving DecidableEq, Repr

/-- The names of an option as they are reported. -/
def OptionSpec.label (o : OptionSpec) : String := String.intercalate "/" o.names

/-- An operand. -/
structure Operand where
  key : String
  isInteger : Bool
  deriving DecidableEq, Repr

/-- The operands of a program: a number of single ones, or a command with everything after it. -/
inductive Operands where
  | single (operands : List Operand)
  | command (key : String) (choices : List String)
  deriving DecidableEq, Repr

/-- What a program takes. -/
structure Grammar where
  program : String
  options : List OptionSpec
  operands : Operands
  deriving DecidableEq, Repr

/-- Why the arguments are not accepted, or that help is asked for. -/
inductive Halt where
  | usage (program : String) (message : Text)
  | help
  deriving DecidableEq, Repr

/-- How an argument is understood before its place is known. -/
inductive Mark where
  | operand
  /-- Two dashes alone. -/
  | separator
  /-- An option by one of its names, with what is joined to it. -/
  | option (spec : OptionSpec) (name : String) (joined : Option Text)
  /-- An option that the program does not have. -/
  | unknown
  deriving DecidableEq, Repr

/-- What has been understood so far. -/
structure Parsed where
  values : List (String × Value)
  /-- The command with everything after it. -/
  command : Option (String × List Text)
  /-- The operands still missing. -/
  missing : List Operand
  /-- The arguments without a place. -/
  extras : List Text
  deriving Repr

namespace Parsed

/-- The value under a name; the one given last counts. -/
def get? (p : Parsed) (key : String) : Option Value :=
  (p.values.reverse.find? fun v => v.1 == key).map (·.2)

/-- A further value. -/
def set (p : Parsed) (key : String) (v : Value) : Parsed :=
  { p with values := p.values ++ [(key, v)] }

end Parsed

namespace Grammar

/-- The names of all options. -/
def names (g : Grammar) : List (String × OptionSpec) :=
  g.options.flatMap fun o => o.names.map fun n => (n, o)

/-- The option of a name. -/
def named? (g : Grammar) (name : Text) : Option (String × OptionSpec) :=
  g.names.find? fun n => n.1 == name

/-- A usage error. -/
def refuse {α : Type} (g : Grammar) (message : Text) : Except Halt α :=
  .error (.usage g.program message)

/-- A usage error about an argument. -/
def refuseArgument {α : Type} (g : Grammar) (label : String) (message : Text) : Except Halt α :=
  g.refuse ("argument " ++ label ++ ": " ++ message)

/-- A text cut at its first equals sign. -/
def cut (t : Text) : Text × Option Text :=
  let before := t.codes.takeWhile (· != .char '=')
  match t.codes.drop before.length with
  | [] => (t, none)
  | _ :: after => (⟨before⟩, some ⟨after⟩)

/-- The options that an argument may stand for: those whose names it begins, or an option of one
letter with something joined to it. -/
def candidates (g : Grammar) (arg : Text) : List Mark :=
  match arg.codes with
  | .char '-' :: .char '-' :: _ =>
    let (start, value) := cut arg
    (g.names.filter fun n => Text.beginsWith n.1 start).map fun n => .option n.2 n.1 value
  | dash :: letter :: rest =>
    g.names.filterMap fun n =>
      if (n.1 : Text) = ⟨[dash, letter]⟩ then some (.option n.2 n.1 (some ⟨rest⟩))
      else if Text.beginsWith n.1 arg then some (.option n.2 n.1 none)
      else none
  | _ => []

/-- The name under which a mark is reported. -/
def nameOf : Mark → String
  | .option _ name _ => name
  | _ => ""

/-- Whether an argument is a negative number: digits with or without a point among them. A newline
at the end does not count. -/
def isNegativeNumber (arg : Text) : Bool :=
  let cs := arg.chars
  let cs := if cs.getLast? = some '\n' then cs.dropLast else cs
  match cs with
  | '-' :: body =>
    let whole := body.takeWhile Text.isDigit
    match body.drop whole.length with
    | [] => !whole.isEmpty
    | '.' :: fraction => !fraction.isEmpty && fraction.all Text.isDigit
    | _ => false
  | _ => false

/-- How an argument other than two dashes alone is understood. -/
def mark (g : Grammar) (arg : Text) : Except Halt Mark :=
  match arg.codes with
  | [] | [.char '-'] => .ok .operand
  | .char '-' :: _ =>
    match g.named? arg with
    | some n => .ok (.option n.2 n.1 none)
    | none =>
      let (start, value) := cut arg
      match g.named? start, value with
      | some n, some v => .ok (.option n.2 n.1 (some v))
      | _, _ =>
        match g.candidates arg with
        | [m] => .ok m
        | [] =>
          if isNegativeNumber arg || arg.chars.contains ' ' then .ok .operand else .ok .unknown
        | ms =>
          g.refuse ("ambiguous option: " ++ arg ++ " could match " ++
            String.intercalate ", " (ms.map nameOf))
  | _ => .ok .operand

/-- The argument after which all others are operands. -/
def separator : Text := "--"

/-- The marks of all arguments. -/
def marks (g : Grammar) : List Text → Except Halt (List (Text × Mark))
  | [] => .ok []
  | arg :: rest =>
    if arg = separator then .ok ((arg, .separator) :: rest.map fun a => (a, .operand))
    else do
      let m ← g.mark arg
      let ms ← g.marks rest
      pure ((arg, m) :: ms)

/-- The value of an argument. -/
def convert (g : Grammar) (label : String) (isInteger : Bool) (arg : Text) :
    Except Halt Value :=
  if isInteger then
    match (Value.text arg).toInteger with
    | .ok n => .ok (.integer n)
    | .error _ => g.refuseArgument label ("invalid int value: " ++ arg.quote)
  else .ok (.text arg)

/-- The value of the arguments that belong to an option or an operand that takes one. Two dashes
alone are dropped once; where nothing else is there, the value is an empty list. -/
def valueOf (g : Grammar) (label : String) (isInteger : Bool) (args : List Text) :
    Except Halt Value :=
  match args.erase separator with
  | [arg] => g.convert label isInteger arg
  | _ => .ok (.list [])

/-- Carries out an option with its argument, if it takes one. -/
def apply (g : Grammar) (p : Parsed) (o : OptionSpec) (arg : Text) : Except Halt Parsed :=
  match o.take with
  | .help => .error .help
  | .flag => .ok (p.set o.key (.truth true))
  | .text => do
    let v ← g.valueOf o.label false [arg]
    pure (p.set o.key v)
  | .integer => do
    let v ← g.valueOf o.label true [arg]
    pure (p.set o.key v)

/-- Whether an option takes an argument. -/
def takesArgument (o : OptionSpec) : Bool :=
  match o.take with
  | .flag | .help => false
  | .text | .integer => true

/-- A refusal of what is joined to an option that takes no argument. -/
def refuseJoined {α : Type} (g : Grammar) (o : OptionSpec) (joined : Text) : Except Halt α :=
  g.refuseArgument o.label ("ignored explicit argument " ++ joined.quote)

/-- An option of one letter and the letters joined to it. Letters are options themselves as long as
no option takes an argument; the rest is the argument of the one that does. This gives the options
before the last, the last and its argument if that is joined. -/
def cluster (g : Grammar) (o : OptionSpec) :
    List Code → Except Halt (List OptionSpec × OptionSpec × Option Text)
  | [] => .ok ([], o, none)
  | c :: rest =>
    if takesArgument o then .ok ([], o, some ⟨c :: rest⟩)
    else
      match g.named? ⟨[.char '-', c]⟩ with
      | none => g.refuseJoined o ⟨c :: rest⟩
      | some next => do
        let (before, last) ← g.cluster next.2 rest
        pure (o :: before, last)

/-- The options in an argument that has something joined to the option it names: the options before
the last, the last and its argument if that is joined. -/
def spread (g : Grammar) (o : OptionSpec) (name : String) :
    Option Text → Except Halt (List OptionSpec × OptionSpec × Option Text)
  | none => .ok ([], o, none)
  | some joined =>
    if takesArgument o then .ok ([], o, some joined)
    else if joined.isEmpty || Text.beginsWith name "--" then g.refuseJoined o joined
    else g.cluster o joined.codes

/-- The argument of an option, from what is joined to it or from the arguments after it, and the
arguments that are left. -/
def argumentOf (g : Grammar) (o : OptionSpec) (joined : Option Text)
    (rest : List (Text × Mark)) :
    Except Halt (Text × { left : List (Text × Mark) // left.length ≤ rest.length }) :=
  match joined with
  | some text => .ok (text, ⟨rest, Nat.le_refl _⟩)
  | none =>
    if takesArgument o then
      match rest with
      | (value, .operand) :: left => .ok (value, ⟨left, Nat.le_succ _⟩)
      | _ => g.refuseArgument o.label "expected one argument"
    else .ok ("", ⟨rest, Nat.le_refl _⟩)

/-- How many arguments from the front belong to one operand: separators, the operand itself and
separators after it. -/
def operandSpan (ms : List (Text × Mark)) : Option Nat :=
  let isSeparator (m : Text × Mark) : Bool := m.2 == .separator
  let before := (ms.takeWhile isSeparator).length
  match ms.drop before with
  | (_, .operand) :: rest => some (before + 1 + (rest.takeWhile isSeparator).length)
  | _ => none

/-- Fills as many operands as there are arguments for at the front, and gives the number of
arguments they take. -/
def fillOperands (g : Grammar) (ms : List (Text × Mark)) :
    List Operand → Parsed → Except Halt (Parsed × Nat)
  | [], p => .ok ({ p with missing := [] }, 0)
  | o :: os, p =>
    match operandSpan ms with
    | none => .ok ({ p with missing := o :: os }, 0)
    | some n => do
      let v ← g.valueOf o.key o.isInteger ((ms.take n).map (·.1))
      let (p, m) ← g.fillOperands (ms.drop n) os (p.set o.key v)
      pure (p, n + m)

/-- Takes a command with everything after it, unless there is one already. -/
def fillCommand (g : Grammar) (key : String) (choices : List String) (ms : List (Text × Mark))
    (p : Parsed) : Except Halt (Parsed × Nat) :=
  match p.command, operandSpan ms, ms.map Prod.fst with
  | none, some _, name :: rest =>
    match choices.find? fun (c : String) => c == name with
    | some command => .ok ({ p with command := some (command, rest) }, ms.length)
    | none =>
      g.refuseArgument key ("invalid choice: " ++ name.quote ++ " (choose from " ++
        String.intercalate ", " (choices.map fun (c : String) => Text.quote c) ++ ")")
  | _, _, _ => .ok (p, 0)

/-- Fills operands from the front. -/
def fill (g : Grammar) (ms : List (Text × Mark)) (p : Parsed) : Except Halt (Parsed × Nat) :=
  match g.operands with
  | .single _ => g.fillOperands ms p.missing p
  | .command key choices => g.fillCommand key choices ms p

/-- Whether an argument is an option. -/
def isOption (m : Text × Mark) : Bool :=
  match m.2 with
  | .option .. | .unknown => true
  | _ => false

/-- Gives every argument its place, from the front. -/
def place (g : Grammar) (ms : List (Text × Mark)) (p : Parsed) : Except Halt Parsed :=
  match ms with
  | [] => (g.fill [] p).map (·.1)
  | (arg, m) :: rest =>
    match m with
    | .unknown => g.place rest { p with extras := p.extras ++ [arg] }
    | .option o name joined => do
      let (before, last, joined) ← g.spread o name joined
      let (value, left) ← g.argumentOf last joined rest
      let p ← before.foldlM (fun p o => g.apply p o "") p
      let p ← g.apply p last value
      have := left.2
      g.place left.1 p
    | _ => do
      let (p, n) ← g.fill ((arg, m) :: rest) p
      if rest.any isOption then
        if n = 0 then g.place rest { p with extras := p.extras ++ [arg] }
        else g.place (rest.drop (n - 1)) p
      else
        pure { p with extras := p.extras ++ (((arg, m) :: rest).drop n).map (·.1) }
termination_by ms.length
decreasing_by
  all_goals
    simp only [List.length_cons, List.length_drop]
    omega

/-- What is required and was not given, in the order of the operands and then of the options. -/
def unmet (g : Grammar) (p : Parsed) : List String :=
  let options := (g.options.filter fun o => o.isRequired && (p.get? o.key).isNone).map (·.label)
  match g.operands with
  | .single _ => p.missing.map (·.key) ++ options
  | .command key _ => options ++ (if p.command.isNone then [key] else [])

/-- The places of the arguments. -/
def parse (g : Grammar) (args : List Text) : Except Halt Parsed := do
  let ms ← g.marks args
  let missing := match g.operands with
    | .single os => os
    | .command .. => []
  let p ← g.place ms ⟨[], none, missing, []⟩
  match g.unmet p with
  | [] => pure p
  | names =>
    g.refuse ("the following arguments are required: " ++ String.intercalate ", " names)

end Grammar

end BatchFrontier.CommandLine
