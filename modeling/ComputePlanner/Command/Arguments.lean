import ComputePlanner.Command.Usage

/-! # Arguments
A command is named by its first operand; its other arguments are options, which may come anywhere,
and operands in order. An option's value follows it, or is joined to it: `--entry=1`, `-oout`,
`-o=out`. Behind `--` everything is an operand, and a single dash is one, too.

Arguments are read from left to right, and the first fault counts. An operand, or a value that
follows its option, **waits** to be checked until the next argument has found its place; so a wrong
value is a later fault than an unknown option right behind it.

Main definitions: **`Command`** and **`Command.ofArguments`**. -/

namespace ComputePlanner

/-- Where the start address of threads comes from. -/
inductive EntrySource
  /-- From the symbols of a linked binary. -/
  | binary (path : String)
  | address (a : UInt64)
  deriving DecidableEq, Repr

/-- A command. -/
inductive Command
  /-- Plans a program and writes its artifacts into a folder. -/
  | plan (config : String) (entry : EntrySource) (folder : String)
  /-- Plans a program and packages it with its binary. -/
  | package (config binary output : String)
  /-- Checks a container. -/
  | validate (container : String)
  /-- Prints a metadata document. -/
  | dump (path : String)
  /-- Lists the images of a container and its descriptors. -/
  | inspect (container : String)
  deriving DecidableEq, Repr

namespace Arguments

/-! ## What an argument looks like -/

/-- What an argument is. -/
inductive Shape
  /-- Only operands follow. -/
  | endOfOptions
  /-- An option's name, and a value joined to it. -/
  | long (name : String) (value : Option String)
  /-- Letters of options, and perhaps a value joined to the last. -/
  | letters (letters : List Char)
  | operand
  deriving DecidableEq, Repr

/-- Cuts characters at the first equals sign. -/
def cutAtEquals (read : List Char) : List Char → String × Option String
  | [] => (String.ofList read.reverse, none)
  | c :: cs =>
    if c = '=' then (String.ofList read.reverse, some (String.ofList cs))
    else cutAtEquals (c :: read) cs

/-- What an argument is. -/
def shape (argument : String) : Shape :=
  match argument.toList with
  | ['-', '-'] => .endOfOptions
  | '-' :: '-' :: name => let cut := cutAtEquals [] name; .long cut.1 cut.2
  | ['-'] => .operand
  | '-' :: letters => .letters letters
  | _ => .operand

/-! ## Arguments that were given -/

/-- Arguments taken apart. -/
structure Progress where
  /-- Arguments that were checked and their values, in order. -/
  given : List (Argument × String)
  /-- The argument that waits, and its value if that has come. -/
  waiting : Option (Argument × Option String)
  deriving DecidableEq, Repr

/-- What is wrong with a value. -/
def valueFault? (a : Argument) (value : String) : Option UsageError :=
  match a.form with
  | .operand | .setting .path => if value.isEmpty then some (.missingValue a) else none
  | .setting .address =>
    match readAddress value with
    | .ok _ => none
    | .error fault => some (.badAddress a value fault)
  | .flag | .help | .version => none

namespace Progress

/-- Nothing was given. -/
def start : Progress := ⟨[], none⟩

/-- The arguments that were given. -/
def arguments (p : Progress) : List Argument := p.given.map (·.1)

/-- Checks an argument and notes it. It counts as given even with a wrong value, but one that must
not be repeated does not count any longer if it is. -/
def note (g : Grammar) (p : Progress) (a : Argument) (value : String) :
    Progress × Option UsageError :=
  let others := p.given.filter (·.1 ≠ a)
  if p.arguments.contains a ∧ a.form ≠ .flag then
    ({ p with given := others }, some (.repeated g a))
  else ({ p with given := others ++ [(a, value)] }, valueFault? a value)

/-- Checks the argument that waits. -/
def settle (g : Grammar) (p : Progress) : Progress × Option UsageError :=
  let settled := { p with waiting := none }
  match p.waiting with
  | none => (settled, none)
  | some (a, none) => (settled, some (.missingValue a))
  | some (a, some value) => settled.note g a value

/-- What comes of a check. -/
def checked : Progress × Option UsageError → Except Reply Progress
  | (p, none) => .ok p
  | (_, some e) => .error (.refusal e)

/-- Goes on without an argument that waits. -/
def settled (g : Grammar) (p : Progress) : Except Reply Progress := checked (p.settle g)

/-- Takes in an argument with its value. -/
def add (g : Grammar) (p : Progress) (a : Argument) (value : String) : Except Reply Progress := do
  checked ((← p.settled g).note g a value)

/-- Takes in an argument that waits. -/
def await (g : Grammar) (p : Progress) (a : Argument) (value : Option String) :
    Except Reply Progress := do
  let p ← p.settled g
  return { p with waiting := some (a, value) }

/-- Takes in an option that takes no value. -/
def addSwitch (g : Grammar) (p : Progress) (a : Argument) : Except Reply Progress := do
  let next ← p.add g a ""
  match a.form with
  | .help => throw (.answer g.help)
  | .version => throw (.answer s!"{g.call} {Grammar.versionNumber}\n")
  | _ => return next

end Progress

/-! ## Options -/

/-- The option whose name is closest to a name, if one is close. -/
def similarOption? (g : Grammar) (name : String) : Option Argument :=
  (similarWords name (g.options.map (·.name))).getLast?.bind fun closest =>
    g.options.find? (·.name = closest)

/-- The first command among arguments that has an option with a similar name. -/
def optionBehind? (name : String) (rest : List String) : Option Tip :=
  rest.findSome? fun word => do
    let g ← Grammar.ofName? word
    let option ← similarOption? g name
    return .optionOf word option.name

/-- A tip for an argument that looks like an option and is none: it can be an operand, where there
are any. -/
def operandTip? (g : Grammar) (argument : String) : Option Tip :=
  if g.operands.isEmpty then none else some (.operand argument)

/-- The fault of an unknown option. What was likely meant counts as given. -/
def unknownOption (g : Grammar) (p : Progress) (name : String) (rest : List String) : UsageError :=
  let given := (p.settle g).1.arguments
  let argument := "--" ++ name
  match similarOption? g name with
  | some option => .unexpected g argument (some (.similarOption option.name)) (given ++ [option])
  | none =>
    let behind := if g.commands.isEmpty then none else optionBehind? name rest
    .unexpected g argument (behind <|> operandTip? g argument) given

/-- Takes in an option by its name. -/
def long (g : Grammar) (p : Progress) (name : String) (value : Option String)
    (rest : List String) : Except Reply Progress :=
  match g.options.find? (·.name = name) with
  | none => .error (.refusal (unknownOption g p name rest))
  | some a =>
    match a.form, value with
    | .setting _, some value => p.add g a value
    | .setting _, none => p.await g a none
    | _, some value => .error (.refusal (.unneededValue g a value p.arguments))
    | _, none => p.addSwitch g a

/-- Takes in options by their letters. What stands behind the letter of a setting is its value. -/
def letters (g : Grammar) (p : Progress) : List Char → Except Reply Progress
  | [] => .ok p
  | c :: cs =>
    match g.options.find? (·.letter = some c) with
    | none =>
      let argument := s!"-{c}"
      .error (.refusal (.unexpected g argument (operandTip? g argument) []))
    | some a =>
      match a.form, cs with
      | .setting _, [] => p.await g a none
      | .setting _, '=' :: value => p.add g a (String.ofList value)
      | .setting _, value => p.add g a (String.ofList value)
      | _, _ => do letters g (← p.addSwitch g a) cs

/-! ## Commands -/

/-- Takes in arguments behind two dashes, given the operands that have not come yet. -/
def scanOperands (g : Grammar) (p : Progress) :
    (places : List Argument) → List String → Except Reply Progress
  | _, [] => p.settled g
  | [], argument :: _ => .error (.refusal (.unexpected g argument none []))
  | place :: places, argument :: rest => do
    scanOperands g (← p.await g place (some argument)) places rest

/-- Takes in the arguments of a command, given the operands that have not come yet. -/
def scan (g : Grammar) (p : Progress) (places : List Argument) :
    List String → Except Reply Progress
  | [] => p.settled g
  | argument :: rest =>
    match shape argument with
    | .endOfOptions => scanOperands g p places rest
    | .long name value => do scan g (← long g p name value rest) places rest
    | .letters cs => do scan g (← letters g p cs) places rest
    | .operand =>
      match p.waiting, places with
      | some (a, none), places =>
        scan g { p with waiting := some (a, some argument) } places rest
      | _, [] => .error (.refusal (.unexpected g argument none []))
      | _, place :: places => do scan g (← p.await g place (some argument)) places rest

/-- The arguments of a command. -/
def read (g : Grammar) (arguments : List String) : Except Reply Progress :=
  scan g .start g.operands arguments

/-- The value of an argument that is required. -/
def Progress.value (g : Grammar) (p : Progress) (a : Argument) : Except Reply String :=
  match p.given.lookup a with
  | some value => .ok value
  | none => .error (.refusal (.missing g p.arguments))

/-- The value of an argument that may be left out. -/
def Progress.valueOr (p : Progress) (a : Argument) (default : String) : String :=
  (p.given.lookup a).getD default

/-- Where the start address comes from: one option says so, and not both. -/
def Progress.entrySource (g : Grammar) (p : Progress) : Except Reply EntrySource :=
  match p.given.filter fun a => g.choice.contains a.1 with
  | [] => .error (.refusal (.missing g p.arguments))
  | [(a, value)] =>
    if a = .elf then .ok (.binary value)
    else
      match readAddress value with
      | .ok address => .ok (.address address)
      | .error fault => .error (.refusal (.badAddress a value fault))
  | first :: second :: _ => .error (.refusal (.conflict g first.1 second.1 p.arguments))

/-- The help page that names lead to. -/
def helpPage : List String → Reply
  | [] => .answer Grammar.program.help
  | name :: rest =>
    match Grammar.ofName? name, rest with
    | some g, [] => .answer g.help
    | some g, extra :: _ => .refusal (.unknownCommand g extra [])
    | none, _ => .refusal (.unknownCommand .program name [])

/-- The fault of a name that is no command's name. -/
def unknownCommand (name : String) : UsageError :=
  .unknownCommand .program name (similarWords name Grammar.program.commandNames)

/-- The command of a name with its arguments. -/
def commandOf (name : String) (arguments : List String) : Except Reply Command :=
  match name with
  | "plan" => do
    let p ← read .plan arguments
    let entry ← p.entrySource .plan
    return .plan (← p.value .plan .config) entry (p.valueOr .outDir Argument.defaultFolder)
  | "package" => do
    let p ← read .package arguments
    let config ← p.value .package .config
    let binary ← p.value .package .binary
    return .package config binary (p.valueOr .output Argument.defaultContainer)
  | "validate" => do return .validate (← (← read .validate arguments).value .validate .container)
  | "dump" => do return .dump (← (← read .dump arguments).value .dump .path)
  | "inspect" => do return .inspect (← (← read .inspect arguments).value .inspect .container)
  | "help" => .error (helpPage arguments)
  | name => .error (.refusal (unknownCommand name))

/-- What the program's own options are answered with if no command follows them. -/
def withoutCommand (p : Progress) : UsageError :=
  if p.given.isEmpty then .noArguments else .noCommand

/-- What two dashes are answered with that stand where a command is expected: nothing behind them is
a command. -/
def behindDashes (p : Progress) : List String → UsageError
  | [] => withoutCommand p
  | name :: _ =>
    if Grammar.program.commandNames.contains name then
      .unexpected .program name (some (.withoutDashes name)) []
    else unknownCommand name

/-- The command behind the program's own options. -/
def scanProgram (p : Progress) : List String → Except Reply Command
  | [] => .error (.refusal (withoutCommand p))
  | argument :: rest =>
    match shape argument with
    | .endOfOptions => .error (.refusal (behindDashes p rest))
    | .long name value => do scanProgram (← long .program p name value rest) rest
    | .letters cs => do scanProgram (← letters .program p cs) rest
    | .operand => commandOf argument rest

end Arguments

/-- The command that arguments ask for. -/
def Command.ofArguments (arguments : List String) : Except Reply Command :=
  Arguments.scanProgram .start arguments

end ComputePlanner
