import ComputePlanner.Command.Address
import ComputePlanner.Command.Grammar
import ComputePlanner.Text.Quoted
import ComputePlanner.Text.Similar

/-! # What is said about arguments
Arguments that are no command are answered with what is wrong, a tip if something else was likely
meant, and a usage line. Others ask for a text, such as a help page.

Main definitions: **`UsageError`**, **`UsageError.message`** and **`Reply`**. -/

namespace ComputePlanner

/-- What was likely meant. -/
inductive Tip
  /-- An option with a similar name. -/
  | similarOption (option : String)
  /-- Commands with similar names. -/
  | similarCommands (names : List String)
  /-- An option of a command that follows. -/
  | optionOf (command option : String)
  /-- An operand that looks like an option. -/
  | operand (argument : String)
  /-- A command, which must not follow two dashes. -/
  | withoutDashes (name : String)
  deriving DecidableEq, Repr

/-- The wording of a tip. -/
def Tip.text : Tip → String
  | similarOption option => s!"a similar argument exists: '--{option}'"
  | similarCommands [name] => s!"a similar subcommand exists: '{name}'"
  | similarCommands names =>
    "some similar subcommands exist: " ++ ", ".intercalate (names.map fun name => s!"'{name}'")
  | optionOf command option => s!"'{command} --{option}' exists"
  | operand argument => s!"to pass '{argument}' as a value, use '-- {argument}'"
  | withoutDashes name => s!"subcommand '{name}' exists; to use it, remove the '--' before it"

/-- Why arguments are no command. Where a usage line says what was given, the fault holds that. -/
inductive UsageError
  /-- There are none. -/
  | noArguments
  /-- No command is among them. -/
  | noCommand
  /-- A name is no command's name. -/
  | unknownCommand (g : Grammar) (name : String) (similar : List String)
  /-- An argument has no place in the grammar. -/
  | unexpected (g : Grammar) (argument : String) (tip : Option Tip) (given : List Argument)
  /-- A value is joined to an option that takes none. -/
  | unneededValue (g : Grammar) (option : Argument) (value : String) (given : List Argument)
  /-- A value is left out, or an empty path. -/
  | missingValue (a : Argument)
  /-- A value is no address. -/
  | badAddress (a : Argument) (value : String) (fault : NumberFault)
  /-- A setting is given again. -/
  | repeated (g : Grammar) (setting : Argument)
  /-- Two options are given of which only one may be. -/
  | conflict (g : Grammar) (first second : Argument) (given : List Argument)
  /-- Required arguments are left out. -/
  | missing (g : Grammar) (given : List Argument)
  deriving DecidableEq, Repr

namespace UsageError

/-- What is wrong. -/
def text : UsageError → String
  | noArguments | noCommand =>
    s!"'{Grammar.program.call}' requires a subcommand but one was not provided\n"
      ++ "  [subcommands: " ++ ", ".intercalate Grammar.program.commandNames ++ "]"
  | unknownCommand _ name _ => s!"unrecognized subcommand '{name}'"
  | unexpected _ argument _ _ => s!"unexpected argument '{argument}' found"
  | unneededValue _ a value _ =>
    s!"unexpected value '{value}' for '{a.shown}' found; no more were expected"
  | missingValue a => s!"a value is required for '{a.shown}' but none was supplied"
  | badAddress a value fault =>
    s!"invalid value '{value}' for '{a.shown}': invalid address {quoted value}: {fault.message}"
  | repeated _ a => s!"the argument '{a.shown}' cannot be used multiple times"
  | conflict _ first second _ =>
    s!"the argument '{first.shown}' cannot be used with '{second.shown}'"
  | missing g given =>
    "the following required arguments were not provided:"
      ++ String.join ((g.missing given).map ("\n  " ++ ·))

/-- What was likely meant. -/
def tip? : UsageError → Option Tip
  | unknownCommand _ _ (name :: names) => some (.similarCommands (name :: names))
  | unexpected _ _ tip _ => tip
  | _ => none

/-- The usage line. A wrong value has none. -/
def usage? : UsageError → Option String
  | noArguments | noCommand => some (Grammar.program.usage [])
  | unknownCommand g _ _ => some (g.usage [])
  | unexpected g _ _ given => some (g.usage given)
  | unneededValue g a _ given => some (g.usageWith (given ++ [a]))
  | missingValue _ | badAddress _ _ _ => none
  | repeated g _ => some (g.usage [])
  | conflict g _ _ given => some (g.usageWith given)
  | missing g given => some (g.usageWith given)

/-- Whether a character is shown: control characters are not, unless they are blanks. -/
def isShown (c : Char) : Bool :=
  c ∈ ['\t', '\n', '\x0c', '\r'] || (' ' ≤ c && c ≠ '\x7f')

/-- What is shown of a usage error. Where there are no arguments at all, that is the help page. -/
def message (e : UsageError) : String :=
  match e with
  | noArguments => Grammar.program.help
  | e =>
    let tip := match e.tip? with
      | some tip => ["  tip: " ++ tip.text]
      | none => []
    let parts := ["error: " ++ e.text] ++ tip ++ e.usage?.toList
      ++ ["For more information, try '--help'.\n"]
    String.ofList (("\n\n".intercalate parts).toList.filter isShown)

end UsageError

/-- What arguments are answered with where there is no command to run. -/
inductive Reply
  /-- A text that was asked for. -/
  | answer (text : String)
  /-- What is wrong with them. -/
  | refusal (e : UsageError)
  deriving DecidableEq, Repr

namespace Reply

/-- What is printed. -/
def output : Reply → String
  | answer text => text
  | refusal _ => ""

/-- What is shown of a fault. -/
def report : Reply → String
  | answer _ => ""
  | refusal e => e.message

/-- The exit status: 0 for an answer, 2 for a refusal. -/
def status : Reply → UInt32
  | answer _ => 0
  | refusal _ => 2

end Reply

end ComputePlanner
