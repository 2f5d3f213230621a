import ComputePlanner.Text.Numeral

/-! # Grammars of commands
What arguments a command takes, and how that is shown: in short on a **usage line**, and at length
on a help page. Placeholders stand for values, such as `<OUT_DIR>`.

Main definitions: **`Argument`**, **`Grammar`**, **`Grammar.usage`** and **`Grammar.help`**. -/

namespace ComputePlanner

/-- What a value has to be. -/
inductive ValueKind
  /-- A path, which is not empty. -/
  | path
  | address
  deriving DecidableEq, Repr

/-- How an argument is given, and what it does. -/
inductive ArgumentForm
  /-- By its place: a path. -/
  | operand
  /-- By its name, with a value behind it, and only once. -/
  | setting (value : ValueKind)
  /-- By its name, and any number of times. -/
  | flag
  /-- By its name: asks for the help page. -/
  | help
  /-- By its name: asks for the version. -/
  | version
  deriving DecidableEq, Repr

/-- An argument of a command. Options are the arguments that are given by name. -/
structure Argument where
  /-- Its name, which stands behind two dashes if the argument is an option. -/
  name : String
  /-- The letter that stands for the name behind a single dash, if there is one. -/
  letter : Option Char
  form : ArgumentForm
  /-- What it is for. -/
  about : String
  deriving DecidableEq, Repr

namespace Argument

/-- The placeholder for its value. -/
def placeholder (a : Argument) : String :=
  "<" ++ a.name.map (fun c => if c = '-' then '_' else c.toUpper) ++ ">"

/-- How an argument is shown. -/
def shown (a : Argument) : String :=
  match a.form with
  | .operand => a.placeholder
  | .setting _ => s!"--{a.name} {a.placeholder}"
  | .flag => s!"--{a.name}..."
  | .help | .version => s!"--{a.name}"

/-- A path that is given by its place. -/
def operand (name about : String) : Argument := ⟨name, none, .operand, about⟩

/-- The folder for artifacts that are not sent elsewhere. -/
def defaultFolder : String := "."

/-- The file for a container that is not sent elsewhere. -/
def defaultContainer : String := "program.qpc"

/-- The configuration of a program. -/
def config : Argument := operand "config" "Program configuration (JSON)"

/-- The binary to package. -/
def binary : Argument := operand "elf" "Linked device binary"

/-- The container to look at. -/
def container : Argument := operand "container" "Container file"

/-- The file to print. -/
def path : Argument := operand "path" "Metadata or container file"

/-- The binary whose symbols tell where threads start. -/
def elf : Argument :=
  ⟨"elf", none, .setting .path, "Linked binary to read the start symbol from"⟩

/-- The address at which threads start. -/
def entry : Argument :=
  ⟨"entry", none, .setting .address, "Thread entry address (decimal or 0x-prefixed hex)"⟩

/-- The folder for artifacts. -/
def outDir : Argument :=
  ⟨"out-dir", some 'o', .setting .path, s!"Output directory [default: {defaultFolder}]"⟩

/-- The file for a container. -/
def output : Argument :=
  ⟨"output", some 'o', .setting .path, s!"Container to write [default: {defaultContainer}]"⟩

/-- Asks for more messages. -/
def verbose : Argument :=
  ⟨"verbose", some 'v', .flag,
    "Log more (-v info, -vv debug, -vvv trace). RUST_LOG takes precedence"⟩

/-- Asks for the help page. -/
def help : Argument := ⟨"help", some 'h', .help, "Print help"⟩

/-- Asks for the version. -/
def version : Argument := ⟨"version", some 'V', .version, "Print version"⟩

end Argument

/-- The arguments of a command, or of the program itself. -/
structure Grammar where
  /-- The command's name; the program itself has none. -/
  name : Option String
  /-- What the command is for. -/
  about : String
  /-- Arguments by place, all of which are required. -/
  operands : List Argument
  /-- Options of which exactly one is required, unless there are none. -/
  choice : List Argument
  /-- Other options, all of which may be left out. -/
  extras : List Argument
  /-- The commands of which one must follow, each with what it is for. -/
  commands : List (String × String)
  deriving DecidableEq, Repr

namespace Grammar

/-- The options of a command. -/
def options (g : Grammar) : List Argument := g.choice ++ g.extras

/-- How the command is called. -/
def call (g : Grammar) : String :=
  match g.name with
  | none => "aic"
  | some name => s!"aic {name}"

/-! ## Usage lines -/

/-- The choice on a usage line. -/
def shownChoice (g : Grammar) : List String :=
  if g.choice.isEmpty then [] else ["<" ++ "|".intercalate (g.choice.map (·.shown)) ++ ">"]

/-- A usage line, given what is shown of the options that may be left out. -/
def usageLine (g : Grammar) (shown : List String) : String :=
  let command := if g.commands.isEmpty then [] else ["<COMMAND>"]
  " ".intercalate
    (["Usage:", g.call] ++ shown ++ g.shownChoice ++ g.operands.map (·.shown) ++ command)

/-- The usage line for arguments that were given: it shows the options among them, each once. -/
def usageWith (g : Grammar) (given : List Argument) : String :=
  g.usageLine ((given.filter g.extras.contains).map (·.shown)).eraseDups

/-- The usage line for arguments that were given, or the one of the command if there are none. -/
def usage (g : Grammar) (given : List Argument) : String :=
  if given.isEmpty then g.usageLine ["[OPTIONS]"] else g.usageWith given

/-- What is missing among the arguments that were given. -/
def missing (g : Grammar) (given : List Argument) : List String :=
  (if g.choice.any given.contains then [] else g.shownChoice)
    ++ (g.operands.filter fun a => ¬ given.contains a).map (·.shown)

/-! ## Help pages -/

/-- A section of a help page: names and what they are for, in two columns. -/
def helpSection (title : String) (rows : List (String × String)) : String :=
  let width := (rows.map fun row => row.1.length).foldl max 0
  String.join ((title ++ ":\n") :: rows.map fun row => s!"  {padRight width row.1}  {row.2}\n")

/-- An option as a help page names it. -/
def optionName (a : Argument) : String :=
  match a.letter with
  | some c => s!"-{c}, {a.shown}"
  | none => s!"    {a.shown}"

/-- The help page of a command. -/
def help (g : Grammar) : String :=
  let sections :=
    [("Commands", g.commands), ("Arguments", g.operands.map fun a => (a.shown, a.about)),
      ("Options", g.options.map fun a => (optionName a, a.about))]
  let shown := sections.filter fun s => ¬ s.2.isEmpty
  "\n".intercalate
    ([g.about ++ "\n", g.usage [] ++ "\n"] ++ shown.map fun s => helpSection s.1 s.2)

/-! ## The commands -/

/-- Plans a program and writes its artifacts. -/
def plan : Grammar where
  name := some "plan"
  about := "Plan a program and write its artifacts to a directory"
  operands := [.config]
  choice := [.elf, .entry]
  extras := [.outDir, .verbose, .help]
  commands := []

/-- Plans a program and packages it with its binary. -/
def package : Grammar where
  name := some "package"
  about := "Plan a program and package it with its binary"
  operands := [.config, .binary]
  choice := []
  extras := [.output, .verbose, .help]
  commands := []

/-- Checks a container. -/
def validate : Grammar where
  name := some "validate"
  about := "Check a container holds every mandatory image"
  operands := [.container]
  choice := []
  extras := [.verbose, .help]
  commands := []

/-- Prints a metadata document. -/
def dump : Grammar where
  name := some "dump"
  about := "Print a metadata document, standalone or from a container"
  operands := [.path]
  choice := []
  extras := [.verbose, .help]
  commands := []

/-- Lists the images of a container and its descriptors. -/
def inspect : Grammar where
  name := some "inspect"
  about := "List the images of a container and decode its descriptors"
  operands := [.container]
  choice := []
  extras := [.verbose, .help]
  commands := []

/-- The commands with grammars of their own. -/
def all : List Grammar := [plan, package, validate, dump, inspect]

/-- The version of the program. -/
def versionNumber : String := "0.1.0"

/-- The name of the command that prints help pages. -/
def helpName : String := "help"

/-- The program: options, and a command. -/
def program : Grammar where
  name := none
  about := "AIC compute program planner"
  operands := []
  choice := []
  extras := [.verbose, .help, .version]
  commands :=
    (all.filterMap fun g => g.name.map (·, g.about))
      ++ [(helpName, "Print this message or the help of the given subcommand(s)")]

/-- The names of the commands that may follow. -/
def commandNames (g : Grammar) : List String := g.commands.map (·.1)

/-- The grammar of a command. -/
def ofName? (name : String) : Option Grammar := all.find? (·.name = some name)

end Grammar

end ComputePlanner
