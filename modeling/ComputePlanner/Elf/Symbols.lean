import ComputePlanner.Elf.Loading

/-! # The symbols of a linked binary
The symbols of a linked binary are those of the last section that is a table of symbols, which names
the section with their names. Only they are needed, yet all that the headers point to has to lie
within the file.

A name is a run of bytes up to a zero byte. A symbol may point into the middle of one.

Main definitions: **`Elf.Symbol`** and **`Elf.symbols?`**. -/

namespace ComputePlanner

namespace Elf

/-- A symbol. -/
structure Symbol where
  /-- Where its name starts in the table of names. -/
  name : Nat
  /-- Its type and binding. -/
  info : Nat
  value : Nat
  deriving DecidableEq, Repr

/-- The symbol whose entry is given. -/
def symbolOf (f : Format) (e : Bytes) : Symbol :=
  if f.wide then ⟨f.field e 0 4, f.field e 4 1, f.field e 8 8⟩
  else ⟨f.field e 0 4, f.field e 12 1, f.field e 4 4⟩

/-- The type of a symbol table. -/
def symbolTableType : Nat := 2

/-- The types of relocation tables. -/
def relocationTypes : List Nat := [4, 9]

/-- The types of the tables of symbol versions. A file has at most one of each. -/
def versionTypes : List Nat := [0x6FFFFFFF, 0x6FFFFFFD, 0x6FFFFFFE]

/-- Checks that the first section of a type, if there is one, lies within the file. -/
def checkFirst (type : Nat) (sections : List Section) (bytes : Bytes) : Option Unit :=
  match sections.find? (·.type = type) with
  | some s => (slice? bytes s.offset s.size).map fun _ => ()
  | none => some ()

/-- The symbols in a symbol table. -/
def symbolsIn? (f : Format) (s : Section) (bytes : Bytes) : Option (List Symbol) :=
  let count := if s.entrySize = 0 then 0 else s.size / s.entrySize
  (slice? bytes s.offset (count * f.symbolSize)).map fun entries =>
    (chunks f.symbolSize count entries).map (symbolOf f)

/-- The symbols in the last symbol table, with the table of their names; without a symbol table
there are none. -/
def lastSymbols? (f : Format) (sections : List Section) (bytes : Bytes) :
    Option (List Symbol × Bytes) :=
  match (sections.filter (·.type = symbolTableType)).getLast? with
  | none => some ([], [])
  | some s => do
    let symbols ← symbolsIn? f s bytes
    let names ← names? sections s.link bytes
    return (symbols, names)

/-- The symbols of a file with the table of their names, if it is an ELF image. -/
def symbols? (bytes : Bytes) : Option (List Symbol × Bytes) := do
  let f ← format? bytes
  let h ← header? f bytes
  let segments ← segments? f h bytes
  let sections ← sections? f h bytes
  let _ ← names? sections h.nameSection bytes
  let symbols ← lastSymbols? f sections bytes
  checkLoading f h.machine segments bytes
  (sections.filter fun s => relocationTypes.contains s.type).forM (·.checkSize bytes)
  versionTypes.forM fun type => checkFirst type sections bytes
  return symbols

/-- The type of a symbol that is a function. -/
def functionType : Nat := 2

/-- Whether a symbol is a function. -/
def Symbol.isFunction (s : Symbol) : Bool := s.info % 16 = functionType

/-- The name at an offset of the table of names, if that is within the table. -/
def nameAt? (names : Bytes) (offset : Nat) : Option Bytes :=
  if offset < names.length then some ((names.drop offset).takeWhile (· ≠ 0)) else none

end Elf

end ComputePlanner
