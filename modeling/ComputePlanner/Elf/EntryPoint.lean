import ComputePlanner.Elf.Symbols
import ComputePlanner.Plan.Error

/-! # The entry point of a program
Every thread starts at the runtime's start routine. Its address is that of the first function of
that name among the symbols of the linked binary. -/

namespace ComputePlanner

/-- The name of the start routine. -/
def startSymbol : String := "_qaic_start"

/-- The address at which the threads of a linked binary start. -/
def entryPoint (binary : Bytes) : Except EntryPointFault UInt64 :=
  match Elf.symbols? binary with
  | none => .error .notElf
  | some (symbols, names) =>
    let isStart (s : Elf.Symbol) : Bool :=
      s.isFunction && Elf.nameAt? names s.name = some (Utf8.encode startSymbol)
    match symbols.find? isStart with
    | some s => .ok (UInt64.ofNat s.value)
    | none => .error (.noStart startSymbol)

end ComputePlanner
