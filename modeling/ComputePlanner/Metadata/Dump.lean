import ComputePlanner.Metadata.Codes
import ComputePlanner.Text.Numeral

/-! # The listing of a metadata document
A document is listed line by line for people: settings under labels of one width, then the tables,
the transfers each with its operations, the threads, and last the fields that a reader must know. -/

namespace ComputePlanner

/-- How a flag is listed. -/
def yesNo (b : Bool) : String := if b then "yes" else "no"

/-- A line with a label. -/
def labelled (label text : String) : String := padRight 20 (label ++ ":") ++ text

/-- The number of a table's entry. -/
def entryNumber (n : Nat) : String := "[" ++ padLeft 2 ' ' (toString n) ++ "]"

/-- A static and a dynamic memory side by side. -/
def memoryPair (fixed dynamic : HostMemory) : String :=
  s!"static {fixed.size} (ECC {yesNo fixed.ecc}), dynamic {dynamic.size} (ECC {yesNo dynamic.ecc})"

/-- A group as the host sees it. -/
def HostEntry.line (number : Nat) (e : HostEntry) : String :=
  s!"  {entryNumber number} mask {hexMask e.mask.toNat} size {e.size}"

/-- A group as a core sees it. -/
def MulticastEntry.line (number : Nat) (e : MulticastEntry) : String :=
  s!"  {entryNumber number} mask {hexMask e.mask.toNat} size {e.size} "
    ++ s!"{e.memory.name} +{hex e.base.toNat}" ++ (if e.dynamic then " dynamic" else "")

/-- The groups a core sees. -/
def coreTableLines (core : Nat) (table : List MulticastEntry) : List String :=
  s!"Core {core} multicast:" :: table.mapIdx MulticastEntry.line

/-- A semaphore operation. -/
def SemaphoreOp.line (op : SemaphoreOp) : String :=
  s!"      {op.point.name} {op.action.name} sem {op.semaphore} value {op.value}"
    ++ (if op.inFence then " in-fence" else "") ++ (if op.outFence then " out-fence" else "")

/-- A doorbell write. -/
def DoorbellOp.line (op : DoorbellOp) : String :=
  s!"      doorbell mc {op.group} +{hex op.offset.toNat} <- {op.data} ({op.width.bytes} bytes)"

/-- A transfer and its operations. -/
def Transfer.lines (t : Transfer) : List String :=
  (s!"  #{t.number} {t.direction.name} port {t.port} "
    ++ s!"{t.space.name}+{hex t.deviceOffset.toNat} mc {t.group} size {t.size} "
    ++ s!"host +{hex t.hostOffset.toNat}")
    :: t.semaphores.map (·.line) ++ t.doorbells.map (·.line)

/-- What a thread's unit bits mean. -/
def Thread.unitName (t : Thread) : String :=
  if t.units = vectorUnit then "HVX" else if t.units = matrixUnit then "HMX" else "mixed"

/-- A thread. -/
def Thread.line (t : Thread) : String := s!"  {t.unitName} entry {hex t.entry.toNat}"

/-- A mapping of the constants. -/
def ConstantMapping.line (m : ConstantMapping) : String :=
  labelled "Constants map" s!"mask {hexMask m.cores.toNat} +{hex m.base.toNat} size {m.size}"

/-- A port. -/
def Port.line (p : Port) : String := labelled "Port" s!"{p.number} {p.type.name}"

namespace Metadata

/-- The settings of a document. -/
def settingLines (md : Metadata) : List String :=
  [labelled "Network" md.name,
    labelled "Format" s!"{md.major}.{md.minor} (exec context {md.contextMajor})",
    labelled "Hardware" s!"{md.hardwareMajor}.{md.hardwareMinor}",
    labelled "Cores" s!"{md.cores}",
    labelled "VTCM" s!"{md.vtcmSize} bytes",
    labelled "L2TCM" s!"{md.l2tcmSize} bytes",
    labelled "L2TCM init" s!"{md.initSize} bytes in {md.initRegions.length} regions",
    labelled "Exit doorbell" (hex md.exitDoorbell.toNat),
    labelled "Semaphores" (s!"{md.semaphoreCount} " ++ bracketed (md.semaphoreInit.map toString)),
    labelled "Shared DDR" (memoryPair md.staticDdr md.dynamicDdr),
    labelled "Constants" (memoryPair md.staticConstants md.dynamicConstants),
    labelled "Total DDR" s!"{md.totalHostMemory} bytes",
    labelled "Heap" s!"{md.heapSize} bytes ({md.heapBehavior.name} on deactivate)",
    labelled "Single VTCM page" (yesNo md.singleVtcmPage),
    labelled "Floating point" s!"HVX {yesNo md.vectorFloat}, HMX {yesNo md.matrixFloat}"]

/-- The lines of a document. -/
def lines (md : Metadata) : List String :=
  md.settingLines
    ++ "Host multicast:" :: md.hostTable.mapIdx HostEntry.line
    ++ (md.coreTables.mapIdx coreTableLines).flatten
    ++ "DMA requests:" :: md.transfers.flatMap (·.lines)
    ++ "Threads:" :: md.threads.map (·.line)
    ++ md.constantMappings.map (·.line)
    ++ md.ports.map (·.line)
    ++ [labelled "Exec context"
        s!"{md.context.size} bytes, {md.context.fields.length} fields",
      labelled "Required fields" (", ".intercalate md.requiredFields)]

/-- The listing of a document; its last line is not ended. -/
def dump (md : Metadata) : String := "\n".intercalate md.lines

end Metadata

end ComputePlanner
