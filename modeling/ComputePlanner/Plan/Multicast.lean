import ComputePlanner.Metadata.Basic
import ComputePlanner.Plan.Error

/-! # Multicast groups
A multicast group lets one write reach the same offset on several cores. Group 0 is for doorbells:
through it each core sees the doorbell windows of the others. Every buffer on the chip gets the next
group, in the order in which they are routed.

A **`Router`** keeps the groups; the tables that cores and host look groups up in are derived from
them. A core outside a group has an entry of no bytes for it, so that a group has one number
everywhere. -/

namespace ComputePlanner

/-- The memory of a core that a space is, if a multicast group can cover it. -/
def AddressSpace.coreMemory? : AddressSpace → Option CoreMemory
  | .l2tcm => some .l2tcm
  | .vtcm => some .vtcm
  | .ddr => none

/-- A multicast group. -/
structure Group where
  /-- The memory it covers. -/
  memory : CoreMemory
  /-- One bit for each core in it. -/
  cores : UInt32
  /-- Bytes it covers. -/
  size : UInt32
  /-- Where it starts. -/
  base : UInt64
  /-- Whether the host writes through it. -/
  hostVisible : Bool
  deriving DecidableEq, Repr

/-- Whether a core's bit is set in a mask; core numbers count modulo the 32 bits. -/
def hasCore (mask : UInt32) (core : Nat) : Bool := mask &&& (1 <<< UInt32.ofNat core) ≠ 0

/-- The group as one core sees it. -/
def Group.entryFor (g : Group) (core : Nat) : MulticastEntry :=
  ⟨false, g.cores, if hasCore g.cores core then g.size else 0, g.memory, g.base⟩

/-- The group as the host sees it. -/
def Group.hostEntry (g : Group) : HostEntry := ⟨g.cores, g.size⟩

/-- The groups of a program. -/
structure Router where
  /-- Cores of the program. -/
  cores : Nat
  /-- Bytes of the doorbell window. -/
  window : UInt32
  /-- The groups behind the doorbell group: the first is group 1. -/
  groups : Array Group
  deriving DecidableEq, Repr

/-- The group that doorbells are written through. -/
def doorbellGroup : UInt16 := 0

/-- The number that no group has: it is the number after the last one. -/
def groupLimit : Nat := 65535

namespace Router

/-- Only the doorbell group. -/
def start (cores window : Nat) : Except ConfigFault Router :=
  match fit32? window with
  | some window => .ok ⟨cores, window, #[]⟩
  | none => .error .doorbellWindow

/-- Groups, the doorbell group included. -/
def count (r : Router) : Nat := r.groups.size + 1

/-- The memory and the number of the next group, if one may cover a space. -/
def next (r : Router) (space : AddressSpace) : Except ConfigFault (CoreMemory × UInt16) :=
  match space.coreMemory? with
  | none => .error .groupOffChip
  | some memory =>
    if r.count < groupLimit then .ok (memory, UInt16.ofNat r.count) else .error .groupsExhausted

/-- Puts a group behind the others. -/
def push (r : Router) (g : Group) : Router := { r with groups := r.groups.push g }

/-- Adds a group and gives its number. -/
def add (r : Router) (space : AddressSpace) (cores size : UInt32) (base : UInt64)
    (hostVisible : Bool) : Except ConfigFault (UInt16 × Router) := do
  let (memory, number) ← r.next space
  return (number, r.push ⟨memory, cores, size, base, hostVisible⟩)

/-- The doorbell group as one core sees it: without the core itself. -/
def doorbellEntry (r : Router) (core : Nat) : MulticastEntry :=
  ⟨false, allCoresMask r.cores &&& ~~~(1 <<< UInt32.ofNat core), r.window, .l2tcm, 0⟩

/-- The table of one core. -/
def coreTable (r : Router) (core : Nat) : List MulticastEntry :=
  r.doorbellEntry core :: r.groups.toList.map (·.entryFor core)

/-- The tables of all cores. -/
def coreTables (r : Router) : List (List MulticastEntry) := (List.range r.cores).map r.coreTable

/-- The table of the host. -/
def hostTable (r : Router) : List HostEntry :=
  ⟨allCoresMask r.cores, r.window⟩ :: (r.groups.toList.filter (·.hostVisible)).map (·.hostEntry)

end Router

end ComputePlanner
