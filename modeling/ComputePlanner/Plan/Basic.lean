import ComputePlanner.Config.Basic
import ComputePlanner.Descriptor.Program
import ComputePlanner.Plan.Layout
import ComputePlanner.Plan.Resolve
import ComputePlanner.Plan.Transfers

/-! # Planning a program
Planning decides everything about a program before anything is written: its buffers are resolved and
placed, those on the chip are routed through multicast groups, each gets a doorbell and, if it is
transferred, a transfer, and the descriptor ring is added behind them. A setting that the hardware
cannot honour fails the whole plan.

Main definitions: **`ProgramPlan`** and **`ProgramConfig.plan`**. -/

namespace ComputePlanner

/-- What is decided for a program. -/
structure ProgramPlan where
  /-- The threads of each core. -/
  threads : ThreadPlan
  /-- The reserved part of the scratch memory. -/
  reservation : Reservation
  /-- Memory used. -/
  resources : Resources
  /-- The buffers in the order they are processed, the descriptor ring last. -/
  buffers : List Buffer
  /-- The multicast group of each buffer, none off the chip. -/
  groups : List (Option UInt16)
  /-- The multicast groups. -/
  router : Router
  /-- The doorbells and semaphores. -/
  handshake : Handshake
  /-- The transfers in their sequence. -/
  transfers : Array Transfer
  /-- The loader's view of the buffers. -/
  descriptor : ProgramDescriptor
  deriving DecidableEq, Repr

/-- The descriptor ring as an internal buffer of every core, behind `index` others. It lies in the
reserved part, so it is never placed. -/
def ringBuffer (r : Reservation) (cores : Nat) (index : Nat) : Buffer where
  name := ⟨.internal, index⟩
  type := .int8
  dims := [UInt64.ofNat r.ringSize]
  space := .l2tcm
  baseOffset := 0
  deviceOffset := UInt64.ofNat r.ringOffset
  hostOffset := 0
  size := clamp32 r.ringSize
  cores := allCoresMask cores
  inFence := false
  outFence := false
  allowPartial := false

/-- The loader's view of a buffer. Its doorbell slot, if it has one, is written and waited on with
the value of a rung doorbell. -/
def bufferEntry (b : Buffer) (group : Option UInt16) (slot : Option Nat) :
    Except ConfigFault BufferEntry := do
  let value := if slot.isSome then doorbellRung else 0
  let offset ← narrow32 .bufferOffset b.start
  let waitSlot ← narrow16 .doorbellSlot (slot.getD 0)
  let cores ← narrow16 .coreMask b.cores.toNat
  return { location := b.space, offset, size := b.size, waitSlot, waitValue := value,
           doneValue := value, group := group.getD 0, cores, role := b.role,
           allowPartial := b.allowPartial }

/-- Resolves the buffers of one role, whose places among them start at `index`. -/
def resolveFrom (role : BufferRole) (cores : UInt32) (index : Nat) :
    List BufferSpec → Except ConfigFault (List Buffer)
  | [] => .ok []
  | s :: specs => do
    let b ← s.resolve ⟨role, index⟩ cores
    let bs ← resolveFrom role cores (index + 1) specs
    return b :: bs

/-- Routes buffers: those on the chip get a group each. Internal buffers are hidden from the host.
-/
def routeAll (router : Router) : List Buffer → Except ConfigFault (List (Option UInt16) × Router)
  | [] => .ok ([], router)
  | b :: bs => do
    if b.space.isOnChip then
      let (group, router) ← router.add b.space b.cores b.size b.baseOffset (b.role ≠ .internal)
      let (groups, router) ← routeAll router bs
      return (some group :: groups, router)
    else
      let (groups, router) ← routeAll router bs
      return (none :: groups, router)

/-- What has been set up for the buffers processed so far. -/
structure Setup where
  handshake : Handshake
  transfers : Array Transfer
  descriptor : ProgramDescriptor

/-- Sets up a buffer: its doorbell, its transfer and its entry for the loader. -/
def Setup.add (s : Setup) (b : Buffer) (group : Option UInt16) : Except ConfigFault Setup := do
  let (sync, handshake) ← s.handshake.assign b
  let transfers ← enqueue s.transfers b group sync
  let entry ← bufferEntry b group (some sync.slot)
  return ⟨handshake, transfers, s.descriptor.add entry⟩

/-- Sets up buffers in order. -/
def Setup.addAll (s : Setup) : List (Buffer × Option UInt16) → Except ConfigFault Setup
  | [] => .ok s
  | (b, group) :: rest => do
    let s ← s.add b group
    s.addAll rest

namespace ProgramConfig

/-- Checks that the hardware is the one that programs are planned for and has the cores asked for.
-/
def checkTarget (c : ProgramConfig) : Except ConfigFault Unit :=
  if (c.hardwareMajor, c.hardwareMinor) ≠ supportedHardware then
    .error (.hardware c.hardwareMajor c.hardwareMinor)
  else if 1 ≤ c.cores.toNat ∧ c.cores.toNat ≤ maxCores then .ok ()
  else .error (.coreCount c.cores)

/-- The buffers of a program, in the order they are processed: inputs, outputs, internal ones. -/
def resolveAll (c : ProgramConfig) : Except ConfigFault (List Buffer) := do
  let inputs ← resolveFrom .input c.cores 0 c.inputs
  let outputs ← resolveFrom .output c.cores 0 c.outputs
  let internals ← resolveFrom .internal c.cores 0 c.internals
  return inputs ++ outputs ++ internals

/-- The plan of a program. -/
def plan (c : ProgramConfig) : Except ConfigFault ProgramPlan := do
  c.checkTarget
  let threads ← c.threadPlan
  let reservation := Reservation.ofThreads threads.total
  let buffers ← c.resolveAll
  let layout ← (Layout.ofReservation reservation).placeAll buffers
  let router ← Router.start c.cores.toNat reservation.doorbellWindow
  let (groups, router) ← routeAll router buffers
  let handshake ← Handshake.ofBuffers buffers
  let descriptor : ProgramDescriptor :=
    { exitSlot := UInt16.ofNat exitSlot, inputSemaphore, outputSemaphore,
      threads := UInt32.ofNat threads.total }
  let setup ← Setup.addAll ⟨handshake, #[], descriptor⟩ (buffers.zip groups)
  let ring := ringBuffer reservation c.cores.toNat c.internals.length
  let (ringGroup, router) ← router.add ring.space ring.cores ring.size ring.baseOffset false
  let ringEntry ← bufferEntry ring (some ringGroup) none
  let dummyOffset ← narrow32 .dummyOffset reservation.dummyOffset
  return {
    threads
    reservation
    resources := layout.used
    buffers := buffers ++ [ring]
    groups := groups ++ [some ringGroup]
    router
    handshake := setup.handshake
    transfers := setup.transfers
    descriptor := setup.descriptor.addRing ringEntry dummyOffset }

end ProgramConfig

end ComputePlanner
