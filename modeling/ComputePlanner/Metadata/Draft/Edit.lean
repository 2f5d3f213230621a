import ComputePlanner.Metadata.Draft.Basic

/-! # Edits of a draft
The operations of a draft as data: an **`Edit`** names an operation with its arguments and
**`Draft.apply`** carries it out. A run of edits is a list of them; **`Draft.run`** carries on after
an edit that was refused, as a caller may. -/

namespace ComputePlanner

/-- An operation of a draft with its arguments. -/
inductive Edit
  | cores (count : UInt16)
  | vtcmSize (size : UInt32)
  | l2tcmSize (size : UInt32)
  | name (name : String)
  | semaphores (count : UInt16)
  | initSemaphore (semaphore : UInt16) (value : UInt32)
  | resizeInit (length : Nat)
  | writeInit (offset : UInt64) (data : Bytes)
  | writeInitByte (offset : UInt64) (value : UInt8)
  | writeInitWord (offset : UInt64) (value : UInt32)
  | staticDdr (memory : HostMemory)
  | dynamicDdr (memory : HostMemory)
  | staticConstants (memory : HostMemory)
  | dynamicConstants (memory : HostMemory)
  | singleVtcmPage (single : Bool)
  | heapSize (size : UInt64)
  | heapBehavior (behavior : HeapBehavior)
  | constantsCaching (caching : ConstantsCaching)
  | floatUse (vector matrix : Bool)
  | exitDoorbell (offset : UInt64)
  | port (port : Port)
  | transfer (transfer : Transfer)
  | coreEntry (core : UInt16) (entry : MulticastEntry)
  | hostEntry (entry : HostEntry)
  | thread (thread : Thread)
  | constantMapping (mapping : ConstantMapping)
  | context (contract : ContextContract)
  | requirement (name : String)
  deriving DecidableEq, Repr

namespace Draft

/-- Carries out an edit. -/
def apply (d : Draft) : Edit → Except FormatError Draft
  | .cores count => .ok (d.setCores count)
  | .vtcmSize size => .ok (d.setVtcmSize size)
  | .l2tcmSize size => .ok (d.setL2tcmSize size)
  | .name name => .ok (d.setName name)
  | .semaphores count => .ok (d.declareSemaphores count)
  | .initSemaphore semaphore value => d.initSemaphore semaphore value
  | .resizeInit length => .ok (d.resizeInit length)
  | .writeInit offset data => d.writeInit offset data
  | .writeInitByte offset value => d.writeInitByte offset value
  | .writeInitWord offset value => d.writeInitWord offset value
  | .staticDdr memory => .ok (d.setStaticDdr memory)
  | .dynamicDdr memory => .ok (d.setDynamicDdr memory)
  | .staticConstants memory => .ok (d.setStaticConstants memory)
  | .dynamicConstants memory => .ok (d.setDynamicConstants memory)
  | .singleVtcmPage single => .ok (d.setSingleVtcmPage single)
  | .heapSize size => .ok (d.setHeapSize size)
  | .heapBehavior behavior => .ok (d.setHeapBehavior behavior)
  | .constantsCaching caching => .ok (d.setConstantsCaching caching)
  | .floatUse vector matrix => .ok (d.setFloatUse vector matrix)
  | .exitDoorbell offset => .ok (d.setExitDoorbell offset)
  | .port port => .ok (d.addPort port)
  | .transfer transfer => d.addTransfer transfer
  | .coreEntry core entry => d.addCoreEntry core entry
  | .hostEntry entry => .ok (d.addHostEntry entry)
  | .thread thread => d.addThread thread
  | .constantMapping mapping => d.addConstantMapping mapping
  | .context contract => .ok (d.setContext contract)
  | .requirement name => d.addRequirement name

/-- Carries out edits up to the first that is refused. -/
def applyAll (d : Draft) : List Edit → Except FormatError Draft
  | [] => .ok d
  | e :: edits =>
    match d.apply e with
    | .ok d => applyAll d edits
    | .error error => .error error

/-- The draft after an edit; one that is refused changes nothing. -/
def step (d : Draft) (e : Edit) : Draft :=
  match d.apply e with
  | .ok d => d
  | .error _ => d

/-- The draft after a run of edits. -/
def run (d : Draft) (edits : List Edit) : Draft := edits.foldl step d

end Draft

end ComputePlanner
