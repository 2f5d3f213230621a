import ComputePlanner.Metadata.Basic

/-! # Codes of enumerated fields
Each enumerated field of the metadata document is written as one byte and listed by name. For every
enumeration there is its code, the value of a code (none for a code that is not defined) and its
name. Reading a code that was written gives the value back. -/

namespace ComputePlanner

namespace SyncPoint

/-- The code of a point. -/
def code : SyncPoint → UInt8
  | pre => 0
  | post => 1

/-- The point of a code: every code but 0 means after the transfer. -/
def ofCode (c : UInt8) : SyncPoint := if c = 0 then pre else post

@[simp] theorem ofCode_code (p : SyncPoint) : ofCode p.code = p := by cases p <;> rfl

/-- The name of a point. -/
def name : SyncPoint → String
  | pre => "Pre"
  | post => "Post"

end SyncPoint

namespace SemaphoreAction

/-- The code of an action. -/
def code : SemaphoreAction → UInt8
  | nop => 0
  | init => 1
  | inc => 2
  | dec => 3
  | waitEq => 4
  | waitGe => 5
  | waitDec => 6

/-- The action of a code. -/
def ofCode? (c : UInt8) : Option SemaphoreAction :=
  match c.toNat with
  | 0 => some nop
  | 1 => some init
  | 2 => some inc
  | 3 => some dec
  | 4 => some waitEq
  | 5 => some waitGe
  | 6 => some waitDec
  | _ => none

@[simp] theorem ofCode?_code (x : SemaphoreAction) : ofCode? x.code = some x := by cases x <;> rfl

/-- The name of an action. -/
def name : SemaphoreAction → String
  | nop => "Nop"
  | init => "Init"
  | inc => "Inc"
  | dec => "Dec"
  | waitEq => "WaitEq"
  | waitGe => "WaitGe"
  | waitDec => "WaitDec"

end SemaphoreAction

namespace DoorbellWidth

/-- The code of a width. -/
def code : DoorbellWidth → UInt8
  | bits8 => 0
  | bits16 => 1
  | bits32 => 2

/-- The width of a code. -/
def ofCode? (c : UInt8) : Option DoorbellWidth :=
  match c.toNat with
  | 0 => some bits8
  | 1 => some bits16
  | 2 => some bits32
  | _ => none

@[simp] theorem ofCode?_code (x : DoorbellWidth) : ofCode? x.code = some x := by cases x <;> rfl

/-- The name of a width. -/
def name : DoorbellWidth → String
  | bits8 => "Bits8"
  | bits16 => "Bits16"
  | bits32 => "Bits32"

/-- Bytes that a write covers. -/
def bytes : DoorbellWidth → Nat
  | bits8 => 1
  | bits16 => 2
  | bits32 => 4

end DoorbellWidth

namespace DeviceSpace

/-- The code of a device memory. -/
def code : DeviceSpace → UInt8
  | multicast => 0
  | ddr => 1
  | dynamicDdr => 2

/-- The device memory of a code. -/
def ofCode? (c : UInt8) : Option DeviceSpace :=
  match c.toNat with
  | 0 => some multicast
  | 1 => some ddr
  | 2 => some dynamicDdr
  | _ => none

@[simp] theorem ofCode?_code (x : DeviceSpace) : ofCode? x.code = some x := by cases x <;> rfl

/-- The name of a device memory. -/
def name : DeviceSpace → String
  | multicast => "Multicast"
  | ddr => "Ddr"
  | dynamicDdr => "DdrDynamicShared"

end DeviceSpace

namespace Direction

/-- The code of a direction. -/
def code : Direction → UInt8
  | inward => 0
  | outward => 1

/-- The direction of a code. -/
def ofCode? (c : UInt8) : Option Direction :=
  match c.toNat with
  | 0 => some inward
  | 1 => some outward
  | _ => none

@[simp] theorem ofCode?_code (x : Direction) : ofCode? x.code = some x := by cases x <;> rfl

/-- The name of a direction. -/
def name : Direction → String
  | inward => "In"
  | outward => "Out"

end Direction

namespace CoreMemory

/-- The code of a core memory. -/
def code : CoreMemory → UInt8
  | l2tcm => 0
  | vtcm => 1

/-- The core memory of a code. -/
def ofCode? (c : UInt8) : Option CoreMemory :=
  match c.toNat with
  | 0 => some l2tcm
  | 1 => some vtcm
  | _ => none

@[simp] theorem ofCode?_code (x : CoreMemory) : ofCode? x.code = some x := by cases x <;> rfl

/-- The name of a core memory. -/
def name : CoreMemory → String
  | l2tcm => "L2tcm"
  | vtcm => "Vtcm"

end CoreMemory

namespace PortType

/-- The code of a port type. -/
def code : PortType → UInt8
  | user => 0
  | peer => 1

/-- The port type of a code. -/
def ofCode? (c : UInt8) : Option PortType :=
  match c.toNat with
  | 0 => some user
  | 1 => some peer
  | _ => none

@[simp] theorem ofCode?_code (x : PortType) : ofCode? x.code = some x := by cases x <;> rfl

/-- The name of a port type. -/
def name : PortType → String
  | user => "UserIo"
  | peer => "P2p"

end PortType

namespace HeapBehavior

/-- The code of a behaviour. -/
def code : HeapBehavior → UInt8
  | free => 0
  | retain => 1

/-- The behaviour of a code. -/
def ofCode? (c : UInt8) : Option HeapBehavior :=
  match c.toNat with
  | 0 => some free
  | 1 => some retain
  | _ => none

@[simp] theorem ofCode?_code (x : HeapBehavior) : ofCode? x.code = some x := by cases x <;> rfl

/-- The name of a behaviour. -/
def name : HeapBehavior → String
  | free => "Free"
  | retain => "Retain"

end HeapBehavior

namespace ConstantsCaching

/-- The code of a setting. -/
def code : ConstantsCaching → UInt8
  | disabled => 0
  | enabled => 1

/-- The setting of a code. -/
def ofCode? (c : UInt8) : Option ConstantsCaching :=
  match c.toNat with
  | 0 => some disabled
  | 1 => some enabled
  | _ => none

@[simp] theorem ofCode?_code (x : ConstantsCaching) : ofCode? x.code = some x := by cases x <;> rfl

/-- The name of a setting. -/
def name : ConstantsCaching → String
  | disabled => "Disabled"
  | enabled => "Enabled"

end ConstantsCaching

end ComputePlanner
