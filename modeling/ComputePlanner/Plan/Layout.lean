import ComputePlanner.Plan.Error
import ComputePlanner.Plan.Reservation

/-! # Placing buffers
Buffers say themselves where they lie; placing them means to keep clear of the reserved part and to
note how much of each memory is used. A memory is used up to the furthest end of a buffer in it, so
the order of the buffers does not matter.

Main definitions: **`Resources`**, **`Layout`**, **`Layout.place`** and **`Layout.placeAll`**. -/

namespace ComputePlanner

/-- Bytes used of each memory. -/
structure Resources where
  /-- Of the scratch memory of each core, with the reserved part. -/
  l2tcm : Nat
  /-- Of the vector memory of each core. -/
  vtcm : Nat
  /-- Of the memory off the chip. -/
  ddr : Nat
  deriving DecidableEq, Repr

namespace Resources

/-- Bytes used of one memory. -/
def used (r : Resources) : AddressSpace → Nat
  | .l2tcm => r.l2tcm
  | .vtcm => r.vtcm
  | .ddr => r.ddr

/-- Uses a memory up to `stop`. -/
def raise (r : Resources) (space : AddressSpace) (stop : Nat) : Resources :=
  match space with
  | .l2tcm => { r with l2tcm := max r.l2tcm stop }
  | .vtcm => { r with vtcm := max r.vtcm stop }
  | .ddr => { r with ddr := max r.ddr stop }

end Resources

/-- The reserved part and what is used. -/
structure Layout where
  reservation : Reservation
  used : Resources
  deriving DecidableEq, Repr

namespace Layout

/-- A layout without buffers. The runtime refuses memories of no bytes, so each memory on the chip
has at least one. -/
def ofReservation (r : Reservation) : Layout := ⟨r, ⟨max r.stop 1, 1, 0⟩⟩

/-- Checks that a memory is large enough for what is used of it, on account of a buffer. -/
def checkCapacity (l : Layout) (b : Buffer) : Except BufferFault Unit :=
  match b.space.capacity? with
  | none => .ok ()
  | some capacity =>
    let used := l.used.used b.space
    if capacity < used then .error (.capacity used b.space capacity) else .ok ()

/-- Places a buffer. One that begins in the reserved part is turned away; every other counts as used
memory, even if it turns out to need too much of it. -/
def place (l : Layout) (b : Buffer) : Layout × Except ConfigFault Unit :=
  if b.space = .l2tcm ∧ b.start < l.reservation.stop then
    (l, .error (.buffer b.name (.reserved b.start l.reservation.stop)))
  else
    let l := { l with used := l.used.raise b.space b.stop }
    (l, (l.checkCapacity b).mapError (.buffer b.name))

/-- Places buffers up to the first that cannot be placed. -/
def placeAll (l : Layout) : List Buffer → Except ConfigFault Layout
  | [] => .ok l
  | b :: bs =>
    match l.place b with
    | (l, .ok ()) => placeAll l bs
    | (_, .error e) => .error e

end Layout

end ComputePlanner
