/-! # What a buffer is for
The host writes inputs before a batch and reads outputs after it; internal buffers never leave the
device. -/

namespace ComputePlanner

/-- Who uses a buffer. -/
inductive BufferRole
  /-- Written by the host. -/
  | input
  /-- Read by the host. -/
  | output
  /-- Private to the device. -/
  | internal
  deriving DecidableEq, Repr

end ComputePlanner
