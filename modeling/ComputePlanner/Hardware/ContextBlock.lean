/-! # The context block
The runtime hands every thread a pointer to a block of base addresses and service entry points. Its
layout is fixed for pointers of four bytes; the two slots of eight bytes are naturally aligned. A
program carries this table so that a runtime can refuse one that expects a slot it does not have. -/

namespace ComputePlanner

/-- A slot of the context block. -/
structure ContextSlot where
  /-- The name the runtime knows the slot by. -/
  name : String
  /-- Where the slot lies in the block. -/
  offset : UInt32
  /-- Bytes of the slot. -/
  size : UInt32
  deriving DecidableEq, Repr

/-- The slots: the version, base addresses, runtime services and the dynamic loader. -/
def contextSlots : List ContextSlot :=
  [⟨"execContextMajorVersion", 0, 2⟩, ⟨"execContextMinorVersion", 2, 2⟩, ⟨"virtualNSPId", 4, 1⟩,
    ⟨"baseL2TCM", 8, 4⟩, ⟨"baseVTCM", 12, 4⟩, ⟨"baseConstantDataMem", 16, 4⟩,
    ⟨"baseSharedDDR", 20, 4⟩, ⟨"baseL2CachedDDR", 24, 4⟩, ⟨"mcAddresses", 28, 4⟩,
    ⟨"startTimeStamp", 32, 8⟩, ⟨"logFuncPtr", 40, 4⟩, ⟨"exitThread", 44, 4⟩,
    ⟨"setPMUReg", 48, 4⟩, ⟨"errFuncPtr", 52, 4⟩, ⟨"notifyHangPtr", 56, 4⟩,
    ⟨"udmaReadFuncPtr", 60, 4⟩, ⟨"mmapFuncPtr", 64, 4⟩, ⟨"munmapFuncPtr", 68, 4⟩,
    ⟨"qdssSTMPortVaddr", 72, 4⟩, ⟨"readPMUCnt", 76, 4⟩, ⟨"ddrBWMonRegVaddr", 80, 4⟩,
    ⟨"semaphoreListPtr", 84, 4⟩, ⟨"networkHeapAddr", 88, 4⟩, ⟨"networkHeapSize", 96, 8⟩,
    ⟨"reprogMcidFuncPtr", 104, 4⟩, ⟨"dlOpenPtr", 108, 4⟩, ⟨"dlOpenbufPtr", 112, 4⟩,
    ⟨"dlClosePtr", 116, 4⟩, ⟨"dlSymPtr", 120, 4⟩, ⟨"dlAddrPtr", 124, 4⟩,
    ⟨"dlErrorPtr", 128, 4⟩, ⟨"dlInfoPtr", 132, 4⟩, ⟨"baseUtcOffsetDDR", 136, 4⟩]

/-- Major version of the layout. -/
def contextMajor : UInt16 := 1

/-- Minor version of the layout. -/
def contextMinor : UInt16 := 0

/-- Bytes of the block: the furthest end of a slot. -/
def contextBlockSize : UInt32 :=
  contextSlots.foldl (fun size slot => max size (slot.offset + slot.size)) 0

end ComputePlanner
