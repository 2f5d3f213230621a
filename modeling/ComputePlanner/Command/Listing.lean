import ComputePlanner.Command.Error
import ComputePlanner.Descriptor.Network.Json
import ComputePlanner.Metadata.Read
import ComputePlanner.Plan.Artifacts
import ComputePlanner.Text.Numeral

/-! # Listings
What commands print about a program: a summary of its plan, the images of a container, and the
descriptors among them. Columns are filled up with spaces to a least width; a longer text pushes the
rest of its line to the right.

A container is listed in **sections**, one for its images and one for each descriptor that it holds.
A damaged descriptor costs its own section and those behind it, not the ones in front. -/

namespace ComputePlanner

/-- The line of a plan's property. -/
def summaryLine (label text : String) : String := "  " ++ padRight 14 label ++ text ++ "\n"

/-- The summary of a plan whose artifacts are in a folder. -/
def planSummary (name : String) (entryPoint : UInt64) (md : Metadata) (folder : String) : String :=
  s!"Planned {name} for {md.cores} cores\n"
    ++ summaryLine "entry point" (hex entryPoint.toNat)
    ++ summaryLine "L2TCM" s!"{md.l2tcmSize} bytes"
    ++ summaryLine "VTCM" s!"{md.vtcmSize} bytes"
    ++ summaryLine "shared DDR" s!"{md.staticDdr.size} bytes"
    ++ summaryLine "DMA requests" s!"{md.transfers.length}"
    ++ s!"Artifacts written to {folder}\n"

/-- The summary of a package in a file. -/
def packageSummary (c : Container) (output : String) : String :=
  s!"Packaged {c.images.length} images into {output}\n"

/-- The line of an image. -/
def Image.line (i : Image) : String :=
  "  " ++ padRight 20 i.name ++ " " ++ padLeft 12 ' ' (toString i.data.length)
    ++ s!" bytes  offset {i.offset}\n"

/-- The images of a container. -/
def Container.listing (c : Container) : String :=
  s!"Images: {c.images.length}\n" ++ String.join (c.images.map (·.line))

/-- How a memory is listed as the place of a buffer. -/
def AddressSpace.label : AddressSpace → String
  | l2tcm => "L2tcm"
  | vtcm => "Vtcm"
  | ddr => "Ddr"

/-- How a role is listed. -/
def BufferRole.label : BufferRole → String
  | input => "Input"
  | output => "Output"
  | internal => "Internal"

/-- The line of a buffer with its place in the descriptor. -/
def BufferEntry.line (number : Nat) (b : BufferEntry) : String :=
  s!"  [{number}] {b.role.label} {b.location.label} offset {hex b.offset.toNat} size {b.size} "
    ++ s!"mask {hex b.cores.toNat} mc {b.group} doorbell {b.waitSlot}\n"

/-- A program descriptor. -/
def ProgramDescriptor.listing (d : ProgramDescriptor) : String :=
  s!"Program: {d.threads} threads, exit doorbell {d.exitSlot}, "
    ++ s!"semaphores in={d.inputSemaphore} out={d.outputSemaphore}\n"
    ++ s!"  UDMA ring buffer {d.ringIndex} (dummy descriptor at {hex d.dummyOffset.toNat})\n"
    ++ String.join (d.buffers.mapIdx BufferEntry.line)

/-- A constants descriptor. -/
def ConstantsDescriptor.listing (d : ConstantsDescriptor) : String :=
  s!"Constants: static {d.staticSize} dynamic {d.dynamicSize}\n"

/-- The line of a tensor. -/
def Tensor.line (t : Tensor) : String :=
  s!"  {padRight 16 t.name} {t.initial.type.label} {bracketed (t.initial.dims.map toString)}\n"

/-- A network descriptor; its inputs are listed before its outputs. -/
def NetworkDescriptor.listing (d : NetworkDescriptor) : String :=
  s!"Network {d.name} v{d.major}.{d.minor}: {d.cores} cores, {d.threads} threads "
    ++ s!"({d.vectorThreads} HVX)\n" ++ String.join ((d.inputs ++ d.outputs).map (·.line))

/-- The section of a descriptor, if a container has an image of it. -/
def Container.descriptorSection (c : Container) (name : String) (task : Task)
    (listing : Bytes → Except CommandError String) : List (Except CommandError String) :=
  match c.image? name with
  | some image => [(task.label (listing image.data)).map ("\n" ++ ·)]
  | none => []

open CommandError in
/-- The sections of a container. -/
def Container.sections (c : Container) : List (Except CommandError String) :=
  [.ok c.listing]
    ++ c.descriptorSection Image.constantsName .programDescriptor
        (fun data => (handling (ProgramDescriptor.decode data)).map (·.listing))
    ++ c.descriptorSection Image.constantsSizesName .constantsDescriptor
        (fun data => (handling (ConstantsDescriptor.decode data)).map (·.listing))
    ++ c.descriptorSection Image.networkName .networkDescriptor
        (fun data => (planning (NetworkDescriptor.decode data)).map (·.listing))

end ComputePlanner
