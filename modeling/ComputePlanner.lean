import ComputePlanner.Artifact.Error
import ComputePlanner.Artifact.Reading
import ComputePlanner.Binary.Rounding
import ComputePlanner.Buffer.Basic
import ComputePlanner.Buffer.ElementType
import ComputePlanner.Buffer.Role
import ComputePlanner.Buffer.Spec
import ComputePlanner.Bytes.Cursor
import ComputePlanner.Bytes.LittleEndian
import ComputePlanner.Bytes.Word
import ComputePlanner.Command.Address
import ComputePlanner.Command.Arguments
import ComputePlanner.Command.Error
import ComputePlanner.Command.Grammar
import ComputePlanner.Command.Listing
import ComputePlanner.Command.Run
import ComputePlanner.Command.Usage
import ComputePlanner.Config.Basic
import ComputePlanner.Config.Json
import ComputePlanner.Container.Basic
import ComputePlanner.Container.Codec
import ComputePlanner.Container.Draft
import ComputePlanner.Decimal.Scaled
import ComputePlanner.Decimal.Shortest
import ComputePlanner.Descriptor.Constants
import ComputePlanner.Descriptor.Network.Basic
import ComputePlanner.Descriptor.Network.Json
import ComputePlanner.Descriptor.Program
import ComputePlanner.Elf.EntryPoint
import ComputePlanner.Elf.Format
import ComputePlanner.Elf.Header
import ComputePlanner.Elf.Loading
import ComputePlanner.Elf.Symbols
import ComputePlanner.Files.Path
import ComputePlanner.Files.Store
import ComputePlanner.Files.Tree
import ComputePlanner.Hardware.ContextBlock
import ComputePlanner.Hardware.Core
import ComputePlanner.Hardware.Memory
import ComputePlanner.Hardware.TransferDescriptor
import ComputePlanner.InitImage
import ComputePlanner.Json.Basic
import ComputePlanner.Json.Decode
import ComputePlanner.Json.Parse
import ComputePlanner.Json.Render
import ComputePlanner.Json.Single
import ComputePlanner.Json.Token
import ComputePlanner.Main
import ComputePlanner.Metadata.Basic
import ComputePlanner.Metadata.Codec
import ComputePlanner.Metadata.Codes
import ComputePlanner.Metadata.Draft.Basic
import ComputePlanner.Metadata.Draft.Edit
import ComputePlanner.Metadata.Dump
import ComputePlanner.Metadata.Read
import ComputePlanner.Metadata.Schema
import ComputePlanner.Plan.Artifacts
import ComputePlanner.Plan.Basic
import ComputePlanner.Plan.Error
import ComputePlanner.Plan.Handshake
import ComputePlanner.Plan.Layout
import ComputePlanner.Plan.Multicast
import ComputePlanner.Plan.Package
import ComputePlanner.Plan.Reservation
import ComputePlanner.Plan.Resolve
import ComputePlanner.Plan.Transfers
import ComputePlanner.Proofs.Artifact.Reading
import ComputePlanner.Proofs.Bytes.Cursor
import ComputePlanner.Proofs.Bytes.Place
import ComputePlanner.Proofs.Calls
import ComputePlanner.Proofs.Container.Building
import ComputePlanner.Proofs.Container.Edits
import ComputePlanner.Proofs.Container.Layout
import ComputePlanner.Proofs.Container.RoundTrip
import ComputePlanner.Proofs.Container.Table
import ComputePlanner.Proofs.Container.Truncation
import ComputePlanner.Proofs.Container.Writing
import ComputePlanner.Proofs.Descriptor.Loader
import ComputePlanner.Proofs.Descriptor.Network
import ComputePlanner.Proofs.Descriptor.Program
import ComputePlanner.Proofs.Descriptor.RoundTrip
import ComputePlanner.Proofs.Except
import ComputePlanner.Proofs.Handshake.Invariant
import ComputePlanner.Proofs.Handshake.Masks
import ComputePlanner.Proofs.Handshake.Program
import ComputePlanner.Proofs.Handshake.System
import ComputePlanner.Proofs.InitImage.Complement
import ComputePlanner.Proofs.InitImage.Partition
import ComputePlanner.Proofs.InitImage.Regions
import ComputePlanner.Proofs.InitImage.ZeroRuns
import ComputePlanner.Proofs.Json.Fields
import ComputePlanner.Proofs.Json.Numerals
import ComputePlanner.Proofs.Json.RoundTrip
import ComputePlanner.Proofs.Json.Tokens
import ComputePlanner.Proofs.Metadata.Consistency
import ComputePlanner.Proofs.Metadata.Decoding
import ComputePlanner.Proofs.Metadata.Delimiting
import ComputePlanner.Proofs.Metadata.Edits
import ComputePlanner.Proofs.Metadata.Features
import ComputePlanner.Proofs.Metadata.Finishing
import ComputePlanner.Proofs.Metadata.ForwardCompatibility
import ComputePlanner.Proofs.Metadata.ImageWrites
import ComputePlanner.Proofs.Metadata.InPlace
import ComputePlanner.Proofs.Metadata.Lengths
import ComputePlanner.Proofs.Metadata.Paths
import ComputePlanner.Proofs.Metadata.Refusals
import ComputePlanner.Proofs.Metadata.Requirements
import ComputePlanner.Proofs.Metadata.RoundTrip
import ComputePlanner.Proofs.Metadata.Semaphores
import ComputePlanner.Proofs.Metadata.Vocabulary
import ComputePlanner.Proofs.Plan.Acceptance
import ComputePlanner.Proofs.Plan.Agreement
import ComputePlanner.Proofs.Plan.Document
import ComputePlanner.Proofs.Plan.Doorbells
import ComputePlanner.Proofs.Plan.Generation
import ComputePlanner.Proofs.Plan.Groups
import ComputePlanner.Proofs.Plan.InitImage
import ComputePlanner.Proofs.Plan.Layout
import ComputePlanner.Proofs.Plan.Memory
import ComputePlanner.Proofs.Plan.Multicast
import ComputePlanner.Proofs.Plan.Offering
import ComputePlanner.Proofs.Plan.Package
import ComputePlanner.Proofs.Plan.Placement
import ComputePlanner.Proofs.Plan.Reservation
import ComputePlanner.Proofs.Plan.Resolvable
import ComputePlanner.Proofs.Plan.Resolve
import ComputePlanner.Proofs.Plan.Routing
import ComputePlanner.Proofs.Plan.Setup
import ComputePlanner.Proofs.Plan.Slots
import ComputePlanner.Proofs.Plan.Structure
import ComputePlanner.Proofs.Record.Acceptance
import ComputePlanner.Proofs.Record.Completion
import ComputePlanner.Proofs.Record.Conformance
import ComputePlanner.Proofs.Record.Evolution
import ComputePlanner.Proofs.Record.Fetching
import ComputePlanner.Proofs.Record.Length
import ComputePlanner.Proofs.Record.Reading
import ComputePlanner.Proofs.Record.Reserved
import ComputePlanner.Proofs.Record.RoundTrip
import ComputePlanner.Proofs.Record.Satisfaction
import ComputePlanner.Proofs.Text.Canonical
import ComputePlanner.Proofs.Text.Utf8
import ComputePlanner.Record.Access
import ComputePlanner.Record.Basic
import ComputePlanner.Record.Parse
import ComputePlanner.Record.Schema
import ComputePlanner.Text.Hidden
import ComputePlanner.Text.Numeral
import ComputePlanner.Text.Quoted
import ComputePlanner.Text.Similar
import ComputePlanner.Text.Utf8
