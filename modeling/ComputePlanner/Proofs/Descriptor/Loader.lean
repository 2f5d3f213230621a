import ComputePlanner.Descriptor.Constants
import ComputePlanner.Descriptor.Program
import ComputePlanner.Proofs.Artifact.Reading

/-! # What the loader reads
The two descriptors of the loader are read word by word. Readings of both are taken apart here: which
bytes they take for a result (`ConstantsDescriptor.reading_eq_ok_iff`,
`ProgramDescriptor.reading_eq_ok_iff`). A reader of the program descriptor is more generous than its
writer: it lets the table of buffers start behind the header, and takes any word but 0 for the flag
of a partial transfer.

Main statements: **`ConstantsDescriptor.decode_encode`** and **`ProgramDescriptor.decode_encode`**,
what is written is read back. -/

namespace ComputePlanner

variable {c c' : Cursor}

open Artifact Reading

/-! ## The constants descriptor -/

namespace ConstantsDescriptor

/-- A byte that passes for a flag is one. -/
theorem flagByte_decide {b : UInt8} (flag : ¬1 < b) : flagByte (decide (b = 1)) = b := by
  have either : b = 0 ∨ b = 1 := by
    rw [UInt8.lt_iff_toNat_lt, UInt8.toNat_one] at flag
    rw [← UInt8.toNat_inj, ← UInt8.toNat_inj, UInt8.toNat_zero, UInt8.toNat_one]
    omega
  rcases either with rfl | rfl
  · rfl
  · rfl

/-- A reading takes the two sizes and the two flags. -/
theorem reading_eq_ok_iff {d : ConstantsDescriptor} :
    reading c = .ok (d, c') ↔
      c.Took (word64 d.staticSize ++ word64 d.dynamicSize
        ++ [flagByte d.staticEcc, flagByte d.dynamicEcc]) c' := by
  have flags : [flagByte d.staticEcc, flagByte d.dynamicEcc]
      = [flagByte d.staticEcc] ++ [flagByte d.dynamicEcc] := rfl
  simp only [reading, bind_eq_ok_iff, read_u64_eq_ok_iff, read_byte_eq_ok_iff, check_eq_ok_iff,
    pure_eq_ok_iff, flags, List.append_assoc, Cursor.took_append]
  constructor
  · rintro ⟨staticSize, c₁, h₁, dynamicSize, c₂, h₂, staticEcc, c₃, h₃, dynamicEcc, c₄, h₄, valid,
      rfl, rfl⟩
    rw [not_or] at valid
    dsimp only
    rw [flagByte_decide valid.1, flagByte_decide valid.2]
    exact ⟨c₁, h₁, c₂, h₂, c₃, h₃, h₄⟩
  · rintro ⟨c₁, h₁, c₂, h₂, c₃, h₃, h₄⟩
    refine ⟨_, c₁, h₁, _, c₂, h₂, _, c₃, h₃, _, c', h₄, ?_, ?_, rfl⟩
    · cases d.staticEcc <;> cases d.dynamicEcc <;> decide
    · obtain ⟨staticSize, dynamicSize, staticEcc, dynamicEcc⟩ := d
      cases staticEcc <;> cases dynamicEcc <;> rfl

/-- **A constants descriptor is read back.** -/
@[simp] theorem decode_encode (d : ConstantsDescriptor) : decode d.encode = .ok d := by
  rw [decode, if_pos (length_encode d), run_eq_ok_iff]
  simp only [reading_eq_ok_iff, Cursor.took_start_iff]
  exact ⟨_, rfl⟩

end ConstantsDescriptor

/-! ## Entries of the program descriptor -/

namespace BufferEntry

/-- A memory is the only one with its number. -/
theorem locationOfCode?_eq_some_iff {v : UInt32} {s : AddressSpace} :
    locationOfCode? v = some s ↔ v = locationCode s := by
  constructor
  · intro known
    unfold locationOfCode? at known
    split at known <;> cases known <;> rfl
  · rintro rfl
    exact locationOfCode?_locationCode s

/-- A role is the only one with its number. -/
theorem roleOfCode?_eq_some_iff {v : UInt32} {r : BufferRole} :
    roleOfCode? v = some r ↔ v = roleCode r := by
  constructor
  · intro known
    unfold roleOfCode? at known
    split at known <;> cases known <;> rfl
  · rintro rfl
    exact roleOfCode?_roleCode r

/-- A value that must be there takes nothing. -/
theorem expect_eq_ok_iff {α : Type} {fault : FormatError} {o : Option α} {a : α} :
    expect fault o c = .ok (a, c') ↔ o = some a ∧ c = c' := by
  cases o with
  | some a' =>
    rw [expect, pure_eq_ok_iff, Option.some.injEq]
  | none => exact iff_of_false nofun nofun

/-- The written form up to the flag of a partial transfer. -/
def encodeFront (b : BufferEntry) : Bytes :=
  word32 (locationCode b.location) ++ word32 b.offset ++ word32 b.size ++ word16 b.waitSlot
    ++ word16 b.doneSlot ++ word32 b.waitValue ++ word32 b.doneValue ++ word16 b.transferGroup
    ++ word16 b.doneGroup ++ word16 b.group ++ word16 b.cores ++ word32 (roleCode b.role)

/-- The forms that are read as an entry: any word but 0 is a set flag. -/
def Form (b : BufferEntry) (form : Bytes) : Prop :=
  ∃ flag : UInt32, b.allowPartial = decide (flag ≠ 0) ∧ form = b.encodeFront ++ word32 flag

/-- The written form is one of them. -/
theorem form_encode (b : BufferEntry) : b.Form b.encode := by
  refine ⟨if b.allowPartial then 1 else 0, ?_, rfl⟩
  cases b.allowPartial <;> rfl

/-- A reading takes a form of its entry. -/
theorem reading_eq_ok_iff {b : BufferEntry} :
    reading c = .ok (b, c') ↔ ∃ form, b.Form form ∧ c.Took form c' := by
  have forms : (∃ form, b.Form form ∧ c.Took form c') ↔
      ∃ flag : UInt32, b.allowPartial = decide (flag ≠ 0) ∧
        c.Took (b.encodeFront ++ word32 flag) c' := by
    constructor
    · rintro ⟨form, ⟨flag, means, rfl⟩, took⟩
      exact ⟨flag, means, took⟩
    · rintro ⟨flag, means, took⟩
      exact ⟨_, ⟨flag, means, rfl⟩, took⟩
  rw [forms]
  simp only [reading, encodeFront, bind_eq_ok_iff, read_u16_eq_ok_iff, read_u32_eq_ok_iff,
    expect_eq_ok_iff, locationOfCode?_eq_some_iff, roleOfCode?_eq_some_iff, pure_eq_ok_iff,
    List.append_assoc, Cursor.took_append]
  -- the words in their order; behind the two codes stands what they are codes of
  constructor
  · rintro ⟨_, c₁, h₁, location, _, ⟨rfl, rfl⟩, offset, c₂, h₂, size, c₃, h₃, waitSlot, c₄, h₄,
      doneSlot, c₅, h₅, waitValue, c₆, h₆, doneValue, c₇, h₇, transferGroup, c₈, h₈, doneGroup, c₉,
      h₉, group, c₁₀, h₁₀, cores, c₁₁, h₁₁, _, c₁₂, h₁₂, role, _, ⟨rfl, rfl⟩, flag, c₁₃, h₁₃, rfl,
      rfl⟩
    exact ⟨flag, rfl, c₁, h₁, c₂, h₂, c₃, h₃, c₄, h₄, c₅, h₅, c₆, h₆, c₇, h₇, c₈, h₈, c₉, h₉, c₁₀,
      h₁₀, c₁₁, h₁₁, c₁₂, h₁₂, h₁₃⟩
  · rintro ⟨flag, means, c₁, h₁, c₂, h₂, c₃, h₃, c₄, h₄, c₅, h₅, c₆, h₆, c₇, h₇, c₈, h₈, c₉, h₉,
      c₁₀, h₁₀, c₁₁, h₁₁, c₁₂, h₁₂, h₁₃⟩
    refine ⟨_, c₁, h₁, _, _, ⟨rfl, rfl⟩, _, c₂, h₂, _, c₃, h₃, _, c₄, h₄, _, c₅, h₅, _, c₆, h₆, _,
      c₇, h₇, _, c₈, h₈, _, c₉, h₉, _, c₁₀, h₁₀, _, c₁₁, h₁₁, _, c₁₂, h₁₂, _, _, ⟨rfl, rfl⟩, flag,
      c', h₁₃, ?_, rfl⟩
    rw [← means]

end BufferEntry

/-! ## The program descriptor -/

namespace ProgramDescriptor

/-- A header that says of the whole how long it is and where the buffers start. -/
def header (d : ProgramDescriptor) (size tableOffset : UInt32) : Bytes :=
  word16 layoutVersion ++ word16 d.exitSlot ++ word32 size ++ word32 d.threads
    ++ word16 (count16 d.buffers.length) ++ word16 (count16 (d.countOf .input))
    ++ word16 (count16 (d.countOf .output)) ++ word16 (count16 (d.countOf .internal))
    ++ word16 d.inputSemaphore ++ word16 d.outputSemaphore ++ word16 (d.coresOf .input)
    ++ word16 (d.coresOf .output) ++ word32 tableOffset ++ word32 d.ringIndex
    ++ word32 d.dummyOffset

/-- The header that is written. -/
theorem encodeHeader_eq (d : ProgramDescriptor) :
    d.encodeHeader = d.header (clamp32 d.encodedSize) (UInt32.ofNat headerSize) := rfl

/-- A reading takes a header that agrees with the rest, what is skipped, and a form of each buffer. -/
theorem reading_eq_ok_iff {d : ProgramDescriptor} {length : Nat} :
    reading length c = .ok (d, c') ↔
      ∃ (size tableOffset : UInt32) (skipped : Bytes) (forms : List Bytes),
        d.buffers.length < 2 ^ 16 ∧
        (size.toNat = length ∧
          size.toNat = tableOffset.toNat + d.buffers.length * BufferEntry.encodedSize) ∧
        skipped.length = tableOffset.toNat - headerSize ∧
        List.Forall₂ BufferEntry.Form d.buffers forms ∧
        c.Took (d.header size tableOffset ++ skipped ++ forms.flatten) c' := by
  simp only [reading, header, bind_eq_ok_iff, read_u16_eq_ok_iff, read_u32_eq_ok_iff,
    read_take_eq_ok_iff, check_eq_ok_iff, guard_eq_ok_iff,
    times_eq_ok_iff fun _ _ _ => BufferEntry.reading_eq_ok_iff,
    List.append_assoc, Cursor.took_append]
  -- the words of the header in their order, then the check of the lengths, then the table
  constructor
  · rintro ⟨_, c₁, h₁, version, exitSlot, c₂, h₂, size, c₃, h₃, threads, c₄, h₄, count, c₅, h₅,
      inputs, c₆, h₆, outputs, c₇, h₇, internals, c₈, h₈, inputSemaphore, c₉, h₉, outputSemaphore,
      c₁₀, h₁₀, inputCores, c₁₁, h₁₁, outputCores, c₁₂, h₁₂, tableOffset, c₁₃, h₁₃, ringIndex, c₁₄,
      h₁₄, dummyOffset, c₁₅, h₁₅, lengths, skipped, c₁₆, ⟨skips, h₁₆⟩, buffers, c₁₇,
      ⟨counted, forms, each, h₁₇⟩, ⟨rfl, rfl, rfl, rfl, rfl⟩, rfl, rfl⟩
    obtain rfl := not_not.mp version
    rw [not_or, not_not, not_not, ← counted] at lengths
    have number : count16 buffers.length = count := by
      rw [counted, count16, UInt16.ofNat_toNat]
    have small : buffers.length < 2 ^ 16 := counted ▸ count.toNat_lt
    dsimp only
    rw [number]
    exact ⟨size, tableOffset, skipped, forms, small, lengths, skips, each, c₁, h₁, c₂, h₂, c₃, h₃,
      c₄, h₄, c₅, h₅, c₆, h₆, c₇, h₇, c₈, h₈, c₉, h₉, c₁₀, h₁₀, c₁₁, h₁₁, c₁₂, h₁₂, c₁₃, h₁₃, c₁₄,
      h₁₄, c₁₅, h₁₅, c₁₆, h₁₆, h₁₇⟩
  · rintro ⟨size, tableOffset, skipped, forms, small, lengths, skips, each, c₁, h₁, c₂, h₂, c₃, h₃,
      c₄, h₄, c₅, h₅, c₆, h₆, c₇, h₇, c₈, h₈, c₉, h₉, c₁₀, h₁₀, c₁₁, h₁₁, c₁₂, h₁₂, c₁₃, h₁₃, c₁₄,
      h₁₄, c₁₅, h₁₅, c₁₆, h₁₆, h₁₇⟩
    have number : (count16 d.buffers.length).toNat = d.buffers.length :=
      UInt16.toNat_ofNat_of_lt' small
    refine ⟨_, c₁, h₁, not_not.mpr rfl, _, c₂, h₂, _, c₃, h₃, _, c₄, h₄, _, c₅, h₅, _, c₆, h₆, _,
      c₇, h₇, _, c₈, h₈, _, c₉, h₉, _, c₁₀, h₁₀, _, c₁₁, h₁₁, _, c₁₂, h₁₂, _, c₁₃, h₁₃, _, c₁₄, h₁₄,
      _, c₁₅, h₁₅, ?_, skipped, c₁₆, ⟨skips, h₁₆⟩, d.buffers, c', ⟨number.symm, forms, each, h₁₇⟩,
      ⟨rfl, rfl, rfl, rfl, rfl⟩, rfl, rfl⟩
    rw [not_or, not_not, not_not, number]
    exact lengths

/-- **A program descriptor is read back**, if 16 bits hold the number of its buffers. -/
theorem decode_encode {d : ProgramDescriptor} (few : d.buffers.length < 2 ^ 16) :
    decode d.encode = .ok d := by
  have size : (clamp32 d.encodedSize).toNat = d.encodedSize := by
    rw [toNat_clamp32, encodedSize, headerSize, BufferEntry.encodedSize]
    omega
  have forms (bs : List BufferEntry) :
      List.Forall₂ BufferEntry.Form bs (bs.map BufferEntry.encode) := by
    rw [List.forall₂_map_right_iff]
    exact List.forall₂_same.mpr fun b _ => b.form_encode
  have written : d.encode = d.header (clamp32 d.encodedSize) (UInt32.ofNat headerSize) ++ []
      ++ (d.buffers.map BufferEntry.encode).flatten := by
    rw [encode, encodeHeader_eq, List.append_nil, List.flatMap_def]
  rw [decode, run_eq_ok_iff]
  obtain ⟨c', took⟩ := Cursor.took_start_iff.mpr ⟨[], (List.append_nil d.encode).symm⟩
  refine ⟨c', reading_eq_ok_iff.mpr ⟨clamp32 d.encodedSize, UInt32.ofNat headerSize, [], _, few,
    ⟨?_, ?_⟩, rfl, forms d.buffers, ?_⟩⟩
  · rw [size, length_encode]
  · rw [size]
    rfl
  · rw [← written]
    exact took

end ProgramDescriptor

end ComputePlanner
