import ComputePlanner.Container.Codec
import ComputePlanner.Proofs.Artifact.Reading
import ComputePlanner.Proofs.Bytes.Place
import ComputePlanner.Proofs.Text.Canonical
import Mathlib.Algebra.Order.Ring.Nat

/-! # Containers are read back
A container's table says where the data of each image lies, and a reader looks there, whatever else
the buffer holds. So reading an entry is a statement about two places at once: the bytes that are
taken off the table and the part of the buffer that they point to (**`Container.EntryForm`**).

Main statements:
* **`Container.decode_eq_ok_iff`** — what a buffer has to hold to be read as a container;
* **`Container.decode_encode`** — what is written is read back, if the names fit the table. -/

namespace ComputePlanner

namespace Container

variable {c c' : Cursor}

open Artifact Reading

/-! ## Entries -/

/-- The bytes of a table entry that is read as an image out of a buffer: the name in its place, the
offset, and the range of the image's data. -/
def EntryForm (buf : Bytes) (image : Image) (form : Bytes) : Prop :=
  ∃ (place : Bytes) (size position : UInt64),
    place.length = nameSize ∧ place.takeWhile (· ≠ 0) = Utf8.encode image.name ∧
    position.toNat + size.toNat ≤ buf.length ∧
    image.data = (buf.drop position.toNat).take size.toNat ∧
    form = place ++ word64 image.offset ++ word64 size ++ word64 position

/-- Every entry has the same length. -/
theorem EntryForm.length {buf form : Bytes} {image : Image} (entry : EntryForm buf image form) :
    form.length = entrySize := by
  obtain ⟨place, size, position, length, -, -, -, rfl⟩ := entry
  simp only [List.length_append, length_word64, length, entrySize]

/-- A reading takes an entry for its image. -/
theorem readingImage_eq_ok_iff {buf : Bytes} {image : Image} :
    readingImage buf c = .ok (image, c') ↔ ∃ form, EntryForm buf image form ∧ c.Took form c' := by
  simp only [readingImage, EntryForm, bind_eq_ok_iff, read_take_eq_ok_iff, read_u64_eq_ok_iff,
    lift_eq_ok_iff, guard_eq_ok_iff, mapError_eq_ok, Utf8.decode_eq_ok_iff]
  constructor
  · rintro ⟨place, c₁, ⟨length, h₁⟩, name, _, ⟨named, rfl⟩, offset, c₂, h₂, size, c₃, h₃, position,
      c₄, h₄, inside, rfl, rfl⟩
    refine ⟨_, ⟨place, size, position, length, named, inside, rfl, rfl⟩, ?_⟩
    simp only [List.append_assoc, Cursor.took_append]
    exact ⟨c₁, h₁, c₂, h₂, c₃, h₃, h₄⟩
  · rintro ⟨_, ⟨place, size, position, length, named, inside, data, rfl⟩, took⟩
    simp only [List.append_assoc, Cursor.took_append] at took
    obtain ⟨c₁, h₁, c₂, h₂, c₃, h₃, h₄⟩ := took
    refine ⟨place, c₁, ⟨length, h₁⟩, _, _, ⟨named, rfl⟩, _, c₂, h₂, size, c₃, h₃, position, c', h₄,
      inside, ?_, rfl⟩
    rw [← data]

/-- The table has the same length for each image. -/
theorem length_flatten_of_forall₂ {buf : Bytes} {images : List Image} {forms : List Bytes}
    (each : List.Forall₂ (EntryForm buf) images forms) :
    forms.flatten.length = images.length * entrySize := by
  rw [length_flatten_of_width (length_of_forall₂ EntryForm.length each), each.length_eq]

/-! ## Buffers -/

/-- A reading takes as many bytes as the magic number has, the version, the number of images and an
entry for each of them. -/
theorem reading_eq_ok_iff {buf : Bytes} {container : Container} :
    reading buf c = .ok (container, c') ↔
      container.images.length < 2 ^ 32 ∧ ∃ (front : Bytes) (forms : List Bytes),
        front.length = magic.length ∧ List.Forall₂ (EntryForm buf) container.images forms ∧
        c.Took (front ++ word32 layoutVersion ++ word32 (clamp32 container.images.length)
          ++ forms.flatten) c' := by
  have clamped {count : Nat} (small : count < 2 ^ 32) : (clamp32 count).toNat = count := by
    rw [toNat_clamp32]
    omega
  simp only [reading, bind_eq_ok_iff, read_take_eq_ok_iff, read_u32_eq_ok_iff, check_eq_ok_iff,
    get_eq_ok_iff, times_eq_ok_iff fun _ _ _ => readingImage_eq_ok_iff, pure_eq_ok_iff,
    List.append_assoc, Cursor.took_append]
  constructor
  · rintro ⟨front, c₁, ⟨length, h₁⟩, _, c₂, h₂, version, count, c₃, h₃, _, _, ⟨rfl, rfl⟩, -, images,
      _, ⟨counted, forms, each, h₄⟩, rfl, rfl⟩
    obtain rfl := not_not.mp version
    have small : images.length < 2 ^ 32 := counted ▸ count.toNat_lt
    have number : clamp32 images.length = count := by
      rw [← UInt32.toNat_inj, clamped small, counted]
    dsimp only
    rw [number]
    exact ⟨small, front, forms, length, each, c₁, h₁, c₂, h₂, c₃, h₃, h₄⟩
  · rintro ⟨small, front, forms, length, each, c₁, h₁, c₂, h₂, c₃, h₃, h₄⟩
    -- the table is there, so there is room for it
    have room : container.images.length ≤ c₃.remaining / entrySize := by
      have table := length_flatten_of_forall₂ each
      have left := h₄.length
      rw [Nat.le_div_iff_mul_le (by decide), ← table, Cursor.remaining, left]
      exact Nat.le_add_right ..
    refine ⟨front, c₁, ⟨length, h₁⟩, _, c₂, h₂, not_not.mpr rfl, _, c₃, h₃, c₃, c₃, ⟨rfl, rfl⟩, ?_,
      container.images, c', ⟨(clamped small).symm, forms, each, h₄⟩, rfl, rfl⟩
    rw [clamped small]
    exact Nat.not_lt_of_le room

/-- What stands in front of the table. -/
def header (count : Nat) : Bytes := magic ++ word32 layoutVersion ++ word32 (clamp32 count)

/-- **What a buffer has to hold to be read as a container**: the header, and an entry for each image,
which may point anywhere in the buffer. -/
theorem decode_eq_ok_iff {buf : Bytes} {container : Container} :
    decode buf = .ok container ↔
      container.images.length < 2 ^ 32 ∧ ∃ (forms : List Bytes) (rest : Bytes),
        List.Forall₂ (EntryForm buf) container.images forms ∧
        buf = header container.images.length ++ forms.flatten ++ rest := by
  rw [decode, header]
  by_cases known : magic.isPrefixOf buf = true
  · rw [if_pos known, run_eq_ok_iff]
    obtain ⟨body, rfl⟩ := List.isPrefixOf_iff_prefix.mp known
    constructor
    · rintro ⟨c', read⟩
      obtain ⟨small, front, forms, length, each, took⟩ := reading_eq_ok_iff.mp read
      refine ⟨small, forms, c'.rest, each, ?_⟩
      have bytes := took.bytes
      simp only [Cursor.start, List.append_assoc] at bytes ⊢
      -- what is taken in place of the magic number is the magic number
      obtain ⟨rfl, -⟩ := List.append_inj bytes length.symm
      exact bytes
    · rintro ⟨small, forms, rest, each, bytes⟩
      obtain ⟨c', took⟩ := Cursor.took_start_iff.mpr ⟨rest, bytes⟩
      exact ⟨c', reading_eq_ok_iff.mpr ⟨small, magic, forms, rfl, each, took⟩⟩
  · rw [if_neg known]
    refine iff_of_false nofun ?_
    rintro ⟨-, forms, rest, -, rfl⟩
    apply known
    rw [List.isPrefixOf_iff_prefix]
    simp only [List.append_assoc]
    exact List.prefix_append ..

/-- Only what starts like a container is read as one. -/
theorem magic_of_decode {buf : Bytes} {container : Container}
    (decoded : decode buf = .ok container) : magic.isPrefixOf buf = true := by
  rw [decode] at decoded
  split at decoded
  · next known => exact known
  · cases decoded

/-! ## What is written -/

/-- A name that fits the table: 64 bytes hold it, and no zero ends it early. -/
structure NameFits (name : String) : Prop where
  length : (Utf8.encode name).length ≤ nameSize
  nonzero : 0 ∉ Utf8.encode name

/-- The entries of images whose data starts at a position, one behind the other. -/
def entriesFrom (position : Nat) : List Image → List Bytes
  | [] => []
  | image :: images =>
    encodeEntry image position :: entriesFrom (position + padded image.data.length) images

/-- They are the table. -/
theorem flatten_entriesFrom (position : Nat) (images : List Image) :
    (entriesFrom position images).flatten = encodeTable position images := by
  induction images generalizing position with
  | nil => rfl
  | cons image images ih => rw [entriesFrom, List.flatten_cons, ih, encodeTable]

/-- The written form is a header, the entries of the table, and the padded data. -/
theorem encode_eq (container : Container) :
    container.encode = header container.images.length
      ++ (entriesFrom (dataStart container.images.length) container.images).flatten
      ++ container.images.flatMap fun i => pad i.data := by
  rw [flatten_entriesFrom, encode, header]

/-- Padding makes data at most longer. -/
theorem le_padded (n : Nat) : n ≤ padded n := by
  rw [padded, dataAlignment]
  omega

/-- Padded data is as long as is said. -/
theorem length_pad (data : Bytes) : (pad data).length = padded data.length := by
  have := le_padded data.length
  rw [pad, List.length_append, List.length_replicate]
  omega

/-- A name in its place is as long as the place. -/
theorem NameFits.length_encodeName {name : String} (fits : NameFits name) :
    (encodeName name).length = nameSize := by
  have := fits.length
  rw [encodeName, List.length_append, List.length_replicate]
  omega

/-- A name in its place ends with the first zero. -/
theorem NameFits.takeWhile_encodeName {name : String} (fits : NameFits name) :
    (encodeName name).takeWhile (· ≠ 0) = Utf8.encode name := by
  have nonzero : ∀ b ∈ Utf8.encode name, decide (b ≠ 0) = true := by
    intro b mem
    rw [decide_eq_true_iff]
    rintro rfl
    exact fits.nonzero mem
  rw [encodeName, List.takeWhile_append_of_pos nonzero, List.takeWhile_replicate]
  simp

/-- An entry whose name fits is as long as every other. -/
theorem NameFits.length_encodeEntry {image : Image} (fits : NameFits image.name) (position : Nat) :
    (encodeEntry image position).length = entrySize := by
  simp only [encodeEntry, List.length_append, length_word64, fits.length_encodeName, entrySize]

/-- The table of images whose names fit has the same length for each. -/
theorem length_encodeTable {position : Nat} {images : List Image}
    (names : ∀ i ∈ images, NameFits i.name) :
    (encodeTable position images).length = images.length * entrySize := by
  induction images generalizing position with
  | nil => exact (Nat.zero_mul _).symm
  | cons image images ih =>
    obtain ⟨fits, others⟩ := List.forall_mem_cons.mp names
    rw [encodeTable, List.length_append, ih others, fits.length_encodeEntry, List.length_cons,
      Nat.succ_mul, Nat.add_comm]

/-- The table of a written container stands in front of the data. -/
theorem length_table {container : Container} (names : ∀ i ∈ container.images, NameFits i.name) :
    (header container.images.length
      ++ (entriesFrom (dataStart container.images.length) container.images).flatten).length
        = dataStart container.images.length := by
  rw [flatten_entriesFrom, List.length_append, length_encodeTable names]
  rfl

/-- The images' data follows the table, each padded. -/
theorem length_encode {container : Container} (names : ∀ i ∈ container.images, NameFits i.name) :
    container.encode.length = dataStart container.images.length
      + (container.images.map fun i => padded i.data.length).sum := by
  rw [encode_eq, List.length_append, length_table names, List.length_flatMap]
  simp only [length_pad]

/-- The entries of images point to their data, if it is there. -/
theorem forall₂_entriesFrom {buf : Bytes} {position : Nat} {images : List Image}
    (names : ∀ i ∈ images, NameFits i.name) (small : buf.length < 2 ^ 64)
    (inside : position ≤ buf.length) (data : buf.drop position = images.flatMap fun i => pad i.data) :
    List.Forall₂ (EntryForm buf) images (entriesFrom position images) := by
  induction images generalizing position with
  | nil => exact .nil
  | cons image images ih =>
    obtain ⟨fits, others⟩ := List.forall_mem_cons.mp names
    rw [List.flatMap_cons] at data
    have behind : buf.drop (position + padded image.data.length)
        = images.flatMap fun i => pad i.data := by
      rw [← List.drop_drop, data, ← length_pad, List.drop_left]
    have room : position + padded image.data.length ≤ buf.length := by
      have lengths := congrArg List.length data
      rw [List.length_drop, List.length_append, length_pad] at lengths
      omega
    have unpadded := le_padded image.data.length
    have size : (UInt64.ofNat image.data.length).toNat = image.data.length :=
      UInt64.toNat_ofNat_of_lt' (show image.data.length < 2 ^ 64 by omega)
    have start : (UInt64.ofNat position).toNat = position :=
      UInt64.toNat_ofNat_of_lt' (show position < 2 ^ 64 by omega)
    refine .cons ⟨encodeName image.name, .ofNat image.data.length, .ofNat position,
      fits.length_encodeName, fits.takeWhile_encodeName, ?_, ?_, rfl⟩ (ih others room behind)
    · rw [size, start]
      omega
    · rw [size, start, data, pad, List.append_assoc, List.take_left]

/-- The entries of a written container point to the data that is written. -/
theorem forall₂_encode {container : Container} (names : ∀ i ∈ container.images, NameFits i.name)
    (small : container.encode.length < 2 ^ 64) :
    List.Forall₂ (EntryForm container.encode) container.images
      (entriesFrom (dataStart container.images.length) container.images) := by
  have written := encode_eq container
  have front := length_table names
  refine forall₂_entriesFrom names small ?_ ?_
  · rw [written, List.length_append, front]
    exact Nat.le_add_right ..
  · rw [written]
    exact List.drop_left' front

/-- **A container is read back**, if its names fit the table and 32 bits hold the number of its images.
-/
theorem decode_encode {container : Container} (names : ∀ i ∈ container.images, NameFits i.name)
    (few : container.images.length < 2 ^ 32) (small : container.encode.length < 2 ^ 64) :
    decode container.encode = .ok container :=
  decode_eq_ok_iff.mpr ⟨few, _, _, forall₂_encode names small, encode_eq container⟩

end Container

end ComputePlanner
