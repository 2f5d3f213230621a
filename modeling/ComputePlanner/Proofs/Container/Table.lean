import ComputePlanner.Proofs.Container.Writing
import Mathlib.Algebra.Order.BigOperators.Group.List
import Mathlib.Data.List.TakeWhile

/-! # What a container's table stores
A table has an entry for each image, and a reader takes what it says: the name may be empty, may be that
of another image or fill its place, and the data may lie anywhere in the buffer, over other data or the
table itself. The numbers of an entry are looked up at their places (**`Container.storedPosition`** and
its like), so that what is read can be compared with what is stored.

However odd the buffer was, its container has names that fit a table, and so it can be written again.

Main statement: **`Container.parsed_of_decode`**. A buffer of another kind is
**`Container.frontBuffer`**: its images overlap so much that memory does not hold them side by side. -/

namespace ComputePlanner

namespace Container

variable {buf : Bytes} {c : Container} {image : Image} {i : Nat}

/-! ## Places in the table -/

/-- How many images a buffer says it has. -/
def storedCount (buf : Bytes) : Nat := numberAt buf 12 4

/-- Where the entry of an image starts. -/
def entryStart (i : Nat) : Nat := headerSize + i * entrySize

/-- The place for the name of an image. -/
def storedName (buf : Bytes) (i : Nat) : Bytes := partAt buf (entryStart i) nameSize

/-- The load offset in the entry of an image. -/
def storedOffset (buf : Bytes) (i : Nat) : Nat := numberAt buf (entryStart i + nameSize) 8

/-- The size in the entry of an image. -/
def storedSize (buf : Bytes) (i : Nat) : Nat := numberAt buf (entryStart i + (nameSize + 8)) 8

/-- Where the data of an image starts, as its entry says. -/
def storedPosition (buf : Bytes) (i : Nat) : Nat := numberAt buf (entryStart i + (nameSize + 16)) 8

/-- The table ends where the data starts, and each image has a row in it. -/
theorem entryStart_add_le {count : Nat} (inside : i < count) :
    entryStart i + entrySize ≤ dataStart count := by
  have rows := Nat.mul_le_mul_right entrySize (Nat.succ_le_of_lt inside)
  rw [entryStart, dataStart, Nat.add_assoc, ← Nat.succ_mul]
  exact Nat.add_le_add_left rows headerSize

/-- The table of fewer images ends earlier. -/
theorem dataStart_mono {m n : Nat} (few : m ≤ n) : dataStart m ≤ dataStart n :=
  Nat.add_le_add_left (Nat.mul_le_mul_right entrySize few) headerSize

/-- The parts of an entry are found at their places. -/
theorem stored_of_entry {place : Bytes} {offset size position : UInt64}
    (length : place.length = nameSize)
    (entry : partAt buf (entryStart i) entrySize
      = place ++ word64 offset ++ word64 size ++ word64 position) :
    storedName buf i = place ∧ storedOffset buf i = offset.toNat ∧ storedSize buf i = size.toNat ∧
      storedPosition buf i = position.toNat := by
  -- every part is looked up in the entry, where it stands behind the parts in front of it
  refine ⟨?_, ?_, ?_, ?_⟩
  · rw [storedName, ← Nat.add_zero (entryStart i), ← partAt_partAt (by decide : 0 + nameSize ≤ entrySize),
      entry, List.append_assoc, List.append_assoc]
    exact partAt_append List.length_nil length _
  · rw [storedOffset, ← numberAt_partAt (by decide : nameSize + 8 ≤ entrySize), entry, List.append_assoc]
    exact numberAt_word64 length offset _
  · rw [storedSize, ← numberAt_partAt (by decide : nameSize + 8 + 8 ≤ entrySize), entry]
    refine numberAt_word64 ?_ size _
    rw [List.length_append, length, length_word64]
  · rw [storedPosition, ← numberAt_partAt (by decide : nameSize + 16 + 8 ≤ entrySize), entry,
      ← List.append_nil (_ ++ word64 position)]
    refine numberAt_word64 ?_ position []
    rw [List.length_append, List.length_append, length, length_word64, length_word64]

/-- Behind the header, the entries stand one behind the other. -/
theorem partAt_table {forms : List Bytes} {form : Bytes} (count : Nat)
    (widths : ∀ form ∈ forms, form.length = entrySize) (given : forms[i]? = some form)
    (rest : Bytes) :
    partAt (header count ++ forms.flatten ++ rest) (entryStart i) entrySize = form := by
  rw [entryStart, List.append_assoc, partAt_append_add (by rfl)]
  exact partAt_flatten widths given rest

/-- A header stores the number of images, if 32 bits hold it. -/
theorem storedCount_header {count : Nat} (few : count < 2 ^ 32) (rest : Bytes) :
    storedCount (header count ++ rest) = count := by
  rw [storedCount, header, numberAt_word32 (by rfl), toNat_clamp32]
  omega

/-! ## What is read from it -/

/-- An entry that is read has a name that fits the table. -/
theorem EntryForm.nameFits {form : Bytes} (entry : EntryForm buf image form) :
    NameFits image.name := by
  obtain ⟨place, -, -, length, named, -⟩ := entry
  constructor
  · rw [← named, ← length]
    exact (List.takeWhile_prefix _).length_le
  · rw [← named]
    intro zero
    simpa using List.mem_takeWhile_imp zero

/-- Where a list of entries is read as images, each image has its entry. -/
theorem exists_entryForm {images : List Image} {forms : List Bytes}
    (each : List.Forall₂ (EntryForm buf) images forms) (given : images[i]? = some image) :
    ∃ form, forms[i]? = some form ∧ EntryForm buf image form := by
  induction each generalizing i with
  | nil => cases given
  | @cons _ form _ _ entry _ ih =>
    cases i with
    | zero =>
      obtain rfl := Option.some.inj given
      exact ⟨form, rfl, entry⟩
    | succ i => exact ih given

/-- Every name that is read fits the table. -/
theorem nameFits_of_decode (read : decode buf = .ok c) : ∀ i ∈ c.images, NameFits i.name := by
  obtain ⟨-, forms, -, each, -⟩ := decode_eq_ok_iff.mp read
  intro image mem
  obtain ⟨i, given⟩ := List.getElem?_of_mem mem
  obtain ⟨form, -, entry⟩ := exists_entryForm each given
  exact entry.nameFits

/-- An image is what its entry says. -/
structure StoredAt (buf : Bytes) (i : Nat) (image : Image) : Prop where
  /-- Its name ends with the first zero in its place, or with the place. -/
  name : Utf8.encode image.name = (storedName buf i).takeWhile (· ≠ 0)
  offset : image.offset.toNat = storedOffset buf i
  /-- Its data lies in the buffer, where the sum of the two numbers is not cut off. -/
  inside : storedPosition buf i + storedSize buf i ≤ buf.length
  data : image.data = partAt buf (storedPosition buf i) (storedSize buf i)

/-- The count in the header is that of the images. -/
theorem storedCount_of_decode (read : decode buf = .ok c) : storedCount buf = c.images.length := by
  obtain ⟨few, forms, rest, -, bytes⟩ := decode_eq_ok_iff.mp read
  rw [bytes, List.append_assoc]
  exact storedCount_header few _

/-- Every image is what its entry says. -/
theorem storedAt_of_decode (read : decode buf = .ok c) (given : c.images[i]? = some image) :
    StoredAt buf i image := by
  obtain ⟨-, forms, rest, each, bytes⟩ := decode_eq_ok_iff.mp read
  obtain ⟨form, there, entry⟩ := exists_entryForm each given
  have widths := length_of_forall₂ EntryForm.length each
  have here := partAt_table c.images.length widths there rest
  rw [← bytes] at here
  obtain ⟨place, size, position, length, named, inside, data, rfl⟩ := entry
  obtain ⟨name, offset, size', position'⟩ := stored_of_entry length here
  exact ⟨by rw [name, named], offset.symm, by rwa [size', position'], by rw [size', position', data, partAt]⟩

/-- A buffer that is read has a whole table. -/
theorem dataStart_le_of_decode (read : decode buf = .ok c) :
    dataStart c.images.length ≤ buf.length := by
  obtain ⟨-, forms, rest, each, rfl⟩ := decode_eq_ok_iff.mp read
  rw [List.length_append, List.length_append, length_flatten_of_forall₂ each]
  exact Nat.le_add_right ..

/-- The data of each image is no longer than the buffer, and the table is no longer either. -/
theorem length_encode_of_decode (read : decode buf = .ok c) :
    c.encode.length ≤ buf.length + c.images.length * (buf.length + dataAlignment) ∧
      c.images.length * entrySize ≤ buf.length := by
  have table := dataStart_le_of_decode read
  have data : ∀ n ∈ c.images.map fun i => padded i.data.length, n ≤ buf.length + dataAlignment := by
    rw [List.forall_mem_map]
    intro image mem
    obtain ⟨i, given⟩ := List.getElem?_of_mem mem
    obtain ⟨-, -, inside, data⟩ := storedAt_of_decode read given
    have short : image.data.length ≤ buf.length := by
      rw [data, partAt, List.length_take, List.length_drop]
      omega
    rw [padded, dataAlignment]
    omega
  have sum := List.sum_le_card_nsmul _ _ data
  rw [List.length_map, Nat.nsmul_eq_mul] at sum
  rw [length_encode (nameFits_of_decode read)]
  refine ⟨Nat.add_le_add table sum, ?_⟩
  exact Nat.le_trans (Nat.le_add_left ..) table

/-- What a container that is read has to do with its buffer, and how it is written again. -/
structure Parsed (buf : Bytes) (c : Container) : Prop where
  count : storedCount buf = c.images.length
  /-- Every image is what its entry says. -/
  stored : ∀ i image, c.images[i]? = some image → StoredAt buf i image
  /-- The container is written again and read back, if memory holds what is written. -/
  rewritten : c.encode.length < memoryLimit → c.write? = some c.encode ∧ decode c.encode = .ok c
  /-- It is not written if memory does not hold that. -/
  unwritten : memoryLimit ≤ c.encode.length → c.write? = none
  /-- Memory does hold it if the buffer is not longer than 16 GiB, whatever overlaps in it. -/
  fits : buf.length ≤ 2 ^ 34 → c.encode.length < memoryLimit

/-- **Every image is what its entry says, and the container is written again and read back**, whatever
the buffer was that it was read from. -/
theorem parsed_of_decode (buf : Bytes) (c : Container) (read : decode buf = .ok c) : Parsed buf c := by
  have names := nameFits_of_decode read
  have few := (decode_eq_ok_iff.mp read).1
  constructor
  case count => exact storedCount_of_decode read
  case stored => exact fun i image given => storedAt_of_decode read given
  case rewritten =>
    intro small
    have address : c.encode.length < 2 ^ 64 := Nat.lt_trans small (by decide)
    rw [write?_eq names, if_neg (Nat.not_le_of_lt small)]
    exact ⟨rfl, decode_encode names few address⟩
  case unwritten => exact (write?_eq_none_iff names).mpr
  case fits =>
    intro short
    obtain ⟨total, table⟩ := length_encode_of_decode read
    -- even if every image is the whole buffer, there are not enough of them
    have images : c.images.length ≤ 2 ^ 28 := by
      rw [entrySize, nameSize] at table
      omega
    have data := Nat.mul_le_mul images (Nat.add_le_add_right short dataAlignment)
    exact Nat.lt_of_le_of_lt (Nat.le_trans total (Nat.add_le_add short data)) (by decide)

/-- A buffer of two entries. The first has no name and the whole buffer for its data, the second fills
the place for its name and has the end of its own entry for its data. -/
def oddBuffer : Bytes :=
  header 2
    ++ (List.replicate 64 0 ++ word64 5 ++ word64 192 ++ word64 0)
    ++ (List.replicate 64 0x61 ++ word64 0xFFFFFFFFFFFFFFFF ++ word64 2 ++ word64 190)

/-- It is read, and written again in a form of its own. -/
theorem parsed_of_decode_oddBuffer :
    let c : Container := ⟨[⟨"", 5, oddBuffer⟩,
      ⟨"aaaaaaaaaaaaaaaaaaaaaaaaaaaaaaaaaaaaaaaaaaaaaaaaaaaaaaaaaaaaaaaa", 0xFFFFFFFFFFFFFFFF, [0, 0]⟩]⟩
    decode oddBuffer = .ok c ∧ Parsed oddBuffer c ∧ c.write? ≠ some oddBuffer := by
  intro c
  have read : decode oddBuffer = .ok c := by decide +kernel
  have parsed : Parsed oddBuffer c := parsed_of_decode oddBuffer c read
  refine ⟨read, parsed, ?_⟩
  rw [(parsed.rewritten (parsed.fits (by decide +kernel))).1]
  decide +kernel

/-- A range whose end would wrap around is outside. -/
example : decode (header 1 ++ (List.replicate 64 0 ++ word64 0 ++ word64 2
    ++ word64 0xFFFFFFFFFFFFFFFF)) = .error (.imageRange "" 0xFFFFFFFFFFFFFFFF 2 104) := by
  decide +kernel

/-- The entry of an image without a name that has the front of a buffer for its data. -/
def frontEntry (size : UInt64) : Bytes :=
  List.replicate nameSize 0 ++ word64 0 ++ word64 size ++ word64 0

/-- A buffer that is nothing but a table, with the same entry as often as said. -/
def frontBuffer (count : Nat) (size : UInt64) : Bytes :=
  header count ++ (List.replicate count (frontEntry size)).flatten

/-- Such a buffer has a header and a place for each entry. -/
theorem length_frontBuffer (count : Nat) (size : UInt64) :
    (frontBuffer count size).length = dataStart count := by
  have widths : ∀ entry ∈ List.replicate count (frontEntry size), entry.length = entrySize := by
    intro entry mem
    rw [List.eq_of_mem_replicate mem]
    rfl
  rw [frontBuffer, List.length_append, length_flatten_of_width widths, List.length_replicate]
  rfl

/-- **It is read as many images that all have the same data.** -/
theorem decode_frontBuffer {count : Nat} (few : count < 2 ^ 32) {size : UInt64}
    (inside : size.toNat ≤ dataStart count) :
    decode (frontBuffer count size)
      = .ok ⟨List.replicate count ⟨"", 0, (frontBuffer count size).take size.toNat⟩⟩ := by
  have blank : (List.replicate nameSize (0 : UInt8)).takeWhile (· ≠ 0) = Utf8.encode "" := by
    decide +kernel
  have range : (0 : UInt64).toNat + size.toNat ≤ (frontBuffer count size).length := by
    rw [length_frontBuffer]
    exact Nat.le_trans (Nat.le_of_eq (Nat.zero_add _)) inside
  have entry : EntryForm (frontBuffer count size) ⟨"", 0, (frontBuffer count size).take size.toNat⟩
      (frontEntry size) :=
    ⟨List.replicate nameSize 0, size, 0, List.length_replicate, blank, range, rfl, rfl⟩
  refine decode_eq_ok_iff.mpr ⟨?_, List.replicate count (frontEntry size), [], ?_, ?_⟩
  · rwa [List.length_replicate]
  · rw [List.forall₂_iff_get]
    refine ⟨by rw [List.length_replicate, List.length_replicate], fun i _ _ => ?_⟩
    simpa using entry
  · rw [List.append_nil, List.length_replicate, frontBuffer]

/-- With enough entries, the images that are read are too much for memory. -/
theorem unwritten_of_frontBuffer {count : Nat} (few : count < 2 ^ 32) {size : UInt64}
    (inside : size.toNat ≤ dataStart count) (large : memoryLimit ≤ count * size.toNat) :
    ∃ c, decode (frontBuffer count size) = .ok c ∧ c.write? = none := by
  let image : Image := ⟨"", 0, (frontBuffer count size).take size.toNat⟩
  have read : decode (frontBuffer count size) = .ok ⟨List.replicate count image⟩ :=
    decode_frontBuffer few inside
  have same : ∀ i ∈ List.replicate count image, i.data.length = size.toNat := by
    intro i mem
    rw [List.eq_of_mem_replicate mem]
    exact List.length_take_of_le (length_frontBuffer count size ▸ inside)
  refine ⟨_, read, write?_eq_none_of_same (nameFits_of_decode read) same ?_⟩
  rwa [List.length_replicate]

/-- **A buffer of 44 GiB can hold images that memory does not hold side by side**: 2²⁹ times the same
16 GiB. It is read, and not written again. -/
theorem unwritten_of_decode_frontBuffer :
    ∃ c, decode (frontBuffer (2 ^ 29) 0x400000000) = .ok c ∧ c.write? = none :=
  unwritten_of_frontBuffer (by decide) (by decide) (by decide)

end Container

end ComputePlanner
