import ComputePlanner.Proofs.Container.Edits

/-! # Containers that are cut off
A reader does not ask whether a buffer is as long as the writer left it. It looks at the table and at the
ranges that the table names, so what it finds in the front of a buffer is what it finds in the whole, as
long as the table and the ranges end in the front (**`Container.decode_prefix_iff`**). In a written
container the range of the last image ends last (**`Container.lastStop`**), and all that follows is the
padding of its data.

A header counts no more than 32 bits hold, and a reader finds as many images as are counted
(**`Container.counted`**): for fewer than 2³² of them, all.

Main statement: **`ContainerDraft.truncated_of_run`**. With more images, it is not the container that is
read but its front: **`ContainerDraft.misread_of_run_many`**. -/

namespace ComputePlanner

namespace Container

variable {front buf : Bytes} {c : Container} {image : Image} {form : Bytes} {i : Nat}

/-! ## The front of a buffer that is read -/

/-- The entry of an image in the front of a buffer is its entry in the whole. -/
theorem stored_front (pre : front <+: buf) (inside : entryStart i + entrySize ≤ front.length) :
    storedPosition buf i = storedPosition front i ∧ storedSize buf i = storedSize front i := by
  rw [entrySize] at inside
  exact ⟨numberAt_front pre (by omega), numberAt_front pre (by omega)⟩

/-- What an entry points to in the front of a buffer is there in the whole. -/
theorem EntryForm.of_front (pre : front <+: buf) (entry : EntryForm front image form) :
    EntryForm buf image form := by
  obtain ⟨place, size, position, length, named, inside, data, written⟩ := entry
  refine ⟨place, size, position, length, named, ?_, ?_, written⟩
  · exact Nat.le_trans inside pre.length_le
  · exact data.trans (partAt_front pre inside).symm

/-- What an entry points to in a buffer is there in the front, if it ends there. -/
theorem EntryForm.in_front (entry : EntryForm buf image form) (pre : front <+: buf)
    (here : partAt buf (entryStart i) entrySize = form)
    (inside : storedPosition buf i + storedSize buf i ≤ front.length) :
    EntryForm front image form := by
  obtain ⟨place, size, position, length, named, -, data, rfl⟩ := entry
  obtain ⟨-, -, size', position'⟩ := stored_of_entry length here
  rw [size', position'] at inside
  exact ⟨place, size, position, length, named, inside, data.trans (partAt_front pre inside), rfl⟩

/-- **A buffer that starts with one that is read is read in the same way.** -/
theorem decode_of_front (pre : front <+: buf) (read : decode front = .ok c) : decode buf = .ok c := by
  obtain ⟨few, forms, rest, each, bytes⟩ := decode_eq_ok_iff.mp read
  obtain ⟨behind, rfl⟩ := pre
  refine decode_eq_ok_iff.mpr ⟨few, forms, rest ++ behind, ?_, by rw [bytes, List.append_assoc]⟩
  exact each.imp fun _ _ entry => entry.of_front ⟨behind, rfl⟩

/-- **The front of a buffer that is read is read in the same way** exactly if the table ends there and
the data of each image does. -/
theorem decode_prefix_iff (read : decode buf = .ok c) (pre : front <+: buf) :
    decode front = .ok c ↔ dataStart c.images.length ≤ front.length ∧
      ∀ i < c.images.length, storedPosition buf i + storedSize buf i ≤ front.length := by
  constructor
  · intro readFront
    have table := dataStart_le_of_decode readFront
    refine ⟨table, fun i inside => ?_⟩
    obtain ⟨position, size⟩ := stored_front pre (Nat.le_trans (entryStart_add_le inside) table)
    rw [position, size]
    exact (storedAt_of_decode readFront (List.getElem?_eq_getElem inside)).inside
  · rintro ⟨table, ranges⟩
    obtain ⟨few, forms, rest, each, bytes⟩ := decode_eq_ok_iff.mp read
    have widths := length_of_forall₂ EntryForm.length each
    -- the header and the table are in the front
    have head : header c.images.length ++ forms.flatten <+: front := by
      refine List.prefix_of_prefix_length_le ⟨rest, bytes.symm⟩ pre ?_
      rw [List.length_append, length_flatten_of_forall₂ each]
      exact table
    obtain ⟨rest', rfl⟩ := head
    refine decode_eq_ok_iff.mpr ⟨few, forms, rest', ?_, rfl⟩
    rw [List.forall₂_iff_get] at each ⊢
    refine ⟨each.1, fun i inside inside' => ?_⟩
    have here := partAt_table c.images.length widths (List.getElem?_eq_getElem inside') rest
    rw [← bytes] at here
    exact EntryForm.in_front (each.2 i inside inside') pre here (ranges i inside)

/-! ## The front of what is written -/

/-- The images that a header counts: as many as 32 bits hold. -/
def counted (c : Container) : Container := ⟨c.images.take (clamp32 c.images.length).toNat⟩

/-- A header counts all images, if 32 bits hold their number. -/
theorem counted_of_few (few : c.images.length < 2 ^ 32) : c.counted = c := by
  have all : c.images.length ≤ (clamp32 c.images.length).toNat := by
    rw [toNat_clamp32]
    omega
  rw [counted, List.take_of_length_le all]

/-- There are as many of them as the header says. -/
theorem length_counted (c : Container) :
    c.counted.images.length = (clamp32 c.images.length).toNat := by
  rw [counted, List.length_take, toNat_clamp32]
  omega

/-- No more are counted than there are. -/
theorem length_counted_le (c : Container) : c.counted.images.length ≤ c.images.length :=
  List.length_take_le' ..

/-- A header that counts some of the images is the same as one for those. -/
theorem header_counted (c : Container) : header c.counted.images.length = header c.images.length := by
  have same : clamp32 c.counted.images.length = clamp32 c.images.length := by
    rw [← UInt32.toNat_inj, toNat_clamp32, length_counted, toNat_clamp32]
    omega
  rw [header, header, same]

/-- **What is written is read as the images that are counted.** -/
theorem decode_encode_counted (names : ∀ i ∈ c.images, NameFits i.name)
    (small : c.encode.length < 2 ^ 64) : decode c.encode = .ok c.counted := by
  have few : c.counted.images.length < 2 ^ 32 := by
    rw [length_counted]
    exact (clamp32 c.images.length).toNat_lt
  -- the entries behind those that are counted are taken for data
  let forms := entriesFrom (dataStart c.images.length) c.images
  have each := List.forall₂_take (clamp32 c.images.length).toNat (forall₂_encode names small)
  refine decode_eq_ok_iff.mpr ⟨few, forms.take (clamp32 c.images.length).toNat,
    (forms.drop (clamp32 c.images.length).toNat).flatten ++ c.images.flatMap fun i => pad i.data,
    each, ?_⟩
  rw [header_counted, ← List.append_assoc, List.append_assoc (header _), ← List.flatten_append,
    List.take_append_drop, encode_eq]

/-- Where the data of the last image ends, as its entry says; in a buffer without images, where the
header ends. -/
def lastStop (bytes : Bytes) : Nat :=
  match storedCount bytes with
  | 0 => headerSize
  | last + 1 => storedPosition bytes last + storedSize bytes last

/-- Without images, only the header has to be there. -/
theorem lastStop_of_zero (none : storedCount buf = 0) : lastStop buf = headerSize := by
  rw [lastStop, none]

/-- With images, the last one ends last. -/
theorem lastStop_of_succ {last : Nat} (some : storedCount buf = last + 1) :
    lastStop buf = storedPosition buf last + storedSize buf last := by
  rw [lastStop, some]

/-- The data of a written image ends where its entry says. -/
theorem stop_encode (names : ∀ i ∈ c.images, NameFits i.name) (small : c.encode.length < 2 ^ 64)
    (given : c.images[i]? = some image) :
    storedPosition c.encode i + storedSize c.encode i
      = placeOf (dataStart c.images.length) c.images i + image.data.length := by
  obtain ⟨-, size, position⟩ := stored_encode names small given
  rw [size, position]

/-- The data of an image that is written ends in front of that of the next ones. -/
theorem stop_encode_le (names : ∀ i ∈ c.images, NameFits i.name) (small : c.encode.length < 2 ^ 64)
    {j : Nat} (order : i ≤ j) (inside : j < c.images.length) :
    storedPosition c.encode i + storedSize c.encode i
      ≤ storedPosition c.encode j + storedSize c.encode j := by
  rcases Nat.lt_or_eq_of_le order with before | rfl
  · have given := List.getElem?_eq_getElem (Nat.lt_of_le_of_lt order inside)
    have apart := placeOf_add_le (dataStart c.images.length) given before
    have unpadded := le_padded (c.images[i]).data.length
    rw [stop_encode names small given, stop_encode names small (List.getElem?_eq_getElem inside)]
    omega
  · exact Nat.le_refl _

/-- **The front of what is written is read as the images that are counted** exactly if it reaches the
end of the last one. -/
theorem decode_prefix_encode_iff (names : ∀ i ∈ c.images, NameFits i.name)
    (small : c.encode.length < 2 ^ 64) (pre : front <+: c.encode) :
    decode front = .ok c.counted ↔ lastStop c.encode ≤ front.length := by
  have read := decode_encode_counted names small
  have counted := storedCount_of_decode read
  have few := length_counted_le c
  rw [decode_prefix_iff read pre]
  cases count : c.counted.images.length with
  | zero =>
    rw [lastStop_of_zero (counted.trans count)]
    exact and_iff_left nofun
  | succ last =>
    rw [lastStop_of_succ (counted.trans count)]
    rw [count] at few
    have inside : last < c.images.length := few
    constructor
    · exact fun whole => whole.2 last (Nat.lt_succ_self last)
    · intro reaches
      refine ⟨Nat.le_trans ?_ reaches, fun i before => Nat.le_trans ?_ reaches⟩
      · -- the table of the images that are counted is in front of all data
        have table := Nat.le_trans (dataStart_mono few) (le_placeOf _ c.images last)
        rw [stop_encode names small (List.getElem?_eq_getElem inside)]
        exact Nat.le_trans table (Nat.le_add_right ..)
      · exact stop_encode_le names small (Nat.le_of_lt_succ before) inside

/-- A front that is read at all is read in the same way as the whole. -/
theorem decode_front_eq_error_iff (read : decode buf = .ok c) (pre : front <+: buf) :
    (∃ fault, decode front = .error fault) ↔ decode front ≠ .ok c := by
  cases readFront : decode front with
  | error fault => exact iff_of_true ⟨fault, rfl⟩ nofun
  | ok c' =>
    refine iff_of_false nofun fun different => different ?_
    rw [← read, decode_of_front pre readFront]

/-- What follows the data of the last image is its padding. -/
theorem length_encode_lt (names : ∀ i ∈ c.images, NameFits i.name) (few : c.images.length < 2 ^ 32)
    (small : c.encode.length < 2 ^ 64) : c.encode.length < lastStop c.encode + dataAlignment := by
  have counted := storedCount_of_decode (decode_encode names few small)
  have whole := placeOf_length_encode names
  cases count : c.images.length with
  | zero =>
    rw [count, List.eq_nil_of_length_eq_zero count] at whole
    rw [lastStop_of_zero (counted.trans count), ← whole]
    decide
  | succ last =>
    have given := List.getElem?_eq_getElem (count ▸ Nat.lt_succ_self last : last < c.images.length)
    have stop : placeOf (dataStart c.images.length) c.images (last + 1) = c.encode.length := by
      rw [← count, whole]
    rw [lastStop_of_succ (counted.trans count), stop_encode names small given, ← stop,
      placeOf_succ _ given, padded, dataAlignment]
    omega

/-- The data of the last image ends where the last entry says. -/
theorem exists_lastStop (read : decode buf = .ok c) (last : c.images.getLast? = some image) :
    ∃ start, lastStop buf = start + image.data.length ∧
      partAt buf start image.data.length = image.data := by
  rw [List.getLast?_eq_getElem?] at last
  have inside := (List.getElem?_eq_some_iff.mp last).1
  have stored := storedAt_of_decode read last
  have count : storedCount buf = c.images.length - 1 + 1 := by
    rw [storedCount_of_decode read]
    omega
  have size : image.data.length = storedSize buf (c.images.length - 1) := by
    have fits := stored.inside
    rw [stored.data, partAt, List.length_take, List.length_drop]
    omega
  exact ⟨_, by rw [lastStop_of_succ count, size], by rw [size, ← stored.data]⟩

/-- How the fronts of a written container are read. -/
structure Truncated (bytes : Bytes) (c : Container) : Prop where
  /-- A front is read as the container exactly if it reaches the end of the last image. -/
  read_iff : ∀ front, front <+: bytes →
    (decode front = .ok c.counted ↔ lastStop bytes ≤ front.length)
  /-- Any other front is refused. -/
  refused_iff : ∀ front, front <+: bytes →
    ((∃ fault, decode front = .error fault) ↔ front.length < lastStop bytes)
  /-- The data of the last image ends there. -/
  ends : ∀ image, c.counted.images.getLast? = some image →
    ∃ start, lastStop bytes = start + image.data.length ∧
      partAt bytes start image.data.length = image.data
  /-- Without images, the header does. -/
  header : c.images = [] → lastStop bytes = headerSize
  /-- All images are counted, if 32 bits hold their number. -/
  counted : c.images.length < 2 ^ 32 → c.counted = c
  /-- Then every front is refused that lacks as many bytes as padding cannot have. -/
  cut : c.images.length < 2 ^ 32 → ∀ front, front <+: bytes → front.length + 8 ≤ bytes.length →
    ∃ fault, decode front = .error fault

/-- **What is written is read exactly from the fronts that reach the end of the last image.** -/
theorem truncated_encode (names : ∀ i ∈ c.images, NameFits i.name)
    (small : c.encode.length < 2 ^ 64) : Truncated c.encode c := by
  have read := decode_encode_counted names small
  have refused_iff (front : Bytes) (pre : front <+: c.encode) :
      (∃ fault, decode front = .error fault) ↔ front.length < lastStop c.encode := by
    rw [decode_front_eq_error_iff read pre, ne_eq, decode_prefix_encode_iff names small pre,
      Nat.not_le]
  constructor
  case read_iff => exact fun front pre => decode_prefix_encode_iff names small pre
  case refused_iff => exact refused_iff
  case ends => exact fun image last => exists_lastStop read last
  case header =>
    intro empty
    refine lastStop_of_zero ?_
    rw [storedCount_of_decode read, length_counted, empty]
    rfl
  case counted => exact counted_of_few
  case cut =>
    intro few front pre long
    have padding := length_encode_lt names few small
    rw [dataAlignment] at padding
    exact (refused_iff front pre).mpr (by omega)

/-- Padding can be cut off, and the last byte of the data in front of it cannot. -/
example :
    let c : Container := ⟨[⟨"a", 0, [1, 2, 3]⟩]⟩
    c.encode.length = 112 ∧ decode (c.encode.take 107) = .ok c ∧
      decode (c.encode.take 106) = .error (.imageRange "a" 104 3 106) := by
  decide +kernel

end Container

namespace ContainerDraft

/-- **Every container that is built and written is read from the fronts of its bytes that reach the end
of its last image**, and from no others. -/
theorem truncated_of_run (edits : List ContainerEdit) (bytes : Bytes)
    (written : (built edits).finish.write? = some bytes) :
    Container.Truncated bytes (built edits).finish := by
  have names := nameFits_built edits
  rw [Container.write?_eq names] at written
  split at written
  · cases written
  · next small =>
    cases written
    refine Container.truncated_encode names ?_
    exact Nat.lt_trans (Nat.lt_of_not_le small) (by decide)

/-- An empty image behind another: no byte can be cut off, for its data ends with the container. -/
theorem truncated_of_run_emptyLast :
    let edits : List ContainerEdit := [.add ⟨"b", 0, []⟩, .add ⟨"a", 0, [1, 2, 3]⟩]
    ∃ bytes, (built edits).finish.write? = some bytes ∧
      Container.Truncated bytes (built edits).finish ∧
      bytes.length = 200 ∧ Container.lastStop bytes = 200 := by
  intro edits
  have written : (built edits).finish.write? = some (built edits).finish.encode := by decide +kernel
  exact ⟨_, written, truncated_of_run edits _ written, by decide +kernel, by decide +kernel⟩

/-- **Of 2³² images one is lost**, though all of them can be added and written: what is written is read as
another container. -/
theorem misread_of_run_many :
    let edits : List ContainerEdit := (numbered (2 ^ 32) []).map .add
    ∃ bytes other, (built edits).finish.write? = some bytes ∧ Container.decode bytes = .ok other ∧
      other ≠ (built edits).finish := by
  intro edits
  obtain ⟨count, data⟩ := finish_numbered (Nat.le_refl (2 ^ 32)) []
  have names := nameFits_built edits
  have length : (built edits).finish.encode.length = Container.dataStart (2 ^ 32) := by
    rw [Container.length_encode_of_same names data, count]
    rfl
  have small : (built edits).finish.encode.length < Container.memoryLimit := by
    rw [length]
    decide
  have written : (built edits).finish.write? = some (built edits).finish.encode := by
    rw [Container.write?_eq names, if_neg (Nat.not_le_of_lt small)]
  have read := Container.decode_encode_counted names (Nat.lt_trans small (by decide))
  refine ⟨_, _, written, read, fun same => ?_⟩
  -- one image less is counted than there is
  have counted := Container.length_counted (built edits).finish
  rw [same, count, toNat_clamp32] at counted
  cases counted

end ContainerDraft

end ComputePlanner
