import ComputePlanner.Metadata.Draft.Basic
import ComputePlanner.Proofs.Container.RoundTrip

/-! # Writing a container step by step
`Container.encode` puts the parts of the written form together. A writer gets there in passes: it works
out where the data of each image goes, writes a table with these positions, and fills up with zeros to
each of them before it puts the data there. It gives up in two cases: a name is longer than its place,
or memory does not hold the whole. **`Container.write?`** is this writer. Its passes stay in step because
every position is the end of what is written before it, rounded up (`resizeImage_foldl_place`).

Main statements:
* **`Container.write?_eq`** — what is written if the names fit;
* **`Container.write?_eq_none`** — nothing is, if one of them is too long;
* **`Container.write?_eq_none_of_same`** — nor if the names fit and there is too much data. -/

namespace ComputePlanner

namespace Container

variable {position : Nat} {images : List Image} {c : Container}

/-! ## The passes -/

/-- Memory holds fewer bytes than this in one piece. -/
def memoryLimit : Nat := 2 ^ 63

/-- Where the data of each image goes if that of the first goes to `position`, and where the last ends.
-/
def positionsFrom (position : Nat) : List Image → List Nat × Nat
  | [] => ([], position)
  | image :: images =>
    let behind := positionsFrom (padded (position + image.data.length)) images
    (position :: behind.1, behind.2)

/-- A name at the front of its place, if the place holds it. -/
def placeName? (name : String) : Option Bytes :=
  if (Utf8.encode name).length ≤ nameSize then
    some (overwrite (List.replicate nameSize 0) 0 (Utf8.encode name))
  else none

/-- The row of the table for an image whose data goes to `position`. -/
def tableRow? (image : Image) (position : Nat) : Option Bytes := do
  let name ← placeName? image.name
  return name ++ word64 image.offset ++ word64 (UInt64.ofNat image.data.length)
    ++ word64 (UInt64.ofNat position)

/-- Puts the data of an image at `position`, with zeros in front of it. -/
def place (written : Bytes) (image : Image) (position : Nat) : Bytes :=
  resizeImage written position ++ image.data

/-- The written form in passes. -/
def write? (c : Container) : Option Bytes :=
  let positions := positionsFrom (padded (dataStart c.images.length)) c.images
  let placed := c.images.zip positions.1
  if memoryLimit ≤ positions.2 then none
  else do
    let entries ← placed.mapM fun p => tableRow? p.1 p.2
    let table := header c.images.length ++ entries.flatten
    return resizeImage (placed.foldl (fun written p => place written p.1 p.2) table) positions.2

/-! ## Positions -/

/-- What is padded stays as it is if it is padded again. -/
theorem padded_of_dvd {n : Nat} (whole : dataAlignment ∣ n) : padded n = n := by
  obtain ⟨k, rfl⟩ := whole
  rw [padded, dataAlignment]
  omega

/-- Padding makes a whole number of alignment units. -/
theorem dvd_padded (n : Nat) : dataAlignment ∣ padded n := Nat.dvd_mul_left ..

/-- Behind whole alignment units, padding is that of what follows. -/
theorem padded_add {m : Nat} (whole : dataAlignment ∣ m) (n : Nat) :
    padded (m + n) = m + padded n := by
  obtain ⟨k, rfl⟩ := whole
  simp only [padded, dataAlignment]
  omega

/-- A header and table entries are whole alignment units. -/
theorem dvd_dataStart (count : Nat) : dataAlignment ∣ dataStart count := by
  rw [dataStart, headerSize, entrySize, nameSize, dataAlignment]
  omega

/-- The last image ends behind the padded data of all of them. -/
theorem positionsFrom_stop (images : List Image) (whole : dataAlignment ∣ position) :
    (positionsFrom position images).2
      = position + (images.map fun i => padded i.data.length).sum := by
  induction images generalizing position with
  | nil => rfl
  | cons image images ih =>
    rw [positionsFrom, ih (dvd_padded _), padded_add whole, List.map_cons, List.sum_cons,
      Nat.add_assoc]

/-! ## The table -/

/-- A name that is copied into its place has zeros behind it. -/
theorem placeName?_eq {name : String} (fits : (Utf8.encode name).length ≤ nameSize) :
    placeName? name = some (encodeName name) := by
  rw [placeName?, if_pos fits, overwrite, List.take_zero, Nat.zero_add, List.drop_replicate]
  rfl

/-- The table entries that are written are those of the written form. -/
theorem mapM_tableRow? (names : ∀ i ∈ images, NameFits i.name) (whole : dataAlignment ∣ position) :
    ((images.zip (positionsFrom position images).1).mapM fun p => tableRow? p.1 p.2)
      = some (entriesFrom position images) := by
  induction images generalizing position with
  | nil => rfl
  | cons image images ih =>
    obtain ⟨fits, others⟩ := List.forall_mem_cons.mp names
    have entry : tableRow? image position = some (encodeEntry image position) := by
      rw [tableRow?, placeName?_eq fits.length]
      rfl
    rw [positionsFrom, List.zip_cons_cons, List.mapM_cons, entry, padded_add whole,
      ih others (Nat.dvd_add whole (dvd_padded _)), entriesFrom]
    rfl

/-- No table is written with a name that is too long. -/
theorem mapM_tableRow?_eq_none {image : Image} (mem : image ∈ images)
    (long : nameSize < (Utf8.encode image.name).length) :
    ((images.zip (positionsFrom position images).1).mapM fun p => tableRow? p.1 p.2) = none := by
  induction images generalizing position with
  | nil => cases mem
  | cons other images ih =>
    rw [positionsFrom, List.zip_cons_cons, List.mapM_cons]
    rcases List.mem_cons.mp mem with rfl | mem
    · rw [tableRow?, placeName?, if_neg (Nat.not_le_of_lt long)]
      rfl
    · rw [ih mem]
      cases tableRow? other position <;> rfl

/-! ## The data -/

/-- To fill up to the next alignment boundary is to pad. -/
theorem resizeImage_padded (written : Bytes) :
    resizeImage written (padded written.length) = pad written := by
  rw [resizeImage, List.take_of_length_le (le_padded _), pad]

/-- Behind whole alignment units, data is padded by itself. -/
theorem pad_append {front : Bytes} (whole : dataAlignment ∣ front.length) (data : Bytes) :
    pad (front ++ data) = front ++ pad data := by
  rw [pad, pad, List.length_append, padded_add whole, Nat.add_sub_add_left, List.append_assoc]

/-- Data that is put to its positions stands padded behind what was written before. -/
theorem resizeImage_foldl_place {written : Bytes} (here : padded written.length = position) :
    resizeImage ((images.zip (positionsFrom position images).1).foldl
        (fun written p => place written p.1 p.2) written) (positionsFrom position images).2
      = pad written ++ images.flatMap fun i => pad i.data := by
  subst here
  induction images generalizing written with
  | nil =>
    rw [List.flatMap_nil, List.append_nil]
    exact resizeImage_padded written
  | cons image images ih =>
    -- to fill up to the first position is to pad; the next one is where its data ends, rounded up
    have whole : dataAlignment ∣ (pad written).length := length_pad written ▸ dvd_padded _
    have next : padded (padded written.length + image.data.length)
        = padded (place written image (padded written.length)).length := by
      rw [place, resizeImage_padded, List.length_append, length_pad]
    rw [positionsFrom, List.zip_cons_cons, List.foldl_cons, next, ih, place, resizeImage_padded,
      pad_append whole, List.flatMap_cons, List.append_assoc]

/-! ## The whole -/

/-- **With names that fit, the writer writes the written form**, if memory holds it. -/
theorem write?_eq (names : ∀ i ∈ c.images, NameFits i.name) :
    c.write? = if memoryLimit ≤ c.encode.length then none else some c.encode := by
  have start : padded (dataStart c.images.length) = dataStart c.images.length :=
    padded_of_dvd (dvd_dataStart _)
  have stop := positionsFrom_stop c.images (dvd_dataStart c.images.length)
  rw [← length_encode names] at stop
  have table := length_table names
  -- the data starts where the table ends, so that nothing is filled up in between
  have written : c.encode = pad (header c.images.length
      ++ (entriesFrom (dataStart c.images.length) c.images).flatten)
      ++ c.images.flatMap fun i => pad i.data := by
    rw [pad, table, start, Nat.sub_self, List.replicate_zero, List.append_nil, encode_eq]
  rw [write?, start]
  dsimp only
  rw [stop]
  split
  · rfl
  · rw [mapM_tableRow? names (dvd_dataStart _)]
    show some (resizeImage _ c.encode.length) = _
    rw [← stop, resizeImage_foldl_place ((congrArg padded table).trans start), written]

/-- The writer gives up exactly if memory does not hold the written form. -/
theorem write?_eq_none_iff (names : ∀ i ∈ c.images, NameFits i.name) :
    c.write? = none ↔ memoryLimit ≤ c.encode.length := by
  rw [write?_eq names, ite_eq_left_iff, Nat.not_le]
  constructor
  · intro given
    by_contra small
    cases given (Nat.lt_of_not_le small)
  · intro large small
    exact absurd large (Nat.not_le_of_lt small)

/-- The written form of images that have as much data as each other. -/
theorem length_encode_of_same (names : ∀ i ∈ c.images, NameFits i.name) {size : Nat}
    (same : ∀ i ∈ c.images, i.data.length = size) :
    c.encode.length = dataStart c.images.length + c.images.length * padded size := by
  have sizes : (c.images.map fun i => padded i.data.length) = List.replicate c.images.length (padded size) :=
    List.map_eq_replicate_iff.mpr fun i mem => congrArg padded (same i mem)
  rw [length_encode names, sizes, List.sum_replicate_nat]

/-- **Nothing is written of images that together have more data than memory holds**, be it the same for
all of them. -/
theorem write?_eq_none_of_same (names : ∀ i ∈ c.images, NameFits i.name) {size : Nat}
    (same : ∀ i ∈ c.images, i.data.length = size) (large : memoryLimit ≤ c.images.length * size) :
    c.write? = none := by
  have unpadded := Nat.mul_le_mul_left c.images.length (le_padded size)
  rw [write?_eq_none_iff names, length_encode_of_same names same]
  exact Nat.le_trans large (Nat.le_trans unpadded (Nat.le_add_left ..))

/-- **Nothing is written if a name is longer than its place.** -/
theorem write?_eq_none {image : Image} (mem : image ∈ c.images)
    (long : nameSize < (Utf8.encode image.name).length) : c.write? = none := by
  rw [write?]
  dsimp only
  split
  · rfl
  · rw [mapM_tableRow?_eq_none mem long]
    rfl

end Container

end ComputePlanner
