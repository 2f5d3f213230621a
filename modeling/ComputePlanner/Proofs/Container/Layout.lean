import ComputePlanner.Proofs.Container.Table

/-! # Where the images of a container lie
Images are laid out in their order: each goes where the padded data of the one before it ends, the first
right behind the table (**`Container.placeOf`**). So their ranges are apart and start at alignment
boundaries, and what belongs to none of them is padding.

Main statement: **`Container.laidOut_encode`**. -/

namespace ComputePlanner

namespace Container

variable {position i j k : Nat} {images : List Image} {image : Image} {c : Container}

/-! ## Places -/

/-- Where the data of the image at an index goes if that of the first goes to `position`. -/
def placeOf (position : Nat) : List Image → Nat → Nat
  | [], _ => position
  | _ :: _, 0 => position
  | image :: images, i + 1 => placeOf (position + padded image.data.length) images i

/-- Behind the last image, all of them have been placed. -/
theorem placeOf_length (position : Nat) (images : List Image) :
    placeOf position images images.length
      = position + (images.map fun i => padded i.data.length).sum := by
  induction images generalizing position with
  | nil => rfl
  | cons image images ih =>
    rw [List.length_cons, placeOf, ih, List.map_cons, List.sum_cons, Nat.add_assoc]

/-- No image goes in front of the first. -/
theorem le_placeOf (position : Nat) (images : List Image) (i : Nat) :
    position ≤ placeOf position images i := by
  induction images generalizing position i with
  | nil => rw [placeOf]
  | cons image images ih =>
    cases i with
    | zero => rw [placeOf]
    | succ i => exact Nat.le_trans (Nat.le_add_right ..) (ih ..)

/-- An image goes behind the padded data of those in front of it. -/
theorem placeOf_add_le (position : Nat) (given : images[i]? = some image) (before : i < j) :
    placeOf position images i + padded image.data.length ≤ placeOf position images j := by
  induction images generalizing position i j with
  | nil => cases given
  | cons other images ih =>
    obtain ⟨j, rfl⟩ := Nat.exists_eq_add_one_of_ne_zero (Nat.ne_zero_of_lt before)
    cases i with
    | zero =>
      obtain rfl := Option.some.inj given
      exact le_placeOf ..
    | succ i => exact ih _ given (Nat.lt_of_succ_lt_succ before)

/-- The data of an image goes behind the padded data of the one before it. -/
theorem placeOf_succ (position : Nat) {images : List Image} (given : images[i]? = some image) :
    placeOf position images (i + 1) = placeOf position images i + padded image.data.length := by
  induction images generalizing position i with
  | nil => cases given
  | cons other images ih =>
    cases i with
    | zero =>
      obtain rfl := Option.some.inj given
      cases images <;> rfl
    | succ i => exact ih _ given

/-- Every image goes to an alignment boundary, if the first does. -/
theorem dvd_placeOf (whole : dataAlignment ∣ position) (images : List Image) (i : Nat) :
    dataAlignment ∣ placeOf position images i := by
  induction images generalizing position i with
  | nil => rwa [placeOf]
  | cons image images ih =>
    cases i with
    | zero => rwa [placeOf]
    | succ i => exact ih (Nat.dvd_add whole (dvd_padded _)) i

/-- The entry of an image says where it goes. -/
theorem getElem?_entriesFrom (position : Nat) (given : images[i]? = some image) :
    (entriesFrom position images)[i]? = some (encodeEntry image (placeOf position images i)) := by
  induction images generalizing position i with
  | nil => cases given
  | cons other images ih =>
    cases i with
    | zero =>
      obtain rfl := Option.some.inj given
      rfl
    | succ i => exact ih _ given

/-- Entries whose names fit have the same length. -/
theorem length_entriesFrom (names : ∀ i ∈ images, NameFits i.name) :
    ∀ form ∈ entriesFrom position images, form.length = entrySize := by
  induction images generalizing position with
  | nil => exact nofun
  | cons image images ih =>
    obtain ⟨fits, others⟩ := List.forall_mem_cons.mp names
    exact List.forall_mem_cons.mpr ⟨fits.length_encodeEntry position, ih others⟩

/-- What belongs to no image is padding. -/
theorem getElem?_padding {front : Bytes} (before : front.length = position)
    (behind : position ≤ k)
    (inside : k < (front ++ images.flatMap fun i => pad i.data).length)
    (free : ∀ i image, images[i]? = some image →
      k < placeOf position images i ∨ placeOf position images i + image.data.length ≤ k) :
    (front ++ images.flatMap fun i => pad i.data)[k]? = some 0 := by
  induction images generalizing position front with
  | nil =>
    rw [List.flatMap_nil, List.append_nil, before] at inside
    omega
  | cons image images ih =>
    rw [List.flatMap_cons, ← List.append_assoc] at inside ⊢
    have size : (front ++ pad image.data).length = position + padded image.data.length := by
      rw [List.length_append, length_pad, before]
    -- either behind the data of the first image and in front of the next one, or behind that
    rcases Nat.lt_or_ge k (position + padded image.data.length) with here | later
    · have data : position + image.data.length ≤ k := by
        rcases free 0 image rfl with lt | le
        · exact absurd lt (Nat.not_lt_of_le behind)
        · exact le
      rw [List.getElem?_append_left (size ▸ here), pad, ← List.append_assoc,
        List.getElem?_append_right (by rw [List.length_append, before]; exact data),
        List.getElem?_replicate_of_lt]
      rw [List.length_append, before]
      omega
    · exact ih size later inside fun i other given => free (i + 1) other given

/-! ## The written form -/

/-- The padded data of all images ends the written form. -/
theorem placeOf_length_encode (names : ∀ i ∈ c.images, NameFits i.name) :
    placeOf (dataStart c.images.length) c.images c.images.length = c.encode.length := by
  rw [placeOf_length, length_encode names]

/-- The entry of a written image says its name, its size and its place. -/
theorem stored_encode (names : ∀ i ∈ c.images, NameFits i.name)
    (small : c.encode.length < 2 ^ 64) (given : c.images[i]? = some image) :
    storedName c.encode i = encodeName image.name ∧ storedSize c.encode i = image.data.length ∧
      storedPosition c.encode i = placeOf (dataStart c.images.length) c.images i := by
  -- the data ends inside what is written, so its numbers are not cut off in the entry
  have fits : NameFits image.name := names image (List.mem_of_getElem? given)
  have inside := placeOf_add_le (dataStart c.images.length) given
    (List.getElem?_eq_some_iff.mp given).1
  rw [placeOf_length_encode names] at inside
  have unpadded := le_padded image.data.length
  have there := getElem?_entriesFrom (dataStart c.images.length) given
  have entry := partAt_table c.images.length (length_entriesFrom names) there
    (c.images.flatMap fun i => pad i.data)
  rw [← encode_eq] at entry
  obtain ⟨name, -, size, position⟩ := stored_of_entry fits.length_encodeName entry
  rw [UInt64.toNat_ofNat_of_lt' (show _ < 2 ^ 64 by omega)] at size position
  exact ⟨name, size, position⟩

/-- How images are laid out in the bytes of a container. -/
structure LaidOut (bytes : Bytes) (images : List Image) : Prop where
  count : storedCount bytes = images.length
  /-- Every image is what its entry says. -/
  stored : ∀ i image, images[i]? = some image → StoredAt bytes i image
  /-- Behind a name, its place is filled up with zeros. -/
  name_padding : ∀ i image, images[i]? = some image → storedName bytes i
    = Utf8.encode image.name ++ List.replicate (nameSize - (Utf8.encode image.name).length) 0
  /-- Behind the table, every image starts at an alignment boundary. -/
  aligned : ∀ i < images.length, dataStart images.length ≤ storedPosition bytes i ∧
    dataAlignment ∣ storedPosition bytes i
  /-- An image ends before the next ones start. -/
  apart : ∀ i j, i < j → j < images.length →
    storedPosition bytes i + storedSize bytes i ≤ storedPosition bytes j
  /-- Behind the table, what belongs to no image is zero. -/
  data_padding : ∀ k, dataStart images.length ≤ k → k < bytes.length →
    (∀ i < images.length,
      k < storedPosition bytes i ∨ storedPosition bytes i + storedSize bytes i ≤ k) →
    bytes[k]? = some 0
  whole : dataAlignment ∣ bytes.length

/-- **The images of a written container lie in their order, apart and aligned, and all around them is
zero.** -/
theorem laidOut_encode (names : ∀ i ∈ c.images, NameFits i.name) (few : c.images.length < 2 ^ 32)
    (small : c.encode.length < 2 ^ 64) : LaidOut c.encode c.images := by
  have start := dvd_dataStart c.images.length
  have read := decode_encode names few small
  have image_at {i : Nat} (inside : i < c.images.length) :=
    stored_encode names small (List.getElem?_eq_getElem inside)
  constructor
  case count => exact storedCount_of_decode read
  case stored => exact fun i image given => storedAt_of_decode read given
  case name_padding => exact fun i image given => (stored_encode names small given).1
  case aligned =>
    intro i inside
    obtain ⟨-, -, position⟩ := image_at inside
    rw [position]
    exact ⟨le_placeOf .., dvd_placeOf start ..⟩
  case apart =>
    intro i j before inside
    obtain ⟨-, size, position⟩ := image_at (Nat.lt_trans before inside)
    obtain ⟨-, -, position'⟩ := image_at inside
    have apart := placeOf_add_le (dataStart c.images.length)
      (List.getElem?_eq_getElem (Nat.lt_trans before inside)) before
    have unpadded := le_padded (c.images[i]).data.length
    omega
  case data_padding =>
    intro k behind inside free
    rw [encode_eq] at inside ⊢
    refine getElem?_padding (length_table names) behind inside fun i image given => ?_
    obtain ⟨-, size, position⟩ := stored_encode names small given
    have apart := free i (List.getElem?_eq_some_iff.mp given).1
    rwa [size, position] at apart
  case whole =>
    rw [← placeOf_length_encode names]
    exact dvd_placeOf start ..

end Container

end ComputePlanner
