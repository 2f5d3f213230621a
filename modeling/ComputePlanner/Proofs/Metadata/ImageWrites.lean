import ComputePlanner.Proofs.Metadata.InPlace

/-! # Writes into the init image in place
A write copies data over a part of the init image, if that part is inside the image. The writer sees
to that by looking where the write ends, and it computes the end as an address: for an end above all
addresses there is no such number. **`Edit.Writes`** tells the cases apart by the exact end. In every
build, a write that ends inside the image is stored, and one that ends beyond it at an address is
refused, with the writer as it was.

A write that ends at no address stops a checked build. A release build goes on with the address that is
left of the end. If that lies beyond the image, the write is refused after all; if it does not, the check
is passed and the writer stops at the range behind it, which ends in front of its start.

Main statement: **`Edit.imageWrites`**; what goes wrong is **`Edit.stopped_of_lastAddress`**. What a
run of writes leaves in the image of a checked build is **`Draft.getElem?_image_run`**. -/

namespace ComputePlanner

namespace ImageWrite

/-- A byte is among those that are written. -/
def Covers (w : ImageWrite) (i : Nat) : Prop := w.offset.toNat ≤ i ∧ i < w.stop

instance (w : ImageWrite) (i : Nat) : Decidable (w.Covers i) := inferInstanceAs (Decidable (_ ∧ _))

/-- What a write that is stored makes of an image. -/
structure Stored (w : ImageWrite) (image image' : Bytes) : Prop where
  length : image'.length = image.length
  /-- The data is where it was to be put. -/
  covered : ∀ i, w.Covers i → image'[i]? = w.data[i - w.offset.toNat]?
  /-- Every other byte is as it was. -/
  other : ∀ i, ¬w.Covers i → image'[i]? = image[i]?

/-- To overwrite a part of an image is to store the data there. -/
theorem stored_overwrite {w : ImageWrite} {image : Bytes} (fits : w.Fits image) :
    w.Stored image (overwrite image w.offset.toNat w.data) where
  length := length_overwrite fits.2
  covered i covers := (getElem?_overwrite fits.2 i).trans (if_pos covers)
  other i apart := (getElem?_overwrite fits.2 i).trans (if_neg apart)

/-- The fault of a write that ends beyond an image. -/
def beyond (w : ImageWrite) (image : Bytes) : FormatError :=
  .entry (.initWrite w.data.length w.offset.toNat image.length)

/-- The fault of a write that ends at no address. -/
def wrapped (w : ImageWrite) : FormatError := .wrappedWrite w.data.length w.offset.toNat

variable {w : ImageWrite} {image : Bytes}

/-- A write that ends at an address inside the image is stored, in any build. -/
theorem exists_stored (build : Build) (fits : w.Fits image) :
    ∃ image', writeImage build image w.offset w.data = .ok image' ∧ w.Stored image image' :=
  ⟨_, writeImage_eq_ok_iff.mpr ⟨fits, rfl⟩, stored_overwrite fits⟩

/-- One that ends at an address beyond the image is refused. -/
theorem writeImage_of_beyond (build : Build) (address : w.stop < addressSpaceSize)
    (long : image.length < w.stop) :
    writeImage build image w.offset w.data = .error (w.beyond image) :=
  (writeImage_of_lt build address).trans (if_pos long)

/-- What a release build makes of a write that ends at no address. -/
def wrappedRelease (w : ImageWrite) (image : Bytes) : FormatError :=
  if image.length < w.stop % addressSpaceSize then w.beyond image else w.wrapped

end ImageWrite

/-! ## One write -/

/-- An operation writes into the image: what it comes to depends on where the write ends. -/
structure Edit.Writes (e : Edit) (w : ImageWrite) : Prop where
  /-- A write that ends at an address inside the image is stored, and nothing else changes. -/
  stored : ∀ (build : Build) (d : Draft), w.Fits d.document.initImage →
    ∃ image, (e.performIn build).run d = .ok () (d.edit fun md => { md with initImage := image }) ∧
      w.Stored d.document.initImage image
  /-- One that ends at an address beyond the image is refused, and nothing changes. -/
  refused : ∀ (build : Build) (d : Draft), w.stop < addressSpaceSize →
    d.document.initImage.length < w.stop →
    (e.performIn build).run d = .error (w.beyond d.document.initImage) d
  /-- One that ends at no address stops the writer of a checked build, whatever the image is. -/
  stopped : ∀ d : Draft, addressSpaceSize ≤ w.stop → e.perform.run d = .error w.wrapped d
  /-- In a release build, it is refused or stops the writer, and nothing changes. -/
  released : ∀ d : Draft, addressSpaceSize ≤ w.stop →
    (e.performIn .release).run d = .error (w.wrappedRelease d.document.initImage) d

/-- An operation that is a copy of the data writes into the image. -/
theorem Edit.Writes.of_performIn {e : Edit} {w : ImageWrite}
    (copies : ∀ build, e.performIn build = Writing.copy build w.offset w.data) : e.Writes w where
  stored build d fits := by
    obtain ⟨image, written, stored⟩ := ImageWrite.exists_stored build fits
    refine ⟨image, ?_, stored⟩
    rw [copies, Writing.run_copy, Draft.writeInitIn, written, ok_bind]
    rfl
  refused build d address long := by
    rw [copies, Writing.run_copy, Draft.writeInitIn, ImageWrite.writeImage_of_beyond build address long]
    rfl
  stopped d wraps := by
    rw [Edit.perform, copies, Writing.run_copy, Draft.writeInitIn, writeImage_checked_of_le wraps]
    rfl
  released d wraps := by
    rw [copies, Writing.run_copy, Draft.writeInitIn, writeImage_release_of_le wraps]
    rfl

/-- **The three forms of a write**: of any data, of a byte, and of a word in little-endian order. -/
theorem Edit.imageWrites (offset : UInt64) :
    (∀ data, (Edit.writeInit offset data).Writes ⟨offset, data⟩) ∧
    (∀ value, (Edit.writeInitByte offset value).Writes ⟨offset, [value]⟩) ∧
    ∀ value, (Edit.writeInitWord offset value).Writes ⟨offset, word32 value⟩ :=
  ⟨fun _ => .of_performIn fun _ => rfl, fun _ => .of_performIn fun _ => rfl,
    fun _ => .of_performIn fun _ => rfl⟩

/-- **A byte that is written at the last address stops the writer**, in any build. The write ends beyond
the image, and yet it is not refused as an entry. -/
theorem Edit.stopped_of_lastAddress :
    let d := (Draft.start 2 0).run [.resizeInit 8]
    let w : ImageWrite := ⟨0xFFFFFFFFFFFFFFFF, [7]⟩
    d.document.initImage.length < w.stop ∧
      ∀ build, ((Edit.writeInit w.offset w.data).performIn build).run d = .error w.wrapped d ∧
        ∀ fault, ((Edit.writeInit w.offset w.data).performIn build).run d
          ≠ .error (.entry fault) d := by
  intro d w
  have writes : (Edit.writeInit w.offset w.data).Writes w := .of_performIn fun _ => rfl
  have wraps : addressSpaceSize ≤ w.stop := by decide +kernel
  have stopped (build : Build) :
      ((Edit.writeInit w.offset w.data).performIn build).run d = .error w.wrapped d := by
    cases build with
    | checked => exact writes.stopped d wraps
    | release =>
      -- nothing is left of the end, and that is inside the image
      have inside : w.wrappedRelease d.document.initImage = w.wrapped := by decide +kernel
      rw [writes.released d wraps, inside]
  refine ⟨by decide +kernel, fun build => ⟨stopped build, fun fault refused => ?_⟩⟩
  rw [stopped] at refused
  cases refused

/-! ## Runs -/

/-- The write that an operation makes. -/
def Edit.imageWrite? : Edit → Option ImageWrite
  | .writeInit offset data => some ⟨offset, data⟩
  | .writeInitByte offset value => some ⟨offset, [value]⟩
  | .writeInitWord offset value => some ⟨offset, word32 value⟩
  | _ => none

/-- An operation sets the length of the image. -/
def Edit.Resizes (e : Edit) : Prop := ∃ length, e = .resizeInit length

/-- An operation that makes a write writes into the image. -/
theorem Edit.Writes.of_imageWrite? {e : Edit} {w : ImageWrite} (makes : e.imageWrite? = some w) :
    e.Writes w := by
  cases e with
  | writeInit | writeInitByte | writeInitWord =>
    cases makes
    exact .of_performIn fun _ => rfl
  | _ => cases makes

namespace Draft

variable {e : Edit} {w : ImageWrite}

/-- An operation that makes no write leaves the image as it is, unless it sets its length. -/
theorem initImage_after (none : e.imageWrite? = none) (steady : ¬e.Resizes) (d : Draft) :
    (d.after e).document.initImage = d.document.initImage := by
  rw [after_eq_step, step]
  split
  · next d' applied =>
    obtain ⟨-, rfl⟩ := apply_eq_ok_iff.mp applied
    cases e with
    | resizeInit length => exact absurd ⟨length, rfl⟩ steady
    | writeInit | writeInitByte | writeInitWord => cases none
    | _ => rfl
  · rfl

/-- A write that is not stored leaves the writer as it was. -/
theorem after_of_not_fits (writes : e.Writes w) {d : Draft} (outside : ¬w.Fits d.document.initImage) :
    d.after e = d := by
  by_cases address : w.stop < addressSpaceSize
  · have long := Nat.lt_of_not_le fun inside => outside ⟨address, inside⟩
    rw [after, Edit.perform, writes.refused .checked d address long]
  · rw [after, writes.stopped d (Nat.le_of_not_lt address)]

/-- A write that is stored changes the image. -/
theorem stored_after (writes : e.Writes w) {d : Draft} (fits : w.Fits d.document.initImage) :
    w.Stored d.document.initImage (d.after e).document.initImage := by
  obtain ⟨image, done, stored⟩ := writes.stored .checked d fits
  rw [after, Edit.perform, done]
  exact stored

/-- No write changes the length of the image. -/
theorem length_image_after (writes : e.Writes w) (d : Draft) :
    (d.after e).document.initImage.length = d.document.initImage.length := by
  by_cases fits : w.Fits d.document.initImage
  · exact (stored_after writes fits).length
  · rw [after_of_not_fits writes fits]

/-- A byte comes from the write if it is stored and covers the byte. -/
theorem getElem?_image_after (writes : e.Writes w) (d : Draft) (i : Nat) :
    (d.after e).document.initImage[i]?
      = if w.Fits d.document.initImage ∧ w.Covers i then w.data[i - w.offset.toNat]?
        else d.document.initImage[i]? := by
  by_cases fits : w.Fits d.document.initImage
  · by_cases covers : w.Covers i
    · rw [if_pos ⟨fits, covers⟩, (stored_after writes fits).covered i covers]
    · rw [if_neg fun both => covers both.2, (stored_after writes fits).other i covers]
  · rw [if_neg fun both => fits both.1, after_of_not_fits writes fits]

/-- The last of some writes that stores a byte in an image. -/
def lastWrite? (ws : List ImageWrite) (image : Bytes) (i : Nat) : Option ImageWrite :=
  ws.findRev? fun w => w.Fits image ∧ w.Covers i

/-- Which write that is depends on the length of the image alone. -/
theorem lastWrite?_congr (ws : List ImageWrite) {image image' : Bytes}
    (length : image'.length = image.length) (i : Nat) :
    lastWrite? ws image' i = lastWrite? ws image i := by
  have same (w : ImageWrite) : w.Fits image' ↔ w.Fits image := by
    rw [ImageWrite.Fits, ImageWrite.Fits, length]
  refine congrArg (List.findRev? · ws) (funext fun w => ?_)
  exact decide_eq_decide.mpr (and_congr_left' (same w))

/-- A later write comes before an earlier one. -/
theorem lastWrite?_cons (w : ImageWrite) (ws : List ImageWrite) (image : Bytes) (i : Nat) :
    lastWrite? (w :: ws) image i
      = (lastWrite? ws image i).or (if w.Fits image ∧ w.Covers i then some w else none) := by
  rw [lastWrite?, List.findRev?, ← lastWrite?]
  cases lastWrite? ws image i <;> simp

/-- **After a run that keeps the length of the image, each byte comes from the last write that stores
it**, or from the image before. -/
theorem getElem?_image_run {edits : List Edit} (steady : ∀ e ∈ edits, ¬e.Resizes) (d : Draft)
    (i : Nat) :
    (edits.foldl after d).document.initImage[i]?
      = match lastWrite? (edits.filterMap Edit.imageWrite?) d.document.initImage i with
        | some w => w.data[i - w.offset.toNat]?
        | none => d.document.initImage[i]? := by
  induction edits generalizing d with
  | nil => rfl
  | cons e edits ih =>
    obtain ⟨here, later⟩ := List.forall_mem_cons.mp steady
    rw [List.foldl_cons, ih later]
    cases makes : e.imageWrite? with
    | none => rw [initImage_after makes here, List.filterMap_cons_none makes]
    | some w =>
      have writes : e.Writes w := .of_imageWrite? makes
      rw [lastWrite?_congr _ (length_image_after writes d), List.filterMap_cons_some makes,
        lastWrite?_cons]
      cases lastWrite? (edits.filterMap Edit.imageWrite?) d.document.initImage i with
      | some last => rfl
      | none =>
        dsimp only
        rw [getElem?_image_after writes, Option.none_or]
        split <;> rfl

end Draft

end ComputePlanner
