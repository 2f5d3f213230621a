import ComputePlanner.Container.Draft
import ComputePlanner.Proofs.Container.RoundTrip

/-! # Building containers
An image is added to a draft if its name is valid and new, and validating a container looks at the
names of its images only. So both can be decided from the names, whatever the images hold.

Main statements:
* **`ContainerDraft.add_eq_ok_iff`** — when an image can be added;
* **`ContainerDraft.add_of_between`** — where it goes;
* **`Container.validate_eq_ok_iff`** — when a loader finds what it needs;
* **`Container.image?_of_mem`** — images with names of their own are found under them. -/

namespace ComputePlanner

/-- An image of a name is among images if the name is among theirs. -/
theorem isSome_find?_name (images : List Image) (name : String) :
    (images.find? (·.name = name)).isSome = true ↔ name ∈ images.map (·.name) := by
  rw [List.find?_isSome, List.mem_map]
  simp only [decide_eq_true_eq]

namespace ContainerDraft

variable {d d' : ContainerDraft} {image : Image}

/-- A draft has the images whose names are in it. -/
theorem has_iff (d : ContainerDraft) (name : String) :
    d.has name = true ↔ name ∈ d.images.map (·.name) := isSome_find?_name d.images name

/-- An image is added exactly if its name is valid and new; it goes to its place. -/
theorem add_eq_ok_iff :
    d.add image = .ok d' ↔ validName image.name = true ∧ image.name ∉ d.images.map (·.name) ∧
      d' = ⟨insertImage image d.images⟩ := by
  rw [← has_iff, add, ite_eq_ok_iff, ite_error_eq_ok_iff, ok_eq_ok_iff]

/-- An image goes behind the images that its name does not come before. -/
theorem insertImage_between {front back : List Image}
    (after : ∀ other ∈ front, ¬nameBefore image.name other.name)
    (before : ∀ other ∈ back, nameBefore image.name other.name) :
    insertImage image (front ++ back) = front ++ image :: back := by
  induction front with
  | nil =>
    cases back with
    | nil => rfl
    | cons other back =>
      rw [List.nil_append, insertImage, if_pos (before other List.mem_cons_self)]
      rfl
  | cons other front ih =>
    obtain ⟨here, later⟩ := List.forall_mem_cons.mp after
    rw [List.cons_append, insertImage, if_neg here, ih later]
    rfl

/-- A name can be added between two lists of names: it is valid and new, it does not come before
those in front, and it comes before those behind. -/
def Between (name : String) (front back : List String) : Prop :=
  validName name = true ∧ name ∉ front ++ back ∧ (∀ other ∈ front, ¬nameBefore name other) ∧
    ∀ other ∈ back, nameBefore name other

instance (name : String) (front back : List String) : Decidable (Between name front back) :=
  inferInstanceAs (Decidable (_ ∧ _ ∧ _ ∧ _))

/-- An image whose name can be added between those of others is added between the others. -/
theorem add_of_between (front back : List Image) (image : Image)
    (between : Between image.name (front.map (·.name)) (back.map (·.name))) :
    (⟨front ++ back⟩ : ContainerDraft).add image = .ok ⟨front ++ image :: back⟩ := by
  obtain ⟨valid, new, after, before⟩ := between
  rw [← List.map_append] at new
  rw [List.forall_mem_map] at after before
  exact add_eq_ok_iff.mpr ⟨valid, new, by rw [insertImage_between after before]⟩

/-- A valid name fits the table. -/
theorem nameFits_of_validName {name : String} (valid : validName name = true) :
    Container.NameFits name := by
  simp only [validName, Bool.and_eq_true, decide_eq_true_eq, Bool.not_eq_true'] at valid
  obtain ⟨⟨-, length⟩, nonzero⟩ := valid
  refine ⟨Nat.le_trans length (by decide), fun mem => ?_⟩
  rw [List.contains_iff_mem.mpr mem] at nonzero
  cases nonzero

end ContainerDraft

namespace Container

variable {c : Container}

/-- A container has the images whose names are in it. -/
theorem has_iff (c : Container) (name : String) :
    c.has name = true ↔ name ∈ c.images.map (·.name) := isSome_find?_name c.images name

/-- Nothing is missing if the binary and the network descriptor are there, and the constants and
their sizes both or none of them. -/
theorem missing_eq_nil_iff :
    c.missing = [] ↔ c.has Image.binaryName = true ∧ c.has Image.networkName = true ∧
      (c.has Image.constantsName = true ↔ c.has Image.constantsSizesName = true) := by
  have needed : [Image.binaryName, Image.networkName].filter (!c.has ·) = [] ↔
      c.has Image.binaryName = true ∧ c.has Image.networkName = true := by
    simp [List.filter_eq_nil_iff]
  rw [missing, List.append_eq_nil_iff, List.append_eq_nil_iff, needed, and_assoc, and_assoc]
  refine and_congr_right fun _ => and_congr_right fun _ => ?_
  cases c.has Image.constantsName <;> cases c.has Image.constantsSizesName <;> decide

/-- **A container is valid** if it has two images and a loader misses none. -/
theorem validate_eq_ok_iff :
    c.validate = .ok () ↔ 2 ≤ c.images.length ∧ c.missing = [] := by
  rw [validate, ite_error_eq_ok_iff, ite_eq_ok_iff, Nat.not_lt, List.isEmpty_iff, and_iff_left rfl]

/-- **An image is found under its name**, if it is the only one of the name. -/
theorem image?_of_mem {image : Image} (distinct : (c.images.map (·.name)).Nodup)
    (mem : image ∈ c.images) : c.image? image.name = some image := by
  obtain ⟨images⟩ := c
  rw [image?]
  dsimp only at distinct mem ⊢
  -- along the images in front of it, which have other names
  induction images with
  | nil => exact absurd mem List.not_mem_nil
  | cons other images ih =>
    obtain ⟨apart, distinct⟩ := List.nodup_cons.mp distinct
    rcases List.mem_cons.mp mem with rfl | mem
    · exact List.find?_cons_of_pos (decide_eq_true rfl)
    · have different : other.name ≠ image.name := fun same =>
        apart (List.mem_map.mpr ⟨image, mem, same.symm⟩)
      rw [List.find?_cons_of_neg (by simpa using different)]
      exact ih distinct mem

end Container

end ComputePlanner
