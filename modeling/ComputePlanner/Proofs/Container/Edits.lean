import ComputePlanner.Proofs.Container.Building
import ComputePlanner.Proofs.Container.Layout
import Mathlib.Data.List.Nodup
import Mathlib.Logic.Function.Basic

/-! # Building a container by edits
A builder is used by operations in any order, some of which fail: a **`ContainerEdit`** names one with its
arguments, and **`ContainerEdit.perform`** carries it out in place, so that it could leave half of its work
behind. What should be there is said by a table of names (**`ContainerEdit.held`**) that knows nothing of
lists and their order. A draft **shows** such a table if it has its images and no others, in the order of
their names' bytes (**`ContainerDraft.Shows`**), and every edit keeps that up.

Main statement: **`ContainerDraft.built_of_run`** — what every run of edits leaves, and how it is written.
That not every run leaves something that can be written is **`ContainerDraft.unwritten_of_run_sharedData`**.
-/

namespace ComputePlanner

/-! ## The order of names -/

/-- Names that come one before the other are in order. -/
theorem nameBefore_trans {a b c : String} (h : nameBefore a b) (h' : nameBefore b c) :
    nameBefore a c := List.lt_trans h h'

/-- Of two names, one comes before the other. -/
theorem nameBefore_of_not {a b : String} (not : ¬nameBefore a b) (different : a ≠ b) :
    nameBefore b a := by
  refine Std.lt_of_le_of_ne not fun same => ?_
  exact different (Utf8.encode_injective same.symm)

/-! ## Operations -/

/-- An operation of a builder with its arguments. -/
inductive ContainerEdit
  | add (image : Image)
  | addFile (name : String) (contents : Except FileFault Bytes)
  | remove (name : String)
  | reset
  deriving DecidableEq, Repr

/-- A program that changes a draft of a container in place. One that fails leaves what it has changed. -/
abbrev Assembling := EStateM FormatError ContainerDraft

namespace Assembling

/-- Adds an image after two checks. -/
def add (image : Image) : Assembling Unit := do
  if image.name = "" ∨ Container.nameSize ≤ (Utf8.encode image.name).length
      ∨ '\x00' ∈ image.name.toList then
    throw (.entry (.imageName image.name ContainerDraft.nameLimit))
  else if (← get).has image.name then throw (.entry (.imageTaken image.name))
  else modify fun d => ⟨insertImage image d.images⟩

end Assembling

namespace ContainerEdit

/-- The image that is made of a file. -/
def fileImage (name : String) (data : Bytes) : Image :=
  ⟨name, if name = Image.constantsName then UInt64.ofNat data.length else 0, data⟩

/-- An operation as a builder carries it out. -/
def perform : ContainerEdit → Assembling Unit
  | add image => Assembling.add image
  | addFile name contents =>
    match contents with
    | .ok data => Assembling.add (fileImage name data)
    | .error fault => throw (.file fault)
  | remove name => modify fun d => d.remove name
  | reset => set ContainerDraft.empty

/-- Whether a name can be added at all: it is not empty, has fewer than 64 bytes, and no zero. -/
def Addable (name : String) : Prop :=
  name ≠ "" ∧ (Utf8.encode name).length < Container.nameSize ∧ '\x00' ∉ name.toList

instance (name : String) : Decidable (Addable name) := inferInstanceAs (Decidable (_ ∧ _ ∧ _))

/-- The images under their names after one more is offered. -/
def offer (held : String → Option Image) (image : Image) : String → Option Image :=
  if Addable image.name ∧ held image.name = none then
    Function.update held image.name (some image)
  else held

/-- The images under their names after an operation. -/
def keep (held : String → Option Image) : ContainerEdit → String → Option Image
  | add image => offer held image
  | addFile name (.ok data) => offer held (fileImage name data)
  | addFile _ (.error _) => held
  | remove name => Function.update held name none
  | reset => fun _ => none

/-- The images that are there after a run of operations, under their names. -/
def held (edits : List ContainerEdit) : String → Option Image := edits.foldl keep fun _ => none

end ContainerEdit

namespace ContainerDraft

variable {d d' : ContainerDraft} {e : ContainerEdit} {image : Image} {held : String → Option Image}

open ContainerEdit (Addable keep offer)

/-! ## The two ways agree -/

/-- The draft that an operation answers. -/
def apply (d : ContainerDraft) : ContainerEdit → Except FormatError ContainerDraft
  | .add image => d.add image
  | .addFile name contents => d.addFile name contents
  | .remove name => .ok (d.remove name)
  | .reset => .ok empty

/-- What a builder is left with when an operation answers a new draft or a fault. -/
def outcome (d : ContainerDraft) :
    Except FormatError ContainerDraft → EStateM.Result FormatError ContainerDraft Unit
  | .ok d' => .ok () d'
  | .error fault => .error fault d

/-- The names that can be added are the valid ones. -/
theorem validName_iff {name : String} : validName name = true ↔ Addable name := by
  have given : 1 ≤ (Utf8.encode name).length ↔ name ≠ "" := by
    rw [Nat.one_le_iff_ne_zero, ne_eq, List.length_eq_zero_iff]
    exact not_congr (Utf8.encode_injective.eq_iff (b := ""))
  have short : (Utf8.encode name).length ≤ nameLimit ↔
      (Utf8.encode name).length < Container.nameSize := Nat.lt_succ_iff.symm
  have nonzero : (Utf8.encode name).contains 0 = false ↔ '\x00' ∉ name.toList := by
    rw [← Utf8.zero_mem_encode_iff, ← List.contains_iff_mem, Bool.not_eq_true]
  simp only [validName, Bool.and_eq_true, decide_eq_true_eq, Bool.not_eq_true', given, short, nonzero,
    Addable, and_assoc]

/-- To add an image in place is to add it. -/
theorem run_add (image : Image) (d : ContainerDraft) :
    (Assembling.add image).run d = d.outcome (d.add image) := by
  have checks : (image.name = "" ∨ Container.nameSize ≤ (Utf8.encode image.name).length
      ∨ '\x00' ∈ image.name.toList) ↔ ¬validName image.name = true := by
    simp only [validName_iff, Addable, not_and_or, ne_eq, not_not, not_lt]
  rw [ContainerDraft.add]
  by_cases valid : validName image.name = true
  · by_cases taken : d.has image.name = true
    · simp [Assembling.add, checks, valid, taken, outcome]
    · simp [Assembling.add, checks, valid, taken, outcome]
  · simp [Assembling.add, checks, valid, outcome]

/-- **An operation in place leaves the new draft, or the old one and a fault.** -/
theorem run_perform (e : ContainerEdit) (d : ContainerDraft) :
    e.perform.run d = d.outcome (d.apply e) := by
  cases e with
  | add image => exact run_add image d
  | addFile name contents =>
    cases contents with
    | ok data => exact run_add (ContainerEdit.fileImage name data) d
    | error fault => rfl
  | remove name => rfl
  | reset => rfl

/-- The draft that an operation in place leaves, whether it fails or not. -/
def after (d : ContainerDraft) (e : ContainerEdit) : ContainerDraft :=
  match e.perform.run d with
  | .ok _ d' => d'
  | .error _ d' => d'

/-- The draft that a run of operations leaves. -/
def built (edits : List ContainerEdit) : ContainerDraft := edits.foldl after empty

/-- An operation in place fails with the old draft. -/
theorem perform_eq_error_iff {fault : FormatError} :
    e.perform.run d = .error fault d' ↔ d.apply e = .error fault ∧ d' = d := by
  rw [run_perform]
  cases d.apply e <;> simp [outcome, eq_comm]

/-! ## What a draft shows -/

/-- A draft has the images of a table of names, each under its own name, and no others. They are in the
order of their names' bytes, and their names are such as can be added. -/
structure Shows (d : ContainerDraft) (held : String → Option Image) : Prop where
  sorted : d.images.Pairwise fun a b => nameBefore a.name b.name
  addable : ∀ image ∈ d.images, Addable image.name
  held_iff : ∀ name image, held name = some image ↔ image ∈ d.images ∧ image.name = name

/-- A new draft shows nothing. -/
theorem shows_empty : empty.Shows fun _ => none :=
  ⟨.nil, nofun, fun _ _ => iff_of_false nofun fun has => nomatch has.1⟩

/-- A name is free exactly if no image has it. -/
theorem Shows.held_eq_none_iff (shows : d.Shows held) (name : String) :
    held name = none ↔ name ∉ d.images.map (·.name) := by
  rw [Option.eq_none_iff_forall_ne_some, List.mem_map, not_exists]
  exact forall_congr' fun image => not_congr (shows.held_iff name image)

/-- To insert an image is to add it to the others, in some place. -/
theorem perm_insertImage (image : Image) (images : List Image) :
    (insertImage image images).Perm (image :: images) := by
  induction images with
  | nil => exact .refl _
  | cons next images ih =>
    rw [insertImage]
    split
    · exact .refl _
    · exact (ih.cons next).trans (.swap ..)

/-- An image that is inserted is among the others. -/
theorem mem_insertImage {other : Image} {images : List Image} :
    other ∈ insertImage image images ↔ other = image ∨ other ∈ images := by
  rw [(perm_insertImage image images).mem_iff, List.mem_cons]

/-- An image whose name is new is inserted in order. -/
theorem pairwise_insertImage {images : List Image}
    (sorted : images.Pairwise fun a b => nameBefore a.name b.name)
    (new : ∀ other ∈ images, other.name ≠ image.name) :
    (insertImage image images).Pairwise fun a b => nameBefore a.name b.name := by
  induction images with
  | nil => exact List.pairwise_singleton ..
  | cons next images ih =>
    obtain ⟨behind, others⟩ := List.pairwise_cons.mp sorted
    obtain ⟨different, new⟩ := List.forall_mem_cons.mp new
    rw [insertImage]
    split
    · next before =>
      refine List.pairwise_cons.mpr ⟨?_, sorted⟩
      exact List.forall_mem_cons.mpr
        ⟨before, fun other mem => nameBefore_trans before (behind other mem)⟩
    · next not =>
      -- the next image stays in front, and the new one is not before it
      refine List.pairwise_cons.mpr ⟨fun other mem => ?_, ih others new⟩
      rcases mem_insertImage.mp mem with rfl | mem
      · exact nameBefore_of_not not different.symm
      · exact behind other mem

/-- A draft with one image more shows it. -/
theorem Shows.insert (shows : d.Shows held) (addable : Addable image.name)
    (free : held image.name = none) :
    Shows ⟨insertImage image d.images⟩ (Function.update held image.name (some image)) := by
  have new : ∀ other ∈ d.images, other.name ≠ image.name := fun other mem same =>
    (shows.held_eq_none_iff _).mp free (List.mem_map.mpr ⟨other, mem, same⟩)
  refine ⟨pairwise_insertImage shows.sorted new, fun other mem => ?_, fun name other => ?_⟩
  · rcases mem_insertImage.mp mem with rfl | mem
    · exact addable
    · exact shows.addable other mem
  · rw [Function.update_apply]
    dsimp only
    rw [mem_insertImage]
    by_cases same : name = image.name
    · rw [if_pos same, Option.some.injEq]
      constructor
      · rintro rfl
        exact ⟨.inl rfl, same.symm⟩
      · rintro ⟨rfl | mem, named⟩
        · rfl
        · exact absurd (named.trans same) (new other mem)
    · rw [if_neg same, shows.held_iff]
      refine and_congr_left fun named => (or_iff_right ?_).symm
      rintro rfl
      exact same named.symm

/-- A draft without an image shows the others. -/
theorem Shows.remove (shows : d.Shows held) (name : String) :
    (d.remove name).Shows (Function.update held name none) := by
  refine ⟨shows.sorted.filter _, fun image mem => ?_, fun other image => ?_⟩
  · exact shows.addable image (List.mem_of_mem_filter mem)
  · rw [Function.update_apply, ContainerDraft.remove]
    dsimp only
    rw [List.mem_filter, decide_eq_true_eq]
    by_cases same : other = name
    · rw [if_pos same]
      exact iff_of_false nofun fun kept => kept.1.2 (kept.2.trans same)
    · rw [if_neg same, shows.held_iff]
      refine and_congr_left fun named => (and_iff_left ?_).symm
      rwa [named]

/-- An image can be added exactly if its name can be and is free. -/
theorem Shows.add_eq (shows : d.Shows held) (image : Image) :
    (∃ fault, d.add image = .error fault) ∧ ¬(Addable image.name ∧ held image.name = none) ∨
      d.add image = .ok ⟨insertImage image d.images⟩ ∧ Addable image.name ∧ held image.name = none := by
  rw [← validName_iff, shows.held_eq_none_iff]
  -- what an addition answers says which of the two it is
  cases added : d.add image with
  | ok d' =>
    obtain ⟨valid, new, rfl⟩ := add_eq_ok_iff.mp added
    exact .inr ⟨rfl, valid, new⟩
  | error fault =>
    refine .inl ⟨⟨fault, rfl⟩, fun ⟨valid, new⟩ => ?_⟩
    rw [add_eq_ok_iff.mpr ⟨valid, new, rfl⟩] at added
    cases added

/-- An image that is offered is shown if it could be added. -/
theorem Shows.offer (shows : d.Shows held) (image : Image) :
    (d.after (.add image)).Shows (offer held image) := by
  rw [after, run_perform, apply, ContainerEdit.offer]
  rcases shows.add_eq image with ⟨⟨fault, added⟩, refused⟩ | ⟨added, addable, free⟩
  · rw [added, if_neg refused]
    exact shows
  · rw [added, if_pos ⟨addable, free⟩]
    exact shows.insert addable free

/-- **Every operation keeps up what is shown.** -/
theorem Shows.after (shows : d.Shows held) (e : ContainerEdit) : (d.after e).Shows (e.keep held) := by
  cases e with
  | add image => exact shows.offer image
  | addFile name contents =>
    cases contents with
    | ok data => exact shows.offer (ContainerEdit.fileImage name data)
    | error fault => exact shows
  | remove name => exact shows.remove name
  | reset => exact shows_empty

/-- Every run of operations keeps it up. -/
theorem shows_built (edits : List ContainerEdit) : (built edits).Shows (ContainerEdit.held edits) := by
  have run (d : ContainerDraft) (held : String → Option Image) (shows : d.Shows held) :
      (edits.foldl ContainerDraft.after d).Shows (edits.foldl keep held) := by
    induction edits generalizing d held with
    | nil => exact shows
    | cons e edits ih => exact ih _ _ (shows.after e)
  exact run empty _ shows_empty

/-- The names of the images fit a table. -/
theorem nameFits_built (edits : List ContainerEdit) :
    ∀ i ∈ (built edits).finish.images, Container.NameFits i.name := fun image mem =>
  nameFits_of_validName (validName_iff.mpr ((shows_built edits).addable image mem))

/-! ## Runs of additions

As many images as one likes can be added, if their names are different. To show what a builder does with
very many, there is a family of names. -/

/-- Images whose names can be added and are new are all added. -/
theorem perm_foldl_add {images : List Image} (d : ContainerDraft)
    (addable : ∀ i ∈ images, Addable i.name) (new : ((d.images ++ images).map (·.name)).Nodup) :
    ((images.map ContainerEdit.add).foldl ContainerDraft.after d).images.Perm (d.images ++ images) := by
  induction images generalizing d with
  | nil =>
    rw [List.append_nil]
    exact .refl _
  | cons image images ih =>
    obtain ⟨here, others⟩ := List.forall_mem_cons.mp addable
    have order : (d.images ++ image :: images).Perm ((image :: d.images) ++ images) := List.perm_middle
    have free : image.name ∉ d.images.map (·.name) := by
      have apart := (order.map (·.name)).nodup_iff.mp new
      rw [List.map_append, List.map_cons, List.cons_append, List.nodup_cons, List.mem_append, not_or]
        at apart
      exact apart.1.1
    have added : d.after (.add image) = ⟨insertImage image d.images⟩ := by
      rw [ContainerDraft.after, run_perform, apply, add_eq_ok_iff.mpr ⟨validName_iff.mpr here, free, rfl⟩]
      rfl
    have perm : ((d.after (.add image)).images ++ images).Perm (d.images ++ image :: images) := by
      rw [added]
      exact ((perm_insertImage image d.images).append_right images).trans order.symm
    rw [List.map_cons, List.foldl_cons]
    exact (ih _ others ((perm.map (·.name)).nodup_iff.mpr new)).trans perm

/-- The last 32 binary digits of a number as a name. -/
def numberName (n : Nat) : String :=
  String.ofList ((List.range 32).map fun i => if n.testBit i then '1' else '0')

/-- Such a name can be added. -/
theorem addable_numberName (n : Nat) : Addable (numberName n) := by
  have digits : ∀ c ∈ (List.range 32).map fun i => if n.testBit i then '1' else '0',
      c.toNat < 0x80 ∧ c ≠ '\x00' := by
    rw [List.forall_mem_map]
    intro i _
    split <;> decide
  have length : (Utf8.encode (numberName n)).length = 32 := by
    rw [numberName, Utf8.length_encode_ofList fun c mem => (digits c mem).1, List.length_map,
      List.length_range]
  refine ⟨fun empty => ?_, ?_, fun zero => ?_⟩
  · rw [empty] at length
    cases length
  · rw [length]
    decide
  · rw [numberName, String.toList_ofList] at zero
    exact (digits _ zero).2 rfl

/-- Different numbers of 32 digits have different names. -/
theorem numberName_inj {m n : Nat} (small : m < 2 ^ 32) (small' : n < 2 ^ 32)
    (same : numberName m = numberName n) : m = n := by
  have digits := List.map_inj_left.mp (String.ofList_injective same)
  have digit : ∀ b b' : Bool, (if b then '1' else '0') = (if b' then '1' else '0') → b = b' := by
    decide
  refine Nat.eq_of_testBit_eq fun i => ?_
  by_cases inside : i < 32
  · exact digit _ _ (digits i (List.mem_range.mpr inside))
  · have power : 2 ^ 32 ≤ 2 ^ i := Nat.pow_le_pow_right (by decide) (Nat.le_of_not_lt inside)
    rw [Nat.testBit_lt_two_pow (Nat.lt_of_lt_of_le small power),
      Nat.testBit_lt_two_pow (Nat.lt_of_lt_of_le small' power)]

/-- Images with the same data, named by their numbers. -/
def numbered (count : Nat) (data : Bytes) : List Image :=
  (List.range count).map fun n => ⟨numberName n, 0, data⟩

/-- **As many images as 32 digits can name are all added**, and any of them may have the same data. -/
theorem perm_built_numbered {count : Nat} (few : count ≤ 2 ^ 32) (data : Bytes) :
    (built ((numbered count data).map .add)).images.Perm (numbered count data) := by
  refine perm_foldl_add empty ?_ ?_
  · rw [numbered, List.forall_mem_map]
    exact fun n _ => addable_numberName n
  · show ((numbered count data).map (·.name)).Nodup
    rw [numbered, List.map_map]
    refine List.Nodup.map_on (fun m mem n mem' same => ?_) List.nodup_range
    have small (n : Nat) (mem : n ∈ List.range count) : n < 2 ^ 32 :=
      Nat.lt_of_lt_of_le (List.mem_range.mp mem) few
    exact numberName_inj (small m mem) (small n mem') same

/-- The container of such a run has that many images, each with the data. -/
theorem finish_numbered {count : Nat} (few : count ≤ 2 ^ 32) (data : Bytes) :
    (built ((numbered count data).map .add)).finish.images.length = count ∧
      ∀ i ∈ (built ((numbered count data).map .add)).finish.images, i.data.length = data.length := by
  have perm := perm_built_numbered few data
  refine ⟨?_, fun image mem => ?_⟩
  · rw [finish, perm.length_eq, numbered, List.length_map, List.length_range]
  · obtain ⟨n, -, rfl⟩ := List.mem_map.mp (perm.mem_iff.mp mem)
    rfl

/-! ## Runs -/

/-- What a run of operations leaves, whatever failed on the way, and how it is written. -/
structure Built (edits : List ContainerEdit) : Prop where
  /-- An image cannot be added exactly if its name is empty, has 64 bytes or more or a zero, or is there
  already. -/
  add_fails_iff : ∀ image : Image,
    (∃ fault d', (ContainerEdit.add image).perform.run (built edits) = .error fault d') ↔
      image.name = "" ∨ 64 ≤ (Utf8.encode image.name).length ∨ '\x00' ∈ image.name.toList ∨
        (ContainerEdit.held edits image.name).isSome = true
  /-- An operation that fails changes nothing. -/
  failed : ∀ (e : ContainerEdit) fault d', e.perform.run (built edits) = .error fault d' →
    d' = built edits
  /-- The container has the images that are there, under their names, and no others. -/
  held_iff : ∀ name image, ContainerEdit.held edits name = some image ↔
    image ∈ (built edits).finish.images ∧ image.name = name
  /-- They are in the order of their names' bytes. -/
  sorted : (built edits).finish.images.Pairwise fun a b => Utf8.encode a.name < Utf8.encode b.name
  /-- The container is written, if memory and the count hold it, laid out, and read back. -/
  written : (built edits).finish.images.length < 2 ^ 32 →
    (built edits).finish.encode.length < Container.memoryLimit →
    ∃ bytes, (built edits).finish.write? = some bytes ∧
      Container.decode bytes = .ok (built edits).finish ∧
      Container.LaidOut bytes (built edits).finish.images
  /-- It is not written if memory does not hold it. -/
  unwritten : Container.memoryLimit ≤ (built edits).finish.encode.length →
    (built edits).finish.write? = none

/-- **Every run of operations leaves exactly the images that it should**, in order, and what is written of
them is read back. -/
theorem built_of_run (edits : List ContainerEdit) : Built edits := by
  have shows := shows_built edits
  have names := nameFits_built edits
  constructor
  case add_fails_iff =>
    intro image
    have fails : (∃ fault d', (ContainerEdit.add image).perform.run (built edits) = .error fault d') ↔
        ∃ fault, (built edits).add image = .error fault := by
      simp only [perform_eq_error_iff, apply, exists_and_left, exists_eq, and_true]
    have refused : (image.name = "" ∨ 64 ≤ (Utf8.encode image.name).length ∨ '\x00' ∈ image.name.toList
        ∨ (ContainerEdit.held edits image.name).isSome = true) ↔
        ¬(Addable image.name ∧ ContainerEdit.held edits image.name = none) := by
      simp only [Addable, Container.nameSize, not_and_or, ne_eq, not_not, not_lt, or_assoc,
        Option.isSome_iff_ne_none]
    rw [fails, refused]
    rcases shows.add_eq image with ⟨added, not⟩ | ⟨added, can⟩
    · exact iff_of_true added not
    · refine iff_of_false ?_ (not_not.mpr can)
      rintro ⟨fault, refused⟩
      rw [added] at refused
      cases refused
  case failed => exact fun e fault d' failed => (perform_eq_error_iff.mp failed).2
  case held_iff => exact shows.held_iff
  case sorted => exact shows.sorted
  case written =>
    intro few small
    have address : (built edits).finish.encode.length < 2 ^ 64 := Nat.lt_trans small (by decide)
    refine ⟨_, ?_, Container.decode_encode names few address, Container.laidOut_encode names few address⟩
    rw [Container.write?_eq names, if_neg (Nat.not_le_of_lt small)]
  case unwritten => exact (Container.write?_eq_none_iff names).mpr

/-- A run with failures of each kind, a removal and a second start. -/
theorem built_of_run_failures :
    let edits : List ContainerEdit := [.add ⟨"old", 0, [9]⟩, .reset, .add ⟨"b", 7, [1, 2, 3]⟩,
      .add ⟨"", 0, []⟩, .add ⟨"n\x00", 0, []⟩, .add ⟨"b", 0, []⟩, .addFile "x" (.error .notFound),
      .addFile Image.constantsName (.ok [4, 5]), .add ⟨"a", 0, [6]⟩, .remove "a", .add ⟨"a", 0, []⟩]
    let c : Container := ⟨[⟨"a", 0, []⟩, ⟨"b", 7, [1, 2, 3]⟩, ⟨Image.constantsName, 2, [4, 5]⟩]⟩
    Built edits ∧ (built edits).finish = c ∧ ∃ bytes, c.write? = some bytes ∧
      Container.decode bytes = .ok c ∧ Container.LaidOut bytes c.images := by
  intro edits c
  have built : Built edits := built_of_run edits
  have leaves : (ContainerDraft.built edits).finish = c := by decide +kernel
  refine ⟨built, leaves, ?_⟩
  rw [← leaves]
  exact built.written (by rw [leaves]; decide) (by rw [leaves]; decide +kernel)

/-- **Few enough images can be too much for memory**: so it is with 2²⁸ names for the same 32 GiB. -/
theorem unwritten_of_run_sharedData :
    let edits : List ContainerEdit := (numbered (2 ^ 28) (List.replicate (2 ^ 35) 0)).map .add
    (built edits).finish.images.length < 2 ^ 32 ∧ (built edits).finish.write? = none := by
  intro edits
  obtain ⟨count, data⟩ := finish_numbered (by decide : 2 ^ 28 ≤ 2 ^ 32) (List.replicate (2 ^ 35) 0)
  refine ⟨?_, Container.write?_eq_none_of_same (nameFits_built edits) data ?_⟩
  · rw [count]
    decide
  · rw [count, List.length_replicate, Container.memoryLimit]
    decide

end ContainerDraft

end ComputePlanner
