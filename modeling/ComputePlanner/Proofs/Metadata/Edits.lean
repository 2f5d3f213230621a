import ComputePlanner.Metadata.Draft.Edit
import ComputePlanner.Proofs.Except
import Mathlib.Algebra.Group.Nat.Defs

/-! # What runs of edits leave in a document
A run of edits of one kind changes one field of a document; the lemmas here say how, and when it is
refused. Everything else is as it was: each result is given as the draft before, with that field
changed. -/

namespace ComputePlanner

/-! ## Writes into an image -/

/-- A write of data into an image. -/
structure ImageWrite where
  offset : UInt64
  data : Bytes
  deriving DecidableEq, Repr

namespace ImageWrite

/-- Where the write ends. -/
def stop (w : ImageWrite) : Nat := w.offset.toNat + w.data.length

/-- The write ends at an address inside an image. -/
def Fits (w : ImageWrite) (image : Bytes) : Prop :=
  w.stop < addressSpaceSize ∧ w.stop ≤ image.length

instance (w : ImageWrite) (image : Bytes) : Decidable (w.Fits image) :=
  inferInstanceAs (Decidable (_ ∧ _))

end ImageWrite

@[simp] theorem overwrite_nil (image : Bytes) (start : Nat) : overwrite image start [] = image := by
  simp [overwrite]

/-- A write inside an image keeps its length. -/
theorem length_overwrite {image data : Bytes} {start : Nat}
    (inside : start + data.length ≤ image.length) :
    (overwrite image start data).length = image.length := by
  simp only [overwrite, List.length_append, List.length_take, List.length_drop]
  omega

/-- A write inside an image changes the bytes that it covers, and no others. -/
theorem getElem?_overwrite {image data : Bytes} {start : Nat}
    (inside : start + data.length ≤ image.length) (i : Nat) :
    (overwrite image start data)[i]?
      = if start ≤ i ∧ i < start + data.length then data[i - start]? else image[i]? := by
  have front : (image.take start).length = start := List.length_take_of_le (by omega)
  have both : (image.take start ++ data).length = start + data.length := by
    rw [List.length_append, front]
  rw [overwrite]
  by_cases before : i < start
  · rw [List.append_assoc, List.getElem?_append_left (by omega), List.getElem?_take_of_lt before,
      if_neg (by omega)]
  · by_cases covered : i < start + data.length
    · rw [List.getElem?_append_left (by omega), List.getElem?_append_right (by omega), front,
        if_pos ⟨Nat.le_of_not_lt before, covered⟩]
    · rw [List.getElem?_append_right (by omega), both, List.getElem?_drop, if_neg (by omega),
        Nat.add_sub_cancel' (Nat.le_of_not_lt covered)]

/-- A write behind another is one write of both. -/
theorem overwrite_overwrite {image front behind : Bytes} {start : Nat}
    (inside : start ≤ image.length) :
    overwrite (overwrite image start front) (start + front.length) behind
      = overwrite image start (front ++ behind) := by
  have length : (image.take start ++ front).length = start + front.length := by
    rw [List.length_append, List.length_take_of_le inside]
  have kept : (overwrite image start front).take (start + front.length)
      = image.take start ++ front := by
    rw [overwrite, ← length, List.take_left]
  have left : (overwrite image start front).drop (start + front.length + behind.length)
      = image.drop (start + (front ++ behind).length) := by
    rw [List.length_append, ← Nat.add_assoc, overwrite, ← length, ← List.drop_drop, List.drop_left,
      List.drop_drop]
  rw [overwrite, kept, left, overwrite, List.append_assoc (image.take start)]

/-- If the end of a write is an address, every build looks whether it is inside the image. -/
theorem writeImage_of_lt {image data : Bytes} {offset : UInt64} (build : Build)
    (address : offset.toNat + data.length < addressSpaceSize) :
    writeImage build image offset data
      = if image.length < offset.toNat + data.length then
          .error (.entry (.initWrite data.length offset.toNat image.length))
        else .ok (overwrite image offset.toNat data) := by
  rw [writeImage, build.sum?_of_lt address]
  dsimp only
  rw [UInt64.toNat_ofNat_of_lt' address, if_pos rfl]

/-- If it is not, a checked build stops. -/
theorem writeImage_checked_of_le {image data : Bytes} {offset : UInt64}
    (large : addressSpaceSize ≤ offset.toNat + data.length) :
    writeImage .checked image offset data
      = .error (.wrappedWrite data.length offset.toNat) := by
  rw [writeImage, Build.checked_sum?_of_le large]

/-- A release build looks where the address is that is left of it. If that is inside the image, the
build stops behind the check. -/
theorem writeImage_release_of_le {image data : Bytes} {offset : UInt64}
    (large : addressSpaceSize ≤ offset.toNat + data.length) :
    writeImage .release image offset data
      = .error (if image.length < (offset.toNat + data.length) % addressSpaceSize then
          .entry (.initWrite data.length offset.toNat image.length)
        else .wrappedWrite data.length offset.toNat) := by
  have left : (UInt64.ofNat (offset.toNat + data.length)).toNat
      = (offset.toNat + data.length) % addressSpaceSize := UInt64.toNat_ofNat'
  have positive : 0 < addressSpaceSize := by decide
  have shorter : (offset.toNat + data.length) % addressSpaceSize ≠ offset.toNat + data.length :=
    Nat.ne_of_lt (Nat.lt_of_lt_of_le (Nat.mod_lt _ positive) large)
  rw [writeImage, Build.sum?]
  dsimp only
  rw [left, if_neg shorter]
  split <;> rfl

/-- A write succeeds if it ends at an address inside the image, in any build. -/
theorem writeImage_eq_ok_iff {build : Build} {image image' data : Bytes} {offset : UInt64} :
    writeImage build image offset data = .ok image' ↔
      (offset.toNat + data.length < addressSpaceSize ∧
        offset.toNat + data.length ≤ image.length) ∧
      image' = overwrite image offset.toNat data := by
  by_cases address : offset.toNat + data.length < addressSpaceSize
  · rw [writeImage_of_lt build address, ite_error_eq_ok_iff, ok_eq_ok_iff, Nat.not_lt,
      and_iff_right address]
  · refine iff_of_false ?_ fun both => address both.1.1
    have large := Nat.le_of_not_lt address
    cases build with
    | checked =>
      rw [writeImage_checked_of_le large]
      exact nofun
    | release =>
      rw [writeImage_release_of_le large]
      exact nofun

namespace Draft

variable {d d' : Draft}

/-- A write into the image of a draft changes nothing else. -/
theorem writeInitIn_eq_ok_iff {build : Build} {offset : UInt64} {data : Bytes} :
    d.writeInitIn build offset data = .ok d' ↔
      (offset.toNat + data.length < addressSpaceSize ∧
        offset.toNat + data.length ≤ d.document.initImage.length) ∧
      d' = d.edit fun md => { md with initImage := overwrite md.initImage offset.toNat data } := by
  rw [writeInitIn, bind_eq_ok]
  constructor
  · rintro ⟨image, written, done⟩
    obtain ⟨fits, rfl⟩ := writeImage_eq_ok_iff.mp written
    cases done
    exact ⟨fits, rfl⟩
  · rintro ⟨fits, rfl⟩
    exact ⟨_, writeImage_eq_ok_iff.mpr ⟨fits, rfl⟩, rfl⟩

/-- The same in a checked build. -/
theorem writeInit_eq_ok_iff {offset : UInt64} {data : Bytes} :
    d.writeInit offset data = .ok d' ↔
      (offset.toNat + data.length < addressSpaceSize ∧
        offset.toNat + data.length ≤ d.document.initImage.length) ∧
      d' = d.edit fun md => { md with initImage := overwrite md.initImage offset.toNat data } :=
  writeInitIn_eq_ok_iff

/-! ## Runs -/

@[simp] theorem applyAll_nil (d : Draft) : d.applyAll [] = .ok d := rfl

theorem applyAll_cons (d : Draft) (e : Edit) (edits : List Edit) :
    d.applyAll (e :: edits) = (d.apply e >>= fun d => d.applyAll edits) := by
  rw [applyAll]
  cases d.apply e with
  | ok d => rfl
  | error fault => rfl

/-- A run goes on where the run before it stopped. -/
theorem applyAll_append (d : Draft) (edits edits' : List Edit) :
    d.applyAll (edits ++ edits') = (d.applyAll edits >>= fun d => d.applyAll edits') := by
  induction edits generalizing d with
  | nil => rfl
  | cons e edits ih =>
    rw [List.cons_append, applyAll_cons, applyAll_cons, bind_assoc]
    cases d.apply e with
    | ok d => rw [ok_bind, ok_bind, ih]
    | error fault => rfl

/-- A run that succeeds can be skipped. -/
theorem applyAll_append_of_ok {edits : List Edit} (h : d.applyAll edits = .ok d')
    (edits' : List Edit) : d.applyAll (edits ++ edits') = d'.applyAll edits' := by
  rw [applyAll_append, h, ok_bind]

/-! ## Runs of one kind -/

/-- Entries of the host's table are put behind those that are there. -/
theorem applyAll_hostEntry (d : Draft) (es : List HostEntry) :
    d.applyAll (es.map .hostEntry)
      = .ok (d.edit fun md => { md with hostTable := md.hostTable ++ es }) := by
  induction es generalizing d with
  | nil => simp [edit]
  | cons e es ih =>
    rw [List.map_cons, applyAll_cons, apply, ok_bind, ih]
    simp [addHostEntry, edit]

/-- Entries of a core's table are put behind those that are there, if there is such a core. -/
theorem applyAll_coreEntry (core : UInt16) (es : List MulticastEntry)
    (inside : core.toNat < d.document.coreTables.length) :
    d.applyAll (es.map (.coreEntry core))
      = .ok (d.edit fun md =>
        { md with coreTables := md.coreTables.modify core.toNat (· ++ es) }) := by
  induction es generalizing d with
  | nil =>
    have same : d.document.coreTables.modify core.toNat (· ++ []) = d.document.coreTables := by
      simp only [List.append_nil]
      exact List.modify_id core.toNat d.document.coreTables
    rw [List.map_nil, applyAll_nil, edit, same]
  | cons e es ih =>
    have added : d.addCoreEntry core e = .ok (d.edit fun md =>
        { md with coreTables := md.coreTables.modify core.toNat (· ++ [e]) }) := by
      rw [addCoreEntry, if_pos inside]
    rw [List.map_cons, applyAll_cons, apply, added, ok_bind, ih]
    · simp [edit, List.modify_modify_eq, Function.comp_def]
    · simpa [edit] using inside

/-- Transfers are put behind those that are there, exactly if their semaphores are declared. They
require nothing, if none moves memory that is allocated for each activation. -/
theorem applyAll_transfer (ts : List Transfer) (still : ∀ t ∈ ts, usesDynamicDdr t = false)
    (declared : ∀ t ∈ ts, ∀ op ∈ t.semaphores, op.semaphore < d.document.semaphoreCount) :
    d.applyAll (ts.map .transfer)
      = .ok (d.edit fun md => { md with transfers := md.transfers ++ ts }) := by
  induction ts generalizing d with
  | nil => simp [edit]
  | cons t ts ih =>
    obtain ⟨stillHere, stillLater⟩ := List.forall_mem_cons.mp still
    obtain ⟨here, later⟩ := List.forall_mem_cons.mp declared
    -- no semaphore is found that is not declared
    have found : t.semaphores.find? (fun op => d.document.semaphoreCount ≤ op.semaphore)
        = none := by
      rw [List.find?_eq_none]
      intro op mem
      simpa using here op mem
    have added : d.addTransfer t = .ok (d.edit fun md =>
        { md with transfers := md.transfers ++ [t] }) := by
      rw [addTransfer, found]
      simp [stillHere]
    rw [List.map_cons, applyAll_cons, apply, added, ok_bind, ih stillLater]
    · simp [edit]
    · exact later

/-- Threads are put behind those that are there, exactly if none starts at address 0. -/
theorem applyAll_thread_eq_ok_iff (ts : List Thread) :
    d.applyAll (ts.map .thread) = .ok d' ↔
      (∀ t ∈ ts, t.entry ≠ 0) ∧
      d' = d.edit fun md => { md with threads := md.threads ++ ts } := by
  induction ts generalizing d with
  | nil => simp [edit, eq_comm]
  | cons t ts ih =>
    rw [List.map_cons, applyAll_cons, apply, addThread, List.forall_mem_cons]
    by_cases zero : t.entry = 0
    · rw [if_pos zero]
      exact iff_of_false nofun fun all => all.1.1 zero
    · rw [if_neg zero, ok_bind, ih, and_assoc, and_iff_right zero]
      simp [edit]

/-! ## Tables of all cores -/

/-- To change the entry behind others is to leave those as they are. -/
theorem modify_append_cons (front : List α) (a : α) (rest : List α) (f : α → α) :
    (front ++ a :: rest).modify front.length f = front ++ f a :: rest := by
  induction front with
  | nil => rfl
  | cons b front ih =>
    rw [List.cons_append, List.length_cons, List.modify_succ_cons, ih, List.cons_append]

/-- Behind tables that are done, tables without entries are filled one after the other. -/
theorem applyAll_coreTables (done tables : List (List MulticastEntry))
    (start : d.document.coreTables = done ++ List.replicate tables.length [])
    (few : done.length + tables.length ≤ 2 ^ 16) :
    d.applyAll (tables.mapIdx fun i table =>
        table.map (Edit.coreEntry (UInt16.ofNat (done.length + i)))).flatten
      = .ok (d.edit fun md => { md with coreTables := done ++ tables }) := by
  induction tables generalizing d done with
  | nil =>
    rw [List.length_nil, List.replicate_zero] at start
    rw [List.mapIdx_nil, List.flatten_nil, applyAll_nil, edit, ← start]
  | cons table tables ih =>
    rw [List.length_cons] at few
    rw [List.length_cons, List.replicate_succ] at start
    -- the number of the next core is that of the tables that are done
    have below : done.length < 2 ^ 16 := by omega
    have number : (UInt16.ofNat done.length).toNat = done.length :=
      UInt16.toNat_ofNat_of_lt' below
    have inside : (UInt16.ofNat done.length).toNat < d.document.coreTables.length := by
      rw [number, start, List.length_append, List.length_cons]
      omega
    -- the table of the next core is filled, and it is done
    have next : d.applyAll (table.map (Edit.coreEntry (UInt16.ofNat done.length)))
        = .ok (d.edit fun md => { md with
          coreTables := (done ++ [table]) ++ List.replicate tables.length [] }) := by
      rw [applyAll_coreEntry _ table inside, number]
      simp only [edit, start, modify_append_cons, List.nil_append, List.append_assoc,
        List.singleton_append]
    have shift (i : Nat) : done.length + (i + 1) = (done ++ [table]).length + i := by
      rw [List.length_append, List.length_singleton]
      omega
    rw [List.mapIdx_cons, List.flatten_cons, Nat.add_zero, applyAll_append_of_ok next]
    simp only [shift]
    rw [ih (done ++ [table]) rfl (by rw [List.length_append, List.length_singleton]; omega)]
    simp only [edit, List.append_assoc, List.singleton_append]

end Draft

end ComputePlanner
