import ComputePlanner.Plan.Artifacts
import ComputePlanner.Proofs.Metadata.Edits
import ComputePlanner.Proofs.Plan.Layout
import ComputePlanner.Proofs.Plan.Structure

/-! # The init image of a plan
The doorbell slots are written one after the other from the start of the image, then the exit slot,
which is cleared, and behind them the dummy descriptor. Each write is refused if it ends outside the
image; what they leave behind is **`ProgramPlan.image`**.

Main statements:
* **`Draft.applyAll_handshake_eq_ok_iff`** — doorbells can be written into an image exactly if it
  holds the whole window;
* **`Planned.applyAll_imageEdits`** — the image of a plan is written without a refusal. -/

namespace ComputePlanner

/-! ## Images that end in zeros -/

/-- The front of an image that ends in zeros. -/
theorem take_append_zeros {front : Bytes} {start behind : Nat} (after : front.length ≤ start)
    (inside : start ≤ front.length + behind) :
    (front ++ List.replicate behind (0 : UInt8)).take start
      = front ++ List.replicate (start - front.length) 0 := by
  have fewer : start - front.length ≤ behind := by omega
  rw [List.take_append, List.take_of_length_le after, List.take_replicate, Nat.min_eq_left fewer]

/-- Zeros written among zeros change nothing. -/
theorem overwrite_zeros {front : Bytes} {start count behind : Nat} (after : front.length ≤ start)
    (inside : start + count ≤ front.length + behind) :
    overwrite (front ++ List.replicate behind 0) start (List.replicate count 0)
      = front ++ List.replicate behind 0 := by
  have kept := take_append_zeros after (Nat.le_of_add_right_le inside)
  have left : (front ++ List.replicate behind (0 : UInt8)).drop (start + count)
      = List.replicate (front.length + behind - (start + count)) 0 := by
    rw [List.drop_append, List.drop_of_length_le (by omega), List.drop_replicate, List.nil_append]
    congr 1
    omega
  -- the zeros in front of the write, those of the write and those behind it
  have parts : start - front.length + (count + (front.length + behind - (start + count)))
      = behind := by omega
  rw [overwrite, List.length_replicate, kept, left, List.append_assoc, List.append_assoc,
    List.replicate_append_replicate, List.replicate_append_replicate, parts]

/-- A write up to the end of an image that ends in zeros. -/
theorem overwrite_last {front data : Bytes} {start behind : Nat} (after : front.length ≤ start)
    (last : start + data.length = front.length + behind) :
    overwrite (front ++ List.replicate behind 0) start data
      = front ++ List.replicate (start - front.length) 0 ++ data := by
  have kept : (front ++ List.replicate behind (0 : UInt8)).take start
      = front ++ List.replicate (start - front.length) 0 := take_append_zeros after (by omega)
  have left : (front ++ List.replicate behind (0 : UInt8)).drop (start + data.length) = [] := by
    apply List.drop_of_length_le
    rw [List.length_append, List.length_replicate, last]
  rw [overwrite, kept, left, List.append_nil]

/-! ## Doorbells -/

/-- The next slot begins where a slot ends. -/
theorem slotOffset_succ (slot : Nat) : slotOffset (slot + 1) = slotOffset slot + 4 :=
  Nat.succ_mul slot slotSize

namespace Draft

variable {d d' : Draft}

/-- A slot is written if the image holds it. -/
theorem apply_slotEdit_eq_ok_iff {slot : Nat} {value : UInt32}
    (small : slotOffset slot + 4 < addressSpaceSize) :
    d.apply (Handshake.slotEdit slot value) = .ok d' ↔
      slotOffset (slot + 1) ≤ d.document.initImage.length ∧
      d' = d.edit fun md =>
        { md with initImage := overwrite md.initImage (slotOffset slot) (word32 value) } := by
  have written : d.apply (Handshake.slotEdit slot value)
      = d.writeInit (UInt64.ofNat (slotOffset slot)) (word32 value) := rfl
  have address : (UInt64.ofNat (slotOffset slot)).toNat = slotOffset slot :=
    UInt64.toNat_ofNat_of_lt' (Nat.lt_of_add_right_lt small)
  rw [written, writeInit_eq_ok_iff, address, length_word32, and_iff_right small, slotOffset_succ]

/-- Slots from one on are written if the image holds them all. -/
theorem applyAll_slotEdits_eq_ok_iff {slot : Nat} {values : List UInt32}
    (small : slotOffset (slot + values.length) < addressSpaceSize)
    (inside : slotOffset slot ≤ d.document.initImage.length) :
    d.applyAll (Handshake.slotEdits slot values) = .ok d' ↔
      slotOffset (slot + values.length) ≤ d.document.initImage.length ∧
      d' = d.edit fun md =>
        { md with initImage := overwrite md.initImage (slotOffset slot) (values.flatMap word32) } := by
  induction values generalizing d slot with
  | nil =>
    have same : (d.edit fun md => { md with initImage := overwrite md.initImage (slotOffset slot) [] })
        = d := by
      simp only [overwrite_nil]
      rfl
    rw [Handshake.slotEdits, applyAll_nil, Except.ok.injEq, List.flatMap_nil, same, eq_comm]
    exact (and_iff_right inside).symm
  | cons value values ih =>
    have shift : slot + (value :: values).length = slot + 1 + values.length := by
      rw [List.length_cons]
      omega
    rw [shift] at small ⊢
    have behind : slotOffset (slot + 1) ≤ slotOffset (slot + 1 + values.length) :=
      Nat.mul_le_mul_right slotSize (Nat.le_add_right ..)
    have here : slotOffset slot + 4 < addressSpaceSize :=
      Nat.lt_of_le_of_lt (slotOffset_succ slot ▸ behind) small
    -- the first write keeps the length, and both together are one write
    have length (fits : slotOffset (slot + 1) ≤ d.document.initImage.length) :
        (overwrite d.document.initImage (slotOffset slot) (word32 value)).length
          = d.document.initImage.length := length_overwrite (by
      rw [length_word32, ← slotOffset_succ]
      exact fits)
    have both : overwrite (overwrite d.document.initImage (slotOffset slot) (word32 value))
        (slotOffset (slot + 1)) (values.flatMap word32)
        = overwrite d.document.initImage (slotOffset slot) ((value :: values).flatMap word32) := by
      rw [slotOffset_succ, ← length_word32 value, overwrite_overwrite inside, List.flatMap_cons]
    rw [Handshake.slotEdits, applyAll_cons, bind_eq_ok]
    constructor
    · rintro ⟨d₁, first, rest⟩
      obtain ⟨fits, rfl⟩ := (apply_slotEdit_eq_ok_iff here).mp first
      obtain ⟨all, rfl⟩ := (ih small (by rw [edit, length fits]; exact fits)).mp rest
      rw [edit, length fits] at all
      refine ⟨all, ?_⟩
      rw [edit, edit, edit, both]
    · rintro ⟨all, rfl⟩
      have fits := Nat.le_trans behind all
      refine ⟨_, (apply_slotEdit_eq_ok_iff here).mpr ⟨fits, rfl⟩, ?_⟩
      refine (ih small (by rw [edit, length fits]; exact fits)).mpr ⟨?_, ?_⟩
      · rw [edit, length fits]
        exact all
      · rw [edit, edit, edit, both]

/-- The doorbells of a handshake are written exactly if the image holds the whole window: the slots
that are assigned with their first values, and the exit slot cleared. -/
theorem applyAll_handshake_eq_ok_iff {h : Handshake} (few : h.slots.length ≤ exitSlot) :
    d.applyAll h.edits = .ok d' ↔
      doorbellWindow ≤ d.document.initImage.length ∧
      d' = d.edit fun md =>
        { md with
          initImage := overwrite (overwrite md.initImage (slotOffset 0) (h.slots.flatMap word32))
            (slotOffset exitSlot) (word32 doorbellClear) } := by
  have slots : slotOffset (0 + h.slots.length) ≤ doorbellWindow := by
    rw [Nat.zero_add]
    exact Nat.mul_le_mul_right slotSize (Nat.le_succ_of_le few)
  have window : slotOffset (exitSlot + 1) = doorbellWindow := rfl
  have small : doorbellWindow < addressSpaceSize := by decide
  have start : slotOffset 0 ≤ d.document.initImage.length := Nat.zero_le _
  have words : slotOffset 0 + (h.slots.flatMap word32).length = slotOffset (0 + h.slots.length) := by
    rw [length_words, slotOffset, slotOffset, slotSize]
    omega
  have length (fits : slotOffset (0 + h.slots.length) ≤ d.document.initImage.length) :
      (overwrite d.document.initImage (slotOffset 0) (h.slots.flatMap word32)).length
        = d.document.initImage.length := length_overwrite (words ▸ fits)
  rw [Handshake.edits, applyAll_append, bind_eq_ok]
  constructor
  · rintro ⟨d₁, assigned, last⟩
    obtain ⟨fits, rfl⟩ :=
      (applyAll_slotEdits_eq_ok_iff (Nat.lt_of_le_of_lt slots small) start).mp assigned
    rw [applyAll_cons, bind_eq_ok] at last
    obtain ⟨d₂, cleared, ⟨⟩⟩ := last
    obtain ⟨all, rfl⟩ := (apply_slotEdit_eq_ok_iff (by decide)).mp cleared
    rw [edit, length fits, window] at all
    exact ⟨all, rfl⟩
  · rintro ⟨all, rfl⟩
    have fits := Nat.le_trans slots all
    refine ⟨_, (applyAll_slotEdits_eq_ok_iff (Nat.lt_of_le_of_lt slots small) start).mpr
      ⟨fits, rfl⟩, ?_⟩
    rw [applyAll_cons, bind_eq_ok]
    refine ⟨_, (apply_slotEdit_eq_ok_iff (by decide)).mpr ⟨?_, rfl⟩, rfl⟩
    rw [edit, length fits, window]
    exact all

end Draft

/-! ## The image of a plan -/

/-- The init image of a plan: the first values of the slots, zeros, and the dummy descriptor. -/
def ProgramPlan.image (p : ProgramPlan) : Bytes :=
  p.handshake.slots.flatMap word32
    ++ List.replicate (p.reservation.dummyOffset - 4 * p.handshake.slots.length) 0
    ++ TransferDescriptor.dummy.encode

namespace Planned

variable {c : ProgramConfig} {p : ProgramPlan} {bufs : BufferSet}

/-- The exit slot is not assigned. -/
theorem length_slots_le (planned : Planned c p bufs) : p.handshake.slots.length ≤ exitSlot := by
  have doorbells := planned.doorbells
  rw [planned.handshake]
  dsimp only
  rw [List.length_map]
  exact Nat.le_sub_one_of_lt doorbells

/-- The image ends with the dummy descriptor. -/
theorem length_image (planned : Planned c p bufs) : p.image.length = 1168 := by
  have few := planned.length_slots_le
  have pieces := planned.reservation.trans (Reservation.ofThreads_eq p.threads.total)
  rw [exitSlot, firmwareSlots] at few
  rw [ProgramPlan.image, pieces, List.length_append, List.length_append, length_words,
    List.length_replicate, TransferDescriptor.length_encode, transferDescriptorSize]
  dsimp only
  omega

/-- **The image of a plan is written without a refusal.** -/
theorem applyAll_imageEdits (planned : Planned c p bufs) {d : Draft}
    (fresh : d.document.initImage = []) :
    d.applyAll p.imageEdits = .ok (d.edit fun md => { md with initImage := p.image }) := by
  have few := planned.length_slots_le
  have pieces := planned.reservation.trans (Reservation.ofThreads_eq p.threads.total)
  have length := length_words p.handshake.slots
  rw [exitSlot, firmwareSlots] at few
  -- the image after each of the four kinds of writes
  have cleared : d.resizeInit p.reservation.initLength
      = d.edit fun md => { md with initImage := List.replicate 1168 0 } := by
    rw [Draft.resizeInit, Draft.edit, Draft.edit, fresh, pieces]
    rfl
  have assigned : overwrite (List.replicate 1168 0) (slotOffset 0)
      (p.handshake.slots.flatMap word32)
        = p.handshake.slots.flatMap word32
          ++ List.replicate (1168 - 4 * p.handshake.slots.length) 0 := by
    rw [overwrite, slotOffset, Nat.zero_mul, List.take_zero, List.nil_append, Nat.zero_add,
      List.drop_replicate, length]
  have exit : overwrite (p.handshake.slots.flatMap word32
      ++ List.replicate (1168 - 4 * p.handshake.slots.length) 0) (slotOffset exitSlot)
        (word32 doorbellClear)
        = p.handshake.slots.flatMap word32
          ++ List.replicate (1168 - 4 * p.handshake.slots.length) 0 := by
    have offset : slotOffset exitSlot = 1120 := rfl
    have zeros : word32 doorbellClear = List.replicate 4 0 := rfl
    rw [offset, zeros, overwrite_zeros]
    · omega
    · omega
  have dummy : overwrite (p.handshake.slots.flatMap word32
      ++ List.replicate (1168 - 4 * p.handshake.slots.length) 0) 1152
        TransferDescriptor.dummy.encode = p.image := by
    rw [overwrite_last, ProgramPlan.image, pieces, length]
    · omega
    · rw [TransferDescriptor.length_encode, transferDescriptorSize]
      omega
  -- none of the writes ends outside the image
  have doorbells : (d.resizeInit p.reservation.initLength).applyAll p.handshake.edits
      = .ok (d.edit fun md =>
        { md with
          initImage := p.handshake.slots.flatMap word32
            ++ List.replicate (1168 - 4 * p.handshake.slots.length) 0 }) := by
    refine (Draft.applyAll_handshake_eq_ok_iff planned.length_slots_le).mpr ⟨?_, ?_⟩
    · rw [cleared, Draft.edit, List.length_replicate]
      decide
    · rw [cleared, Draft.edit, Draft.edit, Draft.edit, assigned, exit]
  have last (d : Draft) (long : d.document.initImage.length = 1168) :
      d.writeInit (UInt64.ofNat p.reservation.dummyOffset) TransferDescriptor.dummy.encode
        = .ok (d.edit fun md =>
          { md with
            initImage := overwrite md.initImage 1152 TransferDescriptor.dummy.encode }) := by
    have offset : UInt64.ofNat p.reservation.dummyOffset = 1152 := by
      rw [pieces]
      rfl
    rw [offset]
    exact Draft.writeInit_eq_ok_iff.mpr ⟨⟨by decide, by rw [long]; decide⟩, rfl⟩
  rw [ProgramPlan.imageEdits, List.append_assoc, List.singleton_append, Draft.applyAll_cons,
    Draft.apply, ok_bind, Draft.applyAll_append_of_ok doorbells, Draft.applyAll_cons, Draft.apply,
    last, ok_bind, Draft.applyAll_nil, Draft.edit, Draft.edit, Draft.edit, dummy]
  rw [Draft.edit, List.length_append, length, List.length_replicate]
  omega

end Planned

end ComputePlanner
