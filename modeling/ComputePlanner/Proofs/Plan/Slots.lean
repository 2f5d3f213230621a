import ComputePlanner.Proofs.Bytes.Place
import ComputePlanner.Proofs.Calls
import ComputePlanner.Proofs.Plan.InitImage
import ComputePlanner.Proofs.Plan.Setup

/-! # Doorbell slots that are assigned one after the other
A handshake hands out doorbell slots from the start of the window on, until only the exit slot is left. Which
slot is next follows from the first values that are there already. In place, the next slot is a number and
the first values are a list, and the two have to move together (**`Handshake.run_perform`**).

The slots are then written into an init image, which may hold anything. The first values stand side by side,
so that they are one write, and the exit slot is another behind it
(**`Handshake.writtenInto_overwrite`**).

Main statement: **`Handshake.assigned_of_run`** — which slots are assigned, and what writing them does to an
image. -/

namespace ComputePlanner

/-! ## Parts of an image that is written -/

/-- What stands at the front of an image that is overwritten is what was written. -/
theorem overwrite_zero (image data : Bytes) : overwrite image 0 data = data ++ image.drop data.length := by
  rw [overwrite, List.take_zero, List.nil_append, Nat.zero_add]

/-- A part that was overwritten holds what was written. -/
theorem partAt_overwrite {image data : Bytes} {start : Nat} (inside : start ≤ image.length) :
    partAt (overwrite image start data) start data.length = data :=
  partAt_append (List.length_take_of_le inside) rfl _

/-- A part in front of what was written is as it was. -/
theorem partAt_overwrite_of_le {image : Bytes} {start first length : Nat} (data : Bytes)
    (before : first + length ≤ start) (inside : start ≤ image.length) :
    partAt (overwrite image start data) first length = partAt image first length := by
  have kept : image.take start <+: overwrite image start data := by
    rw [overwrite, List.append_assoc]
    exact List.prefix_append ..
  have short : first + length ≤ (image.take start).length := by
    rw [List.length_take_of_le inside]
    exact before
  rw [partAt_front kept short, partAt_front (List.take_prefix start image) short]

namespace Handshake

/-! ## Assignments -/

/-- What assignments come to, one after the other. -/
def assignments (h : Handshake) (bs : List Buffer) : Calls Handshake Buffer BufferSync :=
  Calls.run (fun b => keeping (assign · b)) h bs

/-- An assignment fails exactly if the exit slot is next. -/
theorem assign_eq_error_iff {h : Handshake} {b : Buffer} :
    (∃ fault, h.assign b = .error fault) ↔ exitSlot ≤ h.slots.length := by
  rw [assign]
  by_cases free : h.slots.length < exitSlot
  · rw [if_pos free]
    refine iff_of_false ?_ (Nat.not_le_of_lt free)
    rintro ⟨fault, ⟨⟩⟩
  · rw [if_neg free]
    exact iff_of_true ⟨_, rfl⟩ (Nat.le_of_not_lt free)

/-! ## Slots in place -/

/-- The slots of a handshake as they are kept in place. -/
structure SlotTable where
  /-- The next slot. -/
  next : Nat
  /-- The slots that are assigned, with their first values. -/
  values : List (Nat × UInt32)
  deriving DecidableEq, Repr

/-- The slots that are assigned so far. -/
def table (h : Handshake) : SlotTable := ⟨h.slots.length, h.slots.zipIdx.map Prod.swap⟩

/-- An assignment as it is carried out in place. -/
def perform (h : Handshake) (b : Buffer) : EStateM ConfigFault SlotTable BufferSync := do
  let slot := (← get).next
  if exitSlot ≤ slot then throw (.buffer b.name .noDoorbell)
  else
    modify fun t => { t with next := t.next + 1 }
    modify fun t => { t with values := t.values ++ [(slot, firstValue b)] }
    return h.syncOf slot b

/-- **In place, an assignment leaves the slots with the new one, or the slots as they were and a fault.** -/
theorem run_perform (h : Handshake) (slots : List UInt32) (b : Buffer) :
    (h.perform b).run { h with slots }.table
      = Calls.outcome table { h with slots } (assign { h with slots } b) := by
  rw [perform, assign]
  by_cases free : slots.length < exitSlot
  · have grown : (slots ++ [firstValue b]).zipIdx.map Prod.swap
        = slots.zipIdx.map Prod.swap ++ [(slots.length, firstValue b)] := by
      rw [List.zipIdx_append, List.map_append, Nat.zero_add]
      rfl
    simp only [EStateM.run_bind, EStateM.run_get, table, if_neg (Nat.not_le_of_lt free), if_pos free,
      Calls.outcome, grown, List.length_append]
    rfl
  · simp only [EStateM.run_bind, EStateM.run_get, table, if_pos (Nat.le_of_not_lt free), if_neg free]
    rfl

/-- The slots in place say what to write into an image. -/
def SlotTable.edits (t : SlotTable) : List Edit :=
  t.values.map (fun x => slotEdit x.1 x.2) ++ [slotEdit exitSlot doorbellClear]

/-- Slots from one on are written in their order. -/
theorem slotEdits_eq_map (slot : Nat) (values : List UInt32) :
    slotEdits slot values = (values.zipIdx slot).map fun x => slotEdit x.2 x.1 := by
  induction values generalizing slot with
  | nil => rfl
  | cons value values ih => rw [slotEdits, ih, List.zipIdx_cons, List.map_cons]

/-- They are the edits of the handshake. -/
theorem edits_table (h : Handshake) : h.table.edits = h.edits := by
  rw [SlotTable.edits, table, List.map_map, edits, slotEdits_eq_map]
  rfl

/-! ## Slots in an image -/

/-- What an image holds once the slots that were assigned have been written into it. -/
structure WrittenInto (done : List (Buffer × BufferSync)) (image image' : Bytes) : Prop where
  length : image'.length = image.length
  /-- A slot holds 1 if it is that of an output, and 0 otherwise. -/
  assigned : ∀ x ∈ done,
    partAt image' (4 * x.2.slot) 4 = if x.1.role = .output then [1, 0, 0, 0] else [0, 0, 0, 0]
  /-- The exit slot is clear. -/
  exit : partAt image' 1120 4 = [0, 0, 0, 0]
  /-- Every other byte is as it was. -/
  others : ∀ i, (∀ x ∈ done, ¬(4 * x.2.slot ≤ i ∧ i < 4 * x.2.slot + 4)) →
    ¬(1120 ≤ i ∧ i < 1124) → image'[i]? = image[i]?

/-- The bytes of a first value. -/
theorem word32_firstValue (b : Buffer) :
    word32 (firstValue b) = if b.role = .output then [1, 0, 0, 0] else [0, 0, 0, 0] := by
  rw [firstValue, apply_ite word32]
  rfl

/-- Where slots are assigned in order, the number of a slot is its place. -/
theorem slot_of_getElem? {done : List (Buffer × BufferSync)}
    (slots : done.map (·.2.slot) = List.range done.length) {i : Nat} {x : Buffer × BufferSync}
    (given : done[i]? = some x) : x.2.slot = i := by
  have inside : i < done.length := (List.getElem?_eq_some_iff.mp given).1
  have place := congrArg (·[i]?) slots
  rw [List.getElem?_map, given, Option.map_some, List.getElem?_range inside] at place
  exact Option.some.inj place

/-- No byte in front of their end is between them. -/
theorem exists_slot_of_lt {done : List (Buffer × BufferSync)}
    (slots : done.map (·.2.slot) = List.range done.length) {i : Nat} (front : i < 4 * done.length) :
    ∃ x ∈ done, 4 * x.2.slot ≤ i ∧ i < 4 * x.2.slot + 4 := by
  have inside : i / 4 < done.length := by omega
  have place := slot_of_getElem? slots (List.getElem?_eq_getElem inside)
  exact ⟨_, List.getElem_mem inside, by rw [place]; omega⟩

/-- The first values side by side and the exit slot behind them are all that is written. -/
theorem writtenInto_overwrite {done : List (Buffer × BufferSync)} {image : Bytes}
    (slots : done.map (·.2.slot) = List.range done.length) (few : done.length ≤ exitSlot)
    (long : doorbellWindow ≤ image.length) :
    WrittenInto done image
      (overwrite (overwrite image (slotOffset 0) ((done.map (firstValue ·.1)).flatMap word32))
        (slotOffset exitSlot) (word32 doorbellClear)) := by
  have before : done.length ≤ 280 := few
  have window : 1124 ≤ image.length := long
  have size : ((done.map (firstValue ·.1)).flatMap word32).length = 4 * done.length := by
    rw [length_words, List.length_map]
  have front : slotOffset 0 + ((done.map (firstValue ·.1)).flatMap word32).length ≤ image.length := by
    rw [size, slotOffset]
    omega
  have kept := length_overwrite front
  have inside : slotOffset exitSlot + (word32 doorbellClear).length
      ≤ (overwrite image (slotOffset 0) ((done.map (firstValue ·.1)).flatMap word32)).length :=
    kept.symm ▸ window
  refine
    { length := (length_overwrite inside).trans kept
      assigned := fun x mem => ?_
      exit := partAt_overwrite (Nat.le_of_add_right_le inside)
      others := fun i apart other => ?_ }
  · obtain ⟨i, given⟩ := List.getElem?_of_mem mem
    have place := slot_of_getElem? slots given
    have number : i < done.length := (List.getElem?_eq_some_iff.mp given).1
    have value : (done.map (firstValue ·.1))[i]? = some (firstValue x.1) := by
      rw [List.getElem?_map, given, Option.map_some]
    have exit : 4 * i + 4 ≤ slotOffset exitSlot := by
      rw [show slotOffset exitSlot = 1120 from rfl]
      omega
    -- the exit slot is behind, so what stands there is what the row put there
    rw [place, partAt_overwrite_of_le _ exit (Nat.le_of_add_right_le inside), slotOffset, Nat.zero_mul,
      overwrite_zero, partAt_words value, word32_firstValue]
  · have behind : 4 * done.length ≤ i := by
      by_contra among
      obtain ⟨x, mem, covers⟩ := exists_slot_of_lt slots (Nat.lt_of_not_le among)
      exact apart x mem covers
    have outside : ¬(slotOffset 0 ≤ i ∧
        i < slotOffset 0 + ((done.map (firstValue ·.1)).flatMap word32).length) := by
      rw [size, slotOffset]
      omega
    exact ((getElem?_overwrite inside i).trans (if_neg other)).trans
      ((getElem?_overwrite front i).trans (if_neg outside))

/-! ## Runs of assignments -/

/-- The slots of a handshake are those that were assigned, in order. -/
structure Assigns (start : Handshake) (c : Calls Handshake Buffer BufferSync) : Prop where
  state : c.state = { start with slots := c.done.map (firstValue ·.1) }
  slots : c.done.map (·.2.slot) = List.range c.done.length
  answers : ∀ x ∈ c.done, x.2 = start.syncOf x.2.slot x.1
  few : c.done.length ≤ exitSlot

namespace Assigns

variable {start : Handshake} {c : Calls Handshake Buffer BufferSync}

/-- An assignment fails exactly if all slots but the exit slot are assigned. -/
theorem fails_iff (h : Assigns start c) (b : Buffer) :
    (∃ fault, c.state.assign b = .error fault) ↔ exitSlot ≤ c.done.length := by
  rw [assign_eq_error_iff, h.state]
  dsimp only
  rw [List.length_map]

/-- One more assignment keeps that up, whether it fails or not. -/
theorem after (h : Assigns start c) (b : Buffer) :
    Assigns start (c.after (fun b => keeping (assign · b)) b) := by
  cases assigned : c.state.assign b with
  | error fault =>
    rw [Calls.after_of_error assigned]
    exact h
  | ok answer =>
    obtain ⟨sync, h'⟩ := answer
    obtain ⟨free, rfl, rfl⟩ := (assign_eq_ok_iff ..).mp assigned
    have next : c.state.slots.length = c.done.length := by
      rw [h.state]
      exact List.length_map ..
    -- what a buffer is told depends on the cores and the counts, which no assignment changes
    have same : c.state.syncOf c.done.length b = start.syncOf c.done.length b := by
      rw [h.state]
      rfl
    rw [Calls.after_of_ok assigned, next, same]
    refine ⟨?_, ?_, ?_, ?_⟩
    · rw [h.state, List.map_append]
      rfl
    · rw [List.map_append, h.slots, List.length_append, List.length_singleton, List.range_succ]
      rfl
    · rintro x mem
      rcases List.mem_append.mp mem with mem | mem
      · exact h.answers x mem
      · rw [List.mem_singleton.mp mem]
        rfl
    · rw [List.length_append]
      exact next ▸ free

/-- In place, one more assignment does the same. -/
theorem run_perform (h : Assigns start c) (b : Buffer) :
    (start.perform b).run c.state.table = Calls.outcome table c.state (c.state.assign b) := by
  rw [h.state]
  exact Handshake.run_perform start _ b

/-- The slots are written as two writes, if the image holds the window. -/
theorem applyAll_eq_ok_iff (h : Assigns start c) {d d' : Draft} :
    d.applyAll c.state.edits = .ok d' ↔
      doorbellWindow ≤ d.document.initImage.length ∧
      d' = d.edit fun md =>
        { md with
          initImage := overwrite
            (overwrite md.initImage (slotOffset 0) ((c.done.map (firstValue ·.1)).flatMap word32))
            (slotOffset exitSlot) (word32 doorbellClear) } := by
  have slots : c.state.slots = c.done.map (firstValue ·.1) := by rw [h.state]
  have few : c.state.slots.length ≤ exitSlot := by
    rw [slots, List.length_map]
    exact h.few
  rw [Draft.applyAll_handshake_eq_ok_iff few, slots]

end Assigns

/-- Before the first assignment, no slot is assigned. -/
theorem assigns_nil {buffers : List Buffer} {h : Handshake} (made : ofBuffers buffers = .ok h) :
    Assigns h ⟨h, []⟩ := by
  obtain ⟨-, made⟩ := ite_error_eq_ok_iff.mp made
  cases made
  exact
    { state := rfl
      slots := rfl
      answers := fun x mem => absurd mem List.not_mem_nil
      few := Nat.zero_le _ }

/-- What assignments come to. -/
structure Assigned (h : Handshake) (bs : List Buffer) : Prop where
  /-- Buffers are assigned slots as long as there are any. -/
  which : (h.assignments bs).done.map (·.1) = bs.take 280
  /-- Slots are counted from 0, in the order of the buffers. -/
  slots : (h.assignments bs).done.map (·.2.slot) = List.range (h.assignments bs).done.length
  /-- A buffer is told its part of the handshake. -/
  answers : ∀ x ∈ (h.assignments bs).done, x.2 = h.syncOf x.2.slot x.1
  /-- No more than 280 slots are assigned. -/
  few : (h.assignments bs).done.length ≤ 280
  /-- An assignment fails exactly if so many slots are. -/
  fails_iff : ∀ b, (∃ fault, (h.assignments bs).state.assign b = .error fault) ↔
    (h.assignments bs).done.length = 280
  /-- The slots may be kept in place, and from there the same is written. -/
  inPlace : Calls.run h.perform h.table bs
      = ⟨(h.assignments bs).state.table, (h.assignments bs).done⟩ ∧
    (h.assignments bs).state.table.edits = (h.assignments bs).state.edits
  /-- An assignment that fails changes nothing, and the next ones find the slots as they were. -/
  failed : ∀ b fault, (h.assignments bs).state.assign b = .error fault →
    (h.perform b).run (h.assignments bs).state.table
      = .error fault (h.assignments bs).state.table ∧
      h.assignments (bs ++ [b]) = h.assignments bs
  /-- The slots can be written into an image exactly if it holds the whole window. -/
  written_iff : ∀ d : Draft, (∃ d', d.applyAll (h.assignments bs).state.edits = .ok d') ↔
    1124 ≤ d.document.initImage.length
  /-- Nothing but the image is changed, and of that no byte outside the slots. -/
  written : ∀ d d' : Draft, d.applyAll (h.assignments bs).state.edits = .ok d' →
    ∃ image, d' = d.edit (fun md => { md with initImage := image }) ∧
      WrittenInto (h.assignments bs).done d.document.initImage image

/-- **Slots are assigned in order until only the exit slot is left, and writing them changes nothing else in
an image that holds the window.** -/
theorem assigned_of_run {buffers : List Buffer} {h : Handshake} (made : ofBuffers buffers = .ok h)
    (bs : List Buffer) : Assigned h bs := by
  have before := assigns_nil made
  have held : Assigns h (h.assignments bs) := Calls.run_induction before (fun c b held => held.after b) bs
  refine
    { which := ?_
      slots := held.slots
      answers := held.answers
      few := held.few
      fails_iff := fun b => (held.fails_iff b).trans ⟨Nat.le_antisymm held.few, Nat.le_of_eq ∘ Eq.symm⟩
      inPlace := ⟨Calls.foldl_form before (fun c b held => held.after b)
        (fun c b held => held.run_perform b) bs, edits_table _⟩
      failed := fun b fault fails => ⟨?_, ?_⟩
      written_iff := fun d => ?_
      written := fun d d' written => ?_ }
  · -- every buffer can be assigned a slot, so those that are come first
    have fails_iff (c : Calls Handshake Buffer BufferSync) (b : Buffer) (held : Assigns h c) :
        (∃ fault, c.state.assign b = .error fault) ↔ true = false ∨ exitSlot ≤ c.done.length := by
      rw [held.fails_iff b, or_iff_right Bool.noConfusion]
    rw [assignments, Calls.map_fst_done before (fun c b held => held.after b) fails_iff bs,
      List.filter_true]
    rfl
  · rw [held.run_perform b, fails]
    rfl
  · rw [assignments, Calls.run_concat]
    exact Calls.after_of_error fails
  · constructor
    · rintro ⟨d', written⟩
      exact (held.applyAll_eq_ok_iff.mp written).1
    · intro long
      exact ⟨_, held.applyAll_eq_ok_iff.mpr ⟨long, rfl⟩⟩
  · obtain ⟨long, rfl⟩ := held.applyAll_eq_ok_iff.mp written
    exact ⟨_, rfl, writtenInto_overwrite held.slots held.few long⟩

/-- A handshake of a single buffer has slots for 280, and none for the next one. -/
theorem assigned_of_run_exhausted :
    let b : Buffer := ⟨⟨.output, 0⟩, .int8, [8], .vtcm, 0, 0, 0, 8, 1, false, false, false⟩
    ∃ h, ofBuffers [b] = .ok h ∧ Assigned h (List.replicate 281 b) ∧
      (h.assignments (List.replicate 281 b)).done.length = 280 := by
  intro b
  obtain ⟨h, made⟩ : ∃ h, ofBuffers [b] = .ok h := exists_of_isOk (by decide +kernel)
  have assigned : Assigned h (List.replicate 281 b) := assigned_of_run made _
  have length := congrArg List.length assigned.which
  rw [List.length_map, List.length_take, List.length_replicate] at length
  exact ⟨h, made, assigned, length⟩

end Handshake

end ComputePlanner
