import ComputePlanner.Proofs.Plan.Layout

/-! # Offering buffers one after the other
Planning stops at the first buffer that cannot be placed. A caller who goes on finds that the two ways
of being refused differ. A buffer that starts in the reserved part leaves no trace. Any other is counted
as used memory before it is looked at whether memory is left: one that ends beyond its memory is refused
and stays counted, so that nothing is accepted in that memory from then on. **`Layout.Offered`** says
memory by memory what a run of offers comes to, compared with a run in which the buffers that were
refused had never been offered.

Main statement: **`Layout.offered_of_stop_le`**; what goes wrong is **`Layout.disturbed_of_overfull`**. -/

namespace ComputePlanner

namespace Layout

variable {l l' : Layout} {b : Buffer} {space : AddressSpace}

/-- The layout after a buffer is offered, whether it is accepted or not. -/
def offer (l : Layout) (b : Buffer) : Layout := (l.place b).1

/-- A buffer is accepted. -/
def Accepts (l : Layout) (b : Buffer) : Prop := (l.place b).2 = .ok ()

instance (l : Layout) (b : Buffer) : Decidable (l.Accepts b) :=
  inferInstanceAs (Decidable (_ = _))

/-- The layout after buffers are offered one after the other. -/
def offerAll (l : Layout) (bs : List Buffer) : Layout := bs.foldl offer l

/-- Those of the buffers that are accepted when they are offered one after the other. -/
def accepted (l : Layout) : List Buffer → List Buffer
  | [] => []
  | b :: bs => if l.Accepts b then b :: accepted (l.offer b) bs else accepted (l.offer b) bs

/-! ## One offer -/

/-- **A buffer is accepted if it has a place by itself and its memory is within its end.** -/
theorem accepts_iff (l : Layout) (b : Buffer) :
    l.Accepts b ↔ b.Placeable l.reservation ∧ l.Fits b.space := by
  constructor
  · intro accepted
    exact ((place_eq_ok_iff l b (l.place b).1).mp (Prod.ext rfl accepted)).1
  · intro own
    exact congrArg Prod.snd ((place_eq_ok_iff l b (l.put b)).mpr ⟨own, rfl⟩)

/-- A buffer that starts in the reserved part leaves the layout as it was. -/
theorem offer_of_not_clear (taken : ¬b.Clear l.reservation) : l.offer b = l := by
  rw [offer, place_of_not_clear taken]

/-- Any other is counted. -/
theorem offer_of_clear (clear : b.Clear l.reservation) : l.offer b = l.put b := by
  rw [offer, place_of_clear clear]

/-- An offer does not change what is reserved. -/
@[simp] theorem reservation_offer (l : Layout) (b : Buffer) :
    (l.offer b).reservation = l.reservation := by
  by_cases clear : b.Clear l.reservation
  · rw [offer_of_clear clear]
    rfl
  · rw [offer_of_not_clear clear]

/-! ## Runs of offers -/

@[simp] theorem offerAll_nil (l : Layout) : l.offerAll [] = l := rfl

theorem offerAll_cons (l : Layout) (b : Buffer) (bs : List Buffer) :
    l.offerAll (b :: bs) = (l.offer b).offerAll bs := rfl

/-- A run of offers does not change what is reserved. -/
@[simp] theorem reservation_offerAll (l : Layout) (bs : List Buffer) :
    (l.offerAll bs).reservation = l.reservation := by
  induction bs generalizing l with
  | nil => rfl
  | cons b bs ih => rw [offerAll_cons, ih, reservation_offer]

/-- An offer leaves a memory within its end if it was, unless a buffer that is counted ends beyond
it. -/
theorem fits_offer_iff (l : Layout) (b : Buffer) (space : AddressSpace) :
    (l.offer b).Fits space ↔
      l.Fits space ∧
        (b.space = space → b.Clear l.reservation → b.Placeable l.reservation) := by
  by_cases clear : b.Clear l.reservation
  · rw [offer_of_clear clear]
    by_cases inside : b.space = space
    · subst inside
      rw [fits_put_iff]
      refine and_congr_right fun _ => ?_
      exact ⟨fun within _ _ => ⟨clear, within⟩, fun own => (own rfl clear).within⟩
    · rw [Fits, used_put_of_ne l inside]
      exact (and_iff_left fun same => absurd same inside).symm
  · rw [offer_of_not_clear clear]
    exact (and_iff_left fun _ free => absurd free clear).symm

/-- **A memory is within its end after a run of offers if it was before and no buffer that was counted
ends beyond it**, whether it was accepted or not. -/
theorem fits_offerAll_iff (l : Layout) (bs : List Buffer) (space : AddressSpace) :
    (l.offerAll bs).Fits space ↔
      l.Fits space ∧
        ∀ b ∈ bs, b.space = space → b.Clear l.reservation → b.Placeable l.reservation := by
  induction bs generalizing l with
  | nil => exact (and_iff_left (List.forall_mem_nil _)).symm
  | cons b bs ih =>
    rw [offerAll_cons, ih, fits_offer_iff, reservation_offer, List.forall_mem_cons, and_assoc]

/-- What is accepted has a place by itself. -/
theorem placeable_of_mem_accepted {bs : List Buffer} (mem : b ∈ l.accepted bs) :
    b.Placeable l.reservation := by
  induction bs generalizing l with
  | nil => cases mem
  | cons other bs ih =>
    rw [accepted] at mem
    split at mem
    · next own =>
      rcases List.mem_cons.mp mem with rfl | mem
      · exact ((accepts_iff l b).mp own).1
      · exact reservation_offer l other ▸ ih mem
    · exact reservation_offer l other ▸ ih mem

/-- **In a memory that is within its end, the buffers that were refused leave no trace**: it is used as
far as if only those that were accepted had been offered. -/
theorem used_offerAll_accepted {bs : List Buffer} (same : l.reservation = l'.reservation)
    (before : l.used.used space = l'.used.used space) (fits : (l.offerAll bs).Fits space) :
    (l.offerAll bs).used.used space = (l'.offerAll (l.accepted bs)).used.used space := by
  induction bs generalizing l l' with
  | nil => exact before
  | cons b bs ih =>
    rw [offerAll_cons] at fits ⊢
    obtain ⟨here, -⟩ := (fits_offerAll_iff _ bs space).mp fits
    rw [accepted]
    by_cases own : l.Accepts b
    · -- it is counted in both runs
      have clear := ((accepts_iff l b).mp own).1.clear
      rw [if_pos own, offerAll_cons]
      refine ih ?_ ?_ fits
      · rw [reservation_offer, reservation_offer, same]
      · rw [offer_of_clear clear, offer_of_clear (same ▸ clear)]
        by_cases inside : b.space = space
        · subst inside
          rw [used_put_self, used_put_self, before]
        · rw [used_put_of_ne l inside, used_put_of_ne l' inside, before]
    · rw [if_neg own]
      refine ih ?_ ?_ fits
      · rw [reservation_offer, same]
      · by_cases clear : b.Clear l.reservation
        · -- it is counted in the first run only, and so in another memory
          have other : b.space ≠ space := by
            rintro rfl
            obtain ⟨held, within⟩ := (fits_offer_iff l b b.space).mp here
            exact own ((accepts_iff l b).mpr ⟨within rfl clear, held⟩)
          rw [offer_of_clear clear, used_put_of_ne l other, before]
        · rw [offer_of_not_clear clear, before]

/-- What a run of offers comes to that starts with a reserved part, compared with a run in which the
buffers that were refused had never been offered. -/
structure Offered (r : Reservation) (bs : List Buffer) (l kept : Layout) : Prop where
  /-- A buffer that starts in the reserved part is refused and leaves everything as it was. -/
  reserved : ∀ b, ¬b.Clear r → ¬l.Accepts b ∧ l.offer b = l
  /-- Any other is counted, and so is one that is refused. -/
  counted : ∀ b, b.Clear r → l.offer b = l.put b
  /-- A memory is beyond its end exactly if a buffer was counted that ends beyond it. -/
  fits_iff : ∀ space, l.Fits space ↔
    ∀ b ∈ bs, b.space = space → b.Clear r → b.Placeable r
  /-- In a memory that is not, nothing is left of the buffers that were refused. -/
  undisturbed : ∀ space, l.Fits space → l.used.used space = kept.used.used space
  /-- In such a memory a buffer is accepted as if they had never been offered, in any other none is. -/
  accepts_iff : ∀ b, l.Accepts b ↔ kept.Accepts b ∧ l.Fits b.space
  /-- Had they never been offered, no memory would be used beyond its end. -/
  kept_within : kept.Within

/-- **What a run of offers comes to**, if the reserved part ends within the scratch memory. -/
theorem offered_of_stop_le (r : Reservation) (bs : List Buffer) (small : r.stop ≤ mebibyte) :
    Offered r bs ((ofReservation r).offerAll bs)
      ((ofReservation r).offerAll ((ofReservation r).accepted bs)) := by
  have start : (ofReservation r).Within := within_of_stop_le small
  have own : ∀ b ∈ (ofReservation r).accepted bs, b.Placeable r := fun _ =>
    placeable_of_mem_accepted
  have within : ((ofReservation r).offerAll ((ofReservation r).accepted bs)).Within := fun space =>
    (fits_offerAll_iff _ _ space).mpr ⟨start space, fun b mem _ _ => own b mem⟩
  have reservation : ((ofReservation r).offerAll bs).reservation = r := reservation_offerAll ..
  constructor
  case reserved =>
    intro b taken
    rw [← reservation] at taken
    exact ⟨fun accepted => taken ((Layout.accepts_iff _ b).mp accepted).1.clear,
      offer_of_not_clear taken⟩
  case counted => exact fun b clear => offer_of_clear (reservation.symm ▸ clear)
  case fits_iff => exact fun space => (fits_offerAll_iff _ bs space).trans (and_iff_right (start space))
  case undisturbed => exact fun space fits => used_offerAll_accepted rfl rfl fits
  case accepts_iff =>
    intro b
    rw [Layout.accepts_iff, Layout.accepts_iff, reservation, reservation_offerAll]
    refine and_congr_left fun _ => (and_iff_left (within b.space)).symm
  case kept_within => exact within

/-- An input of bytes at a place of a memory. -/
def inputAt (space : AddressSpace) (start : UInt64) (size : UInt32) : Buffer where
  name := ⟨.input, 0⟩
  type := .int8
  dims := [size.toUInt64]
  space := space
  baseOffset := 0
  deviceOffset := start
  hostOffset := 0
  size := size
  cores := 1
  inFence := false
  outFence := false
  allowPartial := false

/-- A run with buffers that are refused: one in the reserved part, one that ends beyond the vector
memory, and one behind it that would fit there. -/
def mixedOffers : List Buffer :=
  [inputAt .l2tcm 1024 8, inputAt .l2tcm 2304 1046272, inputAt .vtcm 1 8388608, inputAt .vtcm 0 16,
    inputAt .ddr 4096 16]

/-- The scratch memory and the memory off the chip are used as if none of them had been offered, the
vector memory is not. -/
theorem offered_of_stop_le_mixed :
    let start := ofReservation (.ofThreads 4)
    let l := start.offerAll mixedOffers
    Offered (.ofThreads 4) mixedOffers l (start.offerAll (start.accepted mixedOffers)) ∧
      start.accepted mixedOffers = [inputAt .l2tcm 2304 1046272, inputAt .ddr 4096 16] ∧
      l.used = ⟨1048576, 8388609, 4112⟩ :=
  ⟨offered_of_stop_le (.ofThreads 4) mixedOffers (by decide +kernel), by decide +kernel,
    by decide +kernel⟩

/-- **A buffer that is refused disturbs the next one.** It raises the mark of its memory beyond the end,
and a buffer that would have been accepted without it is refused. -/
theorem disturbed_of_overfull :
    let l := ofReservation (.ofThreads 4)
    let large := inputAt .vtcm 0 8388609
    let small := inputAt .vtcm 0 16
    ¬l.Accepts large ∧ (l.offer large).used ≠ l.used ∧
      8 * mebibyte < (l.offer large).used.used .vtcm ∧
      ¬(l.offerAll [large]).Accepts small ∧ (l.offerAll (l.accepted [large])).Accepts small := by
  decide +kernel

end Layout

end ComputePlanner
