import ComputePlanner.Proofs.Plan.Offering

/-! # The order in which buffers are placed
Placing walks along the buffers with the marks in hand and looks at the mark of a memory, not at the buffer,
to see whether the memory is large enough. Neither the outcome nor the marks depend on the order of the walk
all the same: as long as nothing was refused, a mark that is beyond its end was beyond it at the start, so a
walk goes through exactly if each buffer would be accepted by itself, and raising marks commutes.

The reserved part may be larger than the scratch memory. Then no buffer can be placed there, in whatever
order, and the others are not affected.

Main statement: **`Layout.placement`**. -/

namespace ComputePlanner

/-- Raising marks commutes. -/
theorem Resources.raise_right_comm (r : Resources) (space space' : AddressSpace) (stop stop' : Nat) :
    (r.raise space stop).raise space' stop' = (r.raise space' stop').raise space stop := by
  cases space <;> cases space' <;> simp only [raise, Nat.max_right_comm]

namespace Layout

/-- Two buffers may change places. -/
theorem put_right_comm (l : Layout) (b b' : Buffer) : (l.put b).put b' = (l.put b').put b := by
  simp only [put, Resources.raise_right_comm]

/-- The layout with more buffers does not depend on their order. -/
theorem putAll_perm {bs bs' : List Buffer} (perm : bs.Perm bs') (l : Layout) :
    l.putAll bs = l.putAll bs' :=
  perm.foldl_eq' (fun b _ b' _ l => put_right_comm l b b') l

/-- Buffers are placed exactly if each would be accepted by itself. -/
theorem placeAll_eq_ok_iff_accepts (l : Layout) (bs : List Buffer) (l' : Layout) :
    l.placeAll bs = .ok l' ↔ (∀ b ∈ bs, l.Accepts b) ∧ l' = l.putAll bs := by
  simp only [placeAll_eq_ok_iff, accepts_iff]

/-- **Placing does not depend on the order.** -/
theorem placeAll_perm {bs bs' : List Buffer} (perm : bs.Perm bs') (l l' : Layout) :
    l.placeAll bs = .ok l' ↔ l.placeAll bs' = .ok l' := by
  have same (b : Buffer) : b ∈ bs ↔ b ∈ bs' := perm.mem_iff
  simp only [placeAll_eq_ok_iff_accepts, same, putAll_perm perm]

/-- More buffers do not change what is reserved. -/
@[simp] theorem reservation_putAll (l : Layout) (bs : List Buffer) :
    (l.putAll bs).reservation = l.reservation := by
  induction bs generalizing l with
  | nil => rfl
  | cons b bs ih => rw [putAll_cons, ih, reservation_put]

/-- The memory that is used once buffers are placed: of each memory, up to the furthest of the mark that
it started with and the ends of the buffers in it. -/
structure Furthest (r : Reservation) (bs : List Buffer) (used : Resources) : Prop where
  l2tcm : IsGreatest (insert (max r.stop 1) (stops .l2tcm bs)) used.l2tcm
  vtcm : IsGreatest (insert 1 (stops .vtcm bs)) used.vtcm
  ddr : IsGreatest (insert 0 (stops .ddr bs)) used.ddr

/-- The marks behind a reserved part and buffers are the furthest ends. -/
theorem furthest_putAll (r : Reservation) (bs : List Buffer) :
    Furthest r bs ((ofReservation r).putAll bs).used := by
  have mark (space : AddressSpace) :
      IsGreatest (insert ((ofReservation r).used.used space) (stops space bs))
        (((ofReservation r).putAll bs).used.used space) := by
    rw [Set.insert_eq, Set.union_comm]
    exact isGreatest_used isGreatest_singleton bs
  exact ⟨mark .l2tcm, mark .vtcm, mark .ddr⟩

/-- **How buffers are placed behind a reserved part**, whatever their order and however large the reserved
part: all orders lead to the same layout or none does, there is one exactly if each buffer would be accepted
by itself, and its marks are the furthest ends. -/
theorem placement (r : Reservation) (bs : List Buffer) :
    (∀ bs', bs'.Perm bs → ∀ l,
      (ofReservation r).placeAll bs' = .ok l ↔ (ofReservation r).placeAll bs = .ok l) ∧
    ((∃ l, (ofReservation r).placeAll bs = .ok l) ↔ ∀ b ∈ bs, (ofReservation r).Accepts b) ∧
    ∀ l, (ofReservation r).placeAll bs = .ok l → l.reservation = r ∧ Furthest r bs l.used := by
  refine ⟨fun bs' perm l => placeAll_perm perm _ l, ?_, fun l placed => ?_⟩
  · simp only [placeAll_eq_ok_iff_accepts, exists_and_left, exists_eq, and_true]
  · obtain ⟨-, rfl⟩ := (placeAll_eq_ok_iff_accepts ..).mp placed
    exact ⟨reservation_putAll _ bs, furthest_putAll r bs⟩

/-- A reserved part larger than the scratch memory, and buffers in the other memories, one of which ends at
the last address only because it is cut off there: they are placed in both orders. -/
theorem placement_oversized :
    let r : Reservation := .ofThreads 5000
    let bs := [inputAt .vtcm 16 8, inputAt .ddr 0xFFFFFFFFFFFFFFFF 16, inputAt .vtcm 0 16]
    let l : Layout := ⟨r, ⟨1281280, 24, 18446744073709551615⟩⟩
    mebibyte < r.stop ∧ bs.reverse.Perm bs ∧ (ofReservation r).placeAll bs = .ok l ∧
      (ofReservation r).placeAll bs.reverse = .ok l ∧ Furthest r bs l.used := by
  intro r bs l
  obtain ⟨orders, -, marks⟩ := placement r bs
  have perm : bs.reverse.Perm bs := bs.reverse_perm
  have placed : (ofReservation r).placeAll bs = .ok l := by decide +kernel
  exact ⟨by decide +kernel, perm, placed, (orders _ perm l).mpr placed, (marks l placed).2⟩

end Layout

end ComputePlanner
