import ComputePlanner.Plan.Basic
import ComputePlanner.Proofs.Except
import Mathlib.Order.Bounds.Basic

/-! # Where buffers can be placed and how much memory they use
Placing goes through the buffers with the marks of the memory used so far in hand. Its outcome is
said here without the walk: placing succeeds exactly when each buffer by itself keeps clear of the
reserved part and ends within its memory, which has to be within its end to begin with
(**`Layout.placeAll_eq_ok_iff`**), and then the marks are the furthest ends
(**`Layout.isGreatest_used`**).

The pieces of the reserved part are known numbers (**`Reservation.ofThreads_eq`**). -/

namespace ComputePlanner

/-! ## The reserved part -/

namespace Reservation

/-- The pieces of the reserved part by number: the doorbell window has 281 slots of four bytes, and
the dummy descriptor and the ring begin on the next cache lines. -/
theorem ofThreads_eq (threads : Nat) : ofThreads threads = ⟨1124, 1152, 1280, 256 * threads⟩ := by
  have dummy : nextCacheLine ComputePlanner.doorbellWindow = 1152 := by decide +kernel
  have ring : nextCacheLine (1152 + transferDescriptorSize) = 1280 := by decide +kernel
  have size : ComputePlanner.ringSize threads = 256 * threads := by
    rw [ComputePlanner.ringSize, cacheLine, cacheLinesPerThread]
    omega
  rw [ofThreads, dummy, ring, size]
  rfl

/-- The reserved part has 1280 bytes and the bytes of the ring. -/
theorem stop_ofThreads (threads : Nat) : (ofThreads threads).stop = 1280 + 256 * threads := by
  rw [ofThreads_eq, stop]

end Reservation

/-- The ring begins behind the dummy descriptor. -/
theorem toNat_deviceOffset_ringBuffer (threads cores index : Nat) :
    (ringBuffer (.ofThreads threads) cores index).deviceOffset.toNat = 1280 := by
  rw [ringBuffer, Reservation.ofThreads_eq]
  rfl

/-- The ring has 256 bytes for each thread of a core. -/
theorem toNat_size_ringBuffer {threads : Nat} (few : threads ≤ maxThreads) (cores index : Nat) :
    (ringBuffer (.ofThreads threads) cores index).size.toNat = 256 * threads := by
  rw [maxThreads] at few
  rw [ringBuffer, Reservation.ofThreads_eq]
  dsimp only
  rw [toNat_clamp32]
  omega

/-! ## Marks -/

/-- The mark of one memory is raised to an end in it. -/
theorem Resources.used_raise_self (r : Resources) (space : AddressSpace) (stop : Nat) :
    (r.raise space stop).used space = max (r.used space) stop := by
  cases space <;> rfl

/-- The marks of the other memories stay. -/
theorem Resources.used_raise_of_ne (r : Resources) {space other : AddressSpace} (h : space ≠ other)
    (stop : Nat) : (r.raise space stop).used other = r.used other := by
  cases space <;> cases other <;> first | rfl | exact absurd rfl h

/-- The ends of the buffers in a memory. -/
def stops (space : AddressSpace) (bs : List Buffer) : Set Nat :=
  {stop | ∃ b ∈ bs, b.space = space ∧ b.stop = stop}

/-- No buffer ends anywhere if there is none. -/
@[simp] theorem stops_nil (space : AddressSpace) : stops space [] = ∅ :=
  Set.eq_empty_of_forall_notMem fun _ ⟨_, mem, _⟩ => List.not_mem_nil mem

/-- A buffer in the memory adds its end. -/
theorem stops_cons_of_eq {space : AddressSpace} {b : Buffer} (h : b.space = space)
    (bs : List Buffer) : stops space (b :: bs) = insert b.stop (stops space bs) := by
  ext stop
  constructor
  · rintro ⟨b', mem, inside, rfl⟩
    rcases List.mem_cons.mp mem with rfl | mem
    · exact .inl rfl
    · exact .inr ⟨b', mem, inside, rfl⟩
  · rintro (rfl | ⟨b', mem, inside, rfl⟩)
    · exact ⟨b, List.mem_cons_self, h, rfl⟩
    · exact ⟨b', List.mem_cons_of_mem b mem, inside, rfl⟩

/-- A buffer in another memory adds nothing. -/
theorem stops_cons_of_ne {space : AddressSpace} {b : Buffer} (h : b.space ≠ space)
    (bs : List Buffer) : stops space (b :: bs) = stops space bs := by
  ext stop
  constructor
  · rintro ⟨b', mem, inside, rfl⟩
    rcases List.mem_cons.mp mem with rfl | mem
    · exact absurd inside h
    · exact ⟨b', mem, inside, rfl⟩
  · rintro ⟨b', mem, inside, rfl⟩
    exact ⟨b', List.mem_cons_of_mem b mem, inside, rfl⟩

/-! ## Placing -/

/-- A buffer keeps clear of the reserved part. -/
def Buffer.Clear (b : Buffer) (r : Reservation) : Prop := b.space = .l2tcm → r.stop ≤ b.start

instance (b : Buffer) (r : Reservation) : Decidable (b.Clear r) :=
  inferInstanceAs (Decidable (_ → _))

/-- A buffer has a place by itself: it keeps clear of the reserved part and ends within its
memory. -/
structure Buffer.Placeable (b : Buffer) (r : Reservation) : Prop where
  clear : b.space = .l2tcm → r.stop ≤ b.start
  within : ∀ capacity, b.space.capacity? = some capacity → b.stop ≤ capacity

namespace Layout

variable {l : Layout} {b : Buffer} {space : AddressSpace}

/-- A memory is not used beyond its end. -/
def Fits (l : Layout) (space : AddressSpace) : Prop :=
  ∀ capacity, space.capacity? = some capacity → l.used.used space ≤ capacity

/-- No memory is used beyond its end. -/
def Within (l : Layout) : Prop :=
  ∀ space capacity, space.capacity? = some capacity → l.used.used space ≤ capacity

/-- The layout with one more buffer. -/
def put (l : Layout) (b : Buffer) : Layout := { l with used := l.used.raise b.space b.stop }

/-- The layout with more buffers. -/
def putAll (l : Layout) (bs : List Buffer) : Layout := bs.foldl put l

theorem putAll_cons (l : Layout) (b : Buffer) (bs : List Buffer) :
    l.putAll (b :: bs) = (l.put b).putAll bs := rfl

/-- The mark of a memory after one more buffer in it. -/
theorem used_put_self (l : Layout) (b : Buffer) :
    (l.put b).used.used b.space = max (l.used.used b.space) b.stop :=
  Resources.used_raise_self l.used b.space b.stop

/-- A buffer in another memory does not move a mark. -/
theorem used_put_of_ne (l : Layout) (other : b.space ≠ space) :
    (l.put b).used.used space = l.used.used space :=
  Resources.used_raise_of_ne l.used other b.stop

/-- One more buffer leaves its memory within its end if it ends there itself and the memory was within
its end before. -/
theorem fits_put_iff (l : Layout) (b : Buffer) :
    (l.put b).Fits b.space ↔
      l.Fits b.space ∧ ∀ capacity, b.space.capacity? = some capacity → b.stop ≤ capacity := by
  simp only [Fits, used_put_self, Nat.max_le, forall_and]

/-- One more buffer does not change what is reserved. -/
@[simp] theorem reservation_put (l : Layout) (b : Buffer) :
    (l.put b).reservation = l.reservation := rfl

/-- A buffer that has a place neither takes a memory beyond its end nor back within it. -/
theorem fits_put_iff_of_placeable (l : Layout) {b : Buffer} {r : Reservation}
    (placeable : b.Placeable r) (space : AddressSpace) : (l.put b).Fits space ↔ l.Fits space := by
  by_cases inside : b.space = space
  · subst inside
    rw [fits_put_iff, and_iff_left placeable.within]
  · rw [Fits, Fits, used_put_of_ne l inside]

/-- A buffer that has a place leaves every memory within its end. -/
theorem Within.put (within : l.Within) {b : Buffer} (placeable : b.Placeable l.reservation) :
    (l.put b).Within := fun space =>
  (fits_put_iff_of_placeable l placeable space).mpr (within space)

/-- Buffers that have their places leave every memory within its end. -/
theorem Within.putAll (within : l.Within) {bs : List Buffer}
    (placeable : ∀ b ∈ bs, b.Placeable l.reservation) : (l.putAll bs).Within := by
  induction bs generalizing l with
  | nil => exact within
  | cons b bs ih =>
    obtain ⟨first, rest⟩ := List.forall_mem_cons.mp placeable
    exact ih (within.put first) rest

/-- A memory is checked for what is used of it, on account of whichever buffer. -/
theorem checkCapacity_eq_ok_iff (l : Layout) (b : Buffer) :
    l.checkCapacity b = .ok () ↔ l.Fits b.space := by
  rw [checkCapacity, Fits]
  cases b.space.capacity? with
  | none => exact iff_of_true rfl nofun
  | some capacity =>
    dsimp only
    rw [ite_error_eq_ok_iff, Nat.not_lt, and_iff_left rfl]
    simp

/-- A buffer that starts in the reserved part is refused and not counted. -/
theorem place_of_not_clear (taken : ¬b.Clear l.reservation) :
    l.place b = (l, .error (.buffer b.name (.reserved b.start l.reservation.stop))) := by
  obtain ⟨inside, below⟩ := Classical.not_imp.mp taken
  exact if_pos ⟨inside, Nat.lt_of_not_le below⟩

/-- Any other buffer is counted, and then it is looked at whether that was too much. -/
theorem place_of_clear (clear : b.Clear l.reservation) :
    l.place b = (l.put b, ((l.put b).checkCapacity b).mapError (.buffer b.name)) :=
  if_neg fun taken => Nat.not_le_of_lt taken.2 (clear taken.1)

/-- A buffer is placed exactly if it has a place by itself and its memory was within its end. -/
theorem place_eq_ok_iff (l : Layout) (b : Buffer) (l' : Layout) :
    l.place b = (l', .ok ()) ↔ (b.Placeable l.reservation ∧ l.Fits b.space) ∧ l' = l.put b := by
  by_cases clear : b.Clear l.reservation
  · rw [place_of_clear clear, Prod.mk.injEq, mapError_eq_ok, checkCapacity_eq_ok_iff, fits_put_iff,
      and_comm, @eq_comm _ l']
    refine and_congr_left fun _ => ?_
    exact ⟨fun ⟨fits, within⟩ => ⟨⟨clear, within⟩, fits⟩, fun ⟨own, fits⟩ => ⟨fits, own.within⟩⟩
  · rw [place_of_not_clear clear]
    exact iff_of_false nofun fun own => clear own.1.1.clear

/-- **Buffers are placed exactly if each has a place by itself** and the memories that they are in were
within their ends. -/
theorem placeAll_eq_ok_iff (l : Layout) (bs : List Buffer) (l' : Layout) :
    l.placeAll bs = .ok l' ↔
      (∀ b ∈ bs, b.Placeable l.reservation ∧ l.Fits b.space) ∧ l' = l.putAll bs := by
  -- along the buffers; a step changes nothing about which memories are within their ends
  induction bs generalizing l with
  | nil =>
    rw [placeAll, Except.ok.injEq, eq_comm]
    exact (and_iff_right (List.forall_mem_nil _)).symm
  | cons b bs ih =>
    rw [placeAll, List.forall_mem_cons, putAll_cons]
    by_cases own : b.Placeable l.reservation ∧ l.Fits b.space
    · have step := (place_eq_ok_iff l b (l.put b)).mpr ⟨own, rfl⟩
      rw [step, and_iff_right own]
      dsimp only
      rw [ih]
      simp only [fits_put_iff_of_placeable l own.1, reservation_put]
    · refine iff_of_false (fun placed => ?_) fun all => own all.1.1
      split at placed
      · next l₁ step => exact own ((place_eq_ok_iff l b l₁).mp step).1
      · cases placed

/-- As long as every memory is within its end, it is enough that each buffer has a place by itself. -/
theorem Within.placeAll_eq_ok_iff (within : l.Within) (bs : List Buffer) (l' : Layout) :
    l.placeAll bs = .ok l' ↔ (∀ b ∈ bs, b.Placeable l.reservation) ∧ l' = l.putAll bs := by
  have fits (b : Buffer) : l.Fits b.space := within b.space
  simp only [Layout.placeAll_eq_ok_iff, fits, and_true]

/-- The mark of a memory is the furthest of the ends in it and of what was used before. -/
theorem isGreatest_used {before : Set Nat}
    (mark : IsGreatest before (l.used.used space)) (bs : List Buffer) :
    IsGreatest (stops space bs ∪ before) ((l.putAll bs).used.used space) := by
  -- along the buffers; the ends that were passed join those that were there before
  induction bs generalizing l before with
  | nil =>
    rw [stops_nil, Set.empty_union]
    exact mark
  | cons b bs ih =>
    rw [putAll_cons]
    by_cases inside : b.space = space
    · have raised : IsGreatest (insert b.stop before) ((l.put b).used.used space) := by
        subst inside
        have step := mark.insert b.stop
        rwa [max_comm, ← used_put_self] at step
      have rest := ih raised
      rwa [stops_cons_of_eq inside, Set.insert_union, ← Set.union_insert]
    · have kept : IsGreatest before ((l.put b).used.used space) := by
        rwa [used_put_of_ne l inside]
      rw [stops_cons_of_ne inside]
      exact ih kept

/-- What is used of a memory without any buffer: the reserved part of the scratch memory, and one
byte of the vector memory. -/
def leastUse (r : Reservation) : AddressSpace → Nat
  | .l2tcm => r.stop
  | .vtcm => 1
  | .ddr => 0

/-- A layout starts with the least use. -/
theorem used_ofReservation (threads : Nat) (space : AddressSpace) :
    (ofReservation (.ofThreads threads)).used.used space
      = leastUse (.ofThreads threads) space := by
  cases space with
  | l2tcm =>
    have positive := Reservation.stop_ofThreads threads
    show max (Reservation.ofThreads threads).stop 1 = (Reservation.ofThreads threads).stop
    omega
  | vtcm | ddr => rfl

/-- A reserved part that ends within the scratch memory leaves every memory within its end. -/
theorem within_of_stop_le {r : Reservation} (small : r.stop ≤ mebibyte) :
    (ofReservation r).Within := by
  intro space capacity known
  cases space with
  | l2tcm =>
    cases known
    exact Nat.max_le.mpr ⟨small, by decide⟩
  | vtcm =>
    cases known
    show 1 ≤ 8 * mebibyte
    decide
  | ddr => cases known

/-- The reserved part fits the scratch memory, since a core runs few threads. -/
theorem within_ofReservation {threads : Nat} (few : threads ≤ maxThreads) :
    (ofReservation (.ofThreads threads)).Within := by
  refine within_of_stop_le ?_
  rw [maxThreads] at few
  rw [Reservation.stop_ofThreads, mebibyte]
  omega

end Layout

end ComputePlanner
