import ComputePlanner.Plan.Basic
import ComputePlanner.Proofs.Except
import Mathlib.Algebra.Group.Nat.Defs

/-! # What resolving a buffer settles
**`BufferSpec.Resolved`** lists all that resolving a buffer checks and decides; resolving succeeds
with a buffer exactly when it relates the two (**`BufferSpec.resolve_eq_ok_iff`**). The buffers of a
role are resolved one by one, under the names that their places give them
(**`resolveFrom_eq_ok_iff`**). -/

namespace ComputePlanner

namespace BufferSpec

/-- What a buffer has in common with what was asked for, once its bytes, its cores and its fences
are known. -/
def settled (s : BufferSpec) (name : BufferName) (size cores : UInt32) (inFence outFence : Bool) :
    Buffer where
  name := name
  type := s.type
  dims := s.dims
  space := s.space
  baseOffset := s.baseOffset
  deviceOffset := s.deviceOffset
  hostOffset := s.hostOffset
  size := size
  cores := cores
  inFence := inFence
  outFence := outFence
  allowPartial := s.allowPartial

/-- A buffer is what was asked for, under a name and on the cores of a program. -/
structure Resolved (s : BufferSpec) (name : BufferName) (cores : UInt32) (b : Buffer) : Prop where
  /-- Nothing but bytes, cores and fences is decided. -/
  shape : b = s.settled name b.size b.cores b.inFence b.outFence
  size : s.checkedSize = .ok b.size
  cores : s.coreMask cores = .ok b.cores
  place : s.checkPlace name.role b.cores = .ok ()
  /-- It ends below the addresses of 32 bits. -/
  range : (b.stop?.bind fit32?).isNone = false
  fences : s.fences name.role = .ok (b.inFence, b.outFence)
  /-- Only inputs are transferred in part. -/
  inputOnly : s.allowPartial = true → name.role = .input

/-- A buffer is resolved exactly if it is what was asked for. -/
theorem resolve_eq_ok_iff (s : BufferSpec) (name : BufferName) (cores : UInt32) (b : Buffer) :
    s.resolve name cores = .ok b ↔ s.Resolved name cores b := by
  rw [resolve, mapError_eq_ok, resolveAs]
  constructor
  · -- the checks in their order, each of which must have passed
    intro h
    obtain ⟨size, hsize, h⟩ := bind_eq_ok.mp h
    obtain ⟨mask, hmask, h⟩ := bind_eq_ok.mp h
    obtain ⟨⟨⟩, hplace, h⟩ := bind_eq_ok.mp h
    dsimp only at h
    split at h
    · cases h
    · rename_i inRange
      obtain ⟨⟨inFence, outFence⟩, hfences, h⟩ := bind_eq_ok.mp h
      dsimp only at h
      split at h
      · cases h
      · rename_i whole
        cases h
        exact ⟨rfl, hsize, hmask, hplace, Bool.not_eq_true _ ▸ inRange, hfences,
          fun partly => Classical.not_not.mp fun other => whole ⟨partly, other⟩⟩
  · rintro ⟨shape, hsize, hmask, hplace, range, hfences, inputOnly⟩
    -- the range is checked before the fences are known, which it does not depend on
    have inRange : ¬((s.settled name b.size b.cores false false).stop?.bind fit32?).isNone
        = true := by
      rw [shape] at range
      exact ne_true_of_eq_false range
    have whole : ¬(s.allowPartial = true ∧ name.role ≠ .input) := fun h => h.2 (inputOnly h.1)
    rw [hsize, ok_bind, hmask, ok_bind, hplace, ok_bind]
    refine (if_neg inRange).trans ?_
    rw [hfences, ok_bind]
    refine (if_neg whole).trans ?_
    rw [shape]
    rfl

end BufferSpec

/-- The buffers of a role are resolved exactly if each is what was asked for in its place. -/
theorem resolveFrom_eq_ok_iff (role : BufferRole) (cores : UInt32) (index : Nat)
    (specs : List BufferSpec) (bs : List Buffer) :
    resolveFrom role cores index specs = .ok bs ↔
      bs.length = specs.length ∧
      ∀ (i : Nat) (s : BufferSpec) (b : Buffer), specs[i]? = some s → bs[i]? = some b →
        s.Resolved ⟨role, index + i⟩ cores b := by
  -- along the specifications; the place of the first of them counts up
  induction specs generalizing index bs with
  | nil =>
    rw [resolveFrom, Except.ok.injEq]
    constructor
    · rintro rfl
      refine ⟨rfl, fun i s b asked => ?_⟩
      rw [List.getElem?_nil] at asked
      cases asked
    · rintro ⟨length, -⟩
      exact (List.length_eq_zero_iff.mp length).symm
  | cons s specs ih =>
    rw [resolveFrom, bind_eq_ok]
    constructor
    · rintro ⟨b, first, rest⟩
      obtain ⟨bs', others, rest⟩ := bind_eq_ok.mp rest
      cases rest
      obtain ⟨length, each⟩ := (ih ..).mp others
      refine ⟨congrArg (· + 1) length, fun i s' b' asked given => ?_⟩
      cases i with
      | zero =>
        cases asked
        cases given
        exact (BufferSpec.resolve_eq_ok_iff ..).mp first
      | succ i =>
        have place : index + (i + 1) = index + 1 + i := by omega
        rw [place]
        exact each i s' b' asked given
    · rintro ⟨length, each⟩
      cases bs with
      | nil => cases length
      | cons b bs =>
        refine ⟨b, (BufferSpec.resolve_eq_ok_iff ..).mpr (each 0 s b rfl rfl), ?_⟩
        have others : resolveFrom role cores (index + 1) specs = .ok bs := by
          refine (ih ..).mpr ⟨Nat.succ.inj length, fun i s' b' asked given => ?_⟩
          have place : index + 1 + i = index + (i + 1) := by omega
          rw [place]
          exact each (i + 1) s' b' asked given
        rw [others, ok_bind]
        rfl

/-- The buffers of a role can be resolved exactly if each of them can. -/
theorem exists_resolveFrom_iff (role : BufferRole) (cores : UInt32) (index : Nat)
    (specs : List BufferSpec) :
    (∃ bs, resolveFrom role cores index specs = .ok bs) ↔
      ∀ (i : Nat) (s : BufferSpec), specs[i]? = some s →
        ∃ b, s.resolve ⟨role, index + i⟩ cores = .ok b := by
  induction specs generalizing index with
  | nil =>
    refine iff_of_true ⟨[], rfl⟩ fun i s asked => ?_
    rw [List.getElem?_nil] at asked
    cases asked
  | cons s specs ih =>
    constructor
    · rintro ⟨bs, resolved⟩ i s' asked
      obtain ⟨length, each⟩ := (resolveFrom_eq_ok_iff ..).mp resolved
      have inside : i < bs.length := length ▸ (List.getElem?_eq_some_iff.mp asked).1
      have given := each i s' bs[i] asked (List.getElem?_eq_getElem inside)
      exact ⟨bs[i], (BufferSpec.resolve_eq_ok_iff ..).mpr given⟩
    · intro all
      obtain ⟨b, first⟩ := all 0 s rfl
      obtain ⟨bs, rest⟩ := (ih (index + 1)).mpr fun i s' asked => by
        have place : index + 1 + i = index + (i + 1) := by omega
        rw [place]
        exact all (i + 1) s' asked
      refine ⟨b :: bs, ?_⟩
      rw [resolveFrom]
      exact bind_eq_ok.mpr ⟨b, first, bind_eq_ok.mpr ⟨bs, rest, rfl⟩⟩

/-- A buffer is among those of a role exactly if it is what was asked for in some place. -/
theorem mem_resolveFrom_iff {role : BufferRole} {cores : UInt32} {specs : List BufferSpec}
    {bs : List Buffer} (h : resolveFrom role cores 0 specs = .ok bs) {b : Buffer} :
    b ∈ bs ↔ ∃ (i : Nat) (s : BufferSpec), specs[i]? = some s ∧
      s.resolve ⟨role, i⟩ cores = .ok b := by
  obtain ⟨length, each⟩ := (resolveFrom_eq_ok_iff ..).mp h
  have resolve {i : Nat} {s : BufferSpec} {b : Buffer} (asked : specs[i]? = some s)
      (given : bs[i]? = some b) : s.resolve ⟨role, i⟩ cores = .ok b := by
    have resolved := each i s b asked given
    rw [Nat.zero_add] at resolved
    exact (BufferSpec.resolve_eq_ok_iff ..).mpr resolved
  constructor
  · intro mem
    obtain ⟨i, given⟩ := List.mem_iff_getElem?.mp mem
    have inside : i < specs.length := length ▸ (List.getElem?_eq_some_iff.mp given).1
    have asked := List.getElem?_eq_getElem inside
    exact ⟨i, specs[i], asked, resolve asked given⟩
  · rintro ⟨i, s, asked, resolved⟩
    have inside : i < bs.length := length ▸ (List.getElem?_eq_some_iff.mp asked).1
    have given := List.getElem?_eq_getElem inside
    rw [resolve asked given] at resolved
    exact List.mem_iff_getElem?.mpr ⟨i, given.trans (congrArg some (Except.ok.inj resolved))⟩

/-- A resolved buffer has the name of its place. -/
theorem name_of_resolveFrom {role : BufferRole} {cores : UInt32} {index : Nat}
    {specs : List BufferSpec} {bs : List Buffer} (h : resolveFrom role cores index specs = .ok bs)
    {i : Nat} {b : Buffer} (given : bs[i]? = some b) : b.name = ⟨role, index + i⟩ := by
  obtain ⟨length, each⟩ := (resolveFrom_eq_ok_iff ..).mp h
  have inside : i < specs.length := length ▸ (List.getElem?_eq_some_iff.mp given).1
  have resolved := each i specs[i] b (List.getElem?_eq_getElem inside) given
  rw [resolved.shape]
  rfl

/-- Resolved buffers have the role they are resolved for. -/
theorem role_of_resolveFrom {role : BufferRole} {cores : UInt32} {index : Nat}
    {specs : List BufferSpec} {bs : List Buffer} (h : resolveFrom role cores index specs = .ok bs)
    {b : Buffer} (mem : b ∈ bs) : b.role = role := by
  obtain ⟨i, given⟩ := List.mem_iff_getElem?.mp mem
  rw [Buffer.role, name_of_resolveFrom h given]

/-! ## What a resolved buffer is like -/

/-- The mask of at most 16 cores has 16 bits. -/
theorem toNat_allCoresMask_lt {cores : Nat} (few : cores ≤ maxCores) :
    (allCoresMask cores).toNat < 2 ^ 16 := by
  have least : min cores 32 ≤ 16 := Nat.le_trans (Nat.min_le_left cores 32) few
  have power : 2 ^ min cores 32 ≤ 2 ^ 16 := Nat.pow_le_pow_right (by decide) least
  have positive := Nat.two_pow_pos (min cores 32)
  rw [allCoresMask, Nat.pow_eq, UInt32.toNat_ofNat']
  omega

/-- The bit of a core is a power of two. -/
theorem toNat_coreBit {core : UInt32} (few : core.toNat < 32) :
    (coreBit core).toNat = 2 ^ core.toNat := by
  have whole : 2 ^ core.toNat < 2 ^ 32 := Nat.pow_lt_pow_right (by decide) few
  rw [coreBit, UInt32.toNat_shiftLeft, UInt32.toNat_one, Nat.one_shiftLeft, Nat.mod_eq_of_lt few,
    Nat.mod_eq_of_lt whole]

/-- The bit of one of at most 16 cores is one of 16 bits. -/
theorem toNat_coreBit_lt {core : UInt32} (few : core.toNat < maxCores) :
    (coreBit core).toNat < 2 ^ 16 := by
  rw [maxCores] at few
  rw [toNat_coreBit (by omega)]
  exact Nat.pow_lt_pow_right (by decide) few

/-- Adding cores of a program to a mask keeps it within 16 bits. -/
theorem toNat_addCores_lt {cores mask mask' : UInt32} {held : List UInt32}
    (few : cores.toNat ≤ maxCores) (below : mask.toNat < 2 ^ 16)
    (added : addCores cores mask held = .ok mask') : mask'.toNat < 2 ^ 16 := by
  induction held generalizing mask with
  | nil =>
    cases added
    exact below
  | cons core held ih =>
    rw [addCores] at added
    split at added
    · next own =>
      have bit := toNat_coreBit_lt (Nat.lt_of_lt_of_le (UInt32.lt_iff_toNat_lt.mp own) few)
      refine ih ?_ added
      rw [UInt32.toNat_or]
      exact Nat.or_lt_two_pow below bit
    · cases added

namespace BufferSpec.Resolved

variable {s : BufferSpec} {name : BufferName} {cores : UInt32} {b : Buffer}

/-- A resolved buffer ends below the addresses of 32 bits. -/
theorem stop_lt (resolved : s.Resolved name cores b) :
    b.baseOffset.toNat + b.deviceOffset.toNat + b.size.toNat < 2 ^ 32 := by
  have range := resolved.range
  rw [Buffer.stop?] at range
  split at range
  · rw [Option.bind_some, fit32?] at range
    split at range
    · assumption
    · cases range
  · cases range

/-- A resolved buffer is held by some of 16 cores. -/
theorem cores_lt (resolved : s.Resolved name cores b) (few : cores.toNat ≤ maxCores) :
    b.cores.toNat < 2 ^ 16 := by
  obtain ⟨mask, added, held⟩ := bind_eq_ok.mp resolved.cores
  have below := toNat_addCores_lt few (by decide) added
  have mask := Except.ok.inj held
  rw [← mask]
  split
  · exact toNat_allCoresMask_lt few
  · exact below

end BufferSpec.Resolved

/-- Where a buffer ends below the addresses of 32 bits, nothing is cut off. -/
theorem Buffer.start_eq {b : Buffer}
    (below : b.baseOffset.toNat + b.deviceOffset.toNat + b.size.toNat < 2 ^ 32) :
    b.start = b.baseOffset.toNat + b.deviceOffset.toNat := by
  rw [start, lastAddress, UInt64.size]
  omega

/-- The same of its end. -/
theorem Buffer.stop_eq {b : Buffer}
    (below : b.baseOffset.toNat + b.deviceOffset.toNat + b.size.toNat < 2 ^ 32) :
    b.stop = b.baseOffset.toNat + b.deviceOffset.toNat + b.size.toNat := by
  rw [stop, start_eq below, lastAddress, UInt64.size]
  omega

end ComputePlanner
