import ComputePlanner.Plan.Basic
import ComputePlanner.Proofs.Except

/-! # Which groups buffers are routed through
Routing walks the buffers with the router in hand. Here its outcome is said without the walk: the
buffers on the chip have a group each (`Buffer.group?`), these are pushed in their order
(`groupsOf`), and their numbers count on from the groups that were there (`groupNumbers`).

Main statement: **`routeAll_eq_ok_iff`**. From it, **`getElem?_groupNumbers`** finds a buffer's
group behind its number. -/

namespace ComputePlanner

/-- A space can be covered by a group exactly if it is on the chip. -/
theorem AddressSpace.isSome_coreMemory? (s : AddressSpace) :
    s.coreMemory?.isSome = s.isOnChip := by
  cases s <;> rfl

/-- The group of a buffer, if it has one. -/
def Buffer.group? (b : Buffer) : Option Group :=
  b.space.coreMemory?.map fun memory => ⟨memory, b.cores, b.size, b.baseOffset, b.role ≠ .internal⟩

/-- A buffer has a group exactly if it is on the chip. -/
theorem Buffer.isSome_group? (b : Buffer) : b.group?.isSome = b.space.isOnChip := by
  rw [group?, Option.isSome_map, AddressSpace.isSome_coreMemory?]

theorem Buffer.isOnChip_of_some {b : Buffer} {g : Group} (h : b.group? = some g) :
    b.space.isOnChip = true := by
  rw [← b.isSome_group?, h, Option.isSome_some]

theorem Buffer.not_isOnChip_of_none {b : Buffer} (h : b.group? = none) :
    ¬b.space.isOnChip = true := by
  rw [← b.isSome_group?, h, Option.isSome_none]
  exact Bool.false_ne_true

/-- The groups of buffers, in their order. -/
def groupsOf (bs : List Buffer) : List Group := bs.filterMap (·.group?)

/-- The numbers of the groups of buffers, the first of which is `number`. -/
def groupNumbers (number : Nat) : List Buffer → List (Option UInt16)
  | [] => []
  | b :: bs =>
    if b.space.isOnChip then some (UInt16.ofNat number) :: groupNumbers (number + 1) bs
    else none :: groupNumbers number bs

@[simp] theorem groupsOf_nil : groupsOf [] = [] := rfl

/-- A buffer with a group puts it in front. -/
theorem groupsOf_cons_of_some {b : Buffer} {g : Group} (h : b.group? = some g) (bs : List Buffer) :
    groupsOf (b :: bs) = g :: groupsOf bs := List.filterMap_cons_some h

/-- A buffer without a group adds none. -/
theorem groupsOf_cons_of_none {b : Buffer} (h : b.group? = none) (bs : List Buffer) :
    groupsOf (b :: bs) = groupsOf bs := List.filterMap_cons_none h

theorem groupsOf_append (bs bs' : List Buffer) :
    groupsOf (bs ++ bs') = groupsOf bs ++ groupsOf bs' := List.filterMap_append

/-- A buffer with a group takes the next number. -/
theorem groupNumbers_cons_of_some {b : Buffer} {g : Group} (h : b.group? = some g) (number : Nat)
    (bs : List Buffer) :
    groupNumbers number (b :: bs)
      = some (UInt16.ofNat number) :: groupNumbers (number + 1) bs := by
  rw [groupNumbers, if_pos (Buffer.isOnChip_of_some h)]

/-- A buffer without a group takes none. -/
theorem groupNumbers_cons_of_none {b : Buffer} (h : b.group? = none) (number : Nat)
    (bs : List Buffer) : groupNumbers number (b :: bs) = none :: groupNumbers number bs := by
  rw [groupNumbers, if_neg (Buffer.not_isOnChip_of_none h)]

@[simp] theorem length_groupNumbers (number : Nat) (bs : List Buffer) :
    (groupNumbers number bs).length = bs.length := by
  induction bs generalizing number with
  | nil => rfl
  | cons b bs ih =>
    cases group : b.group? with
    | some g => rw [groupNumbers_cons_of_some group, List.length_cons, ih, List.length_cons]
    | none => rw [groupNumbers_cons_of_none group, List.length_cons, ih, List.length_cons]

/-- Behind other buffers, the numbers count on from theirs. -/
theorem groupNumbers_append (number : Nat) (bs bs' : List Buffer) :
    groupNumbers number (bs ++ bs')
      = groupNumbers number bs ++ groupNumbers (number + (groupsOf bs).length) bs' := by
  induction bs generalizing number with
  | nil => rfl
  | cons b bs ih =>
    rw [List.cons_append]
    cases group : b.group? with
    | some g =>
      have count : number + 1 + (groupsOf bs).length = number + ((groupsOf bs).length + 1) := by
        omega
      rw [groupNumbers_cons_of_some group, groupNumbers_cons_of_some group,
        groupsOf_cons_of_some group, ih, List.length_cons, List.cons_append, count]
    | none =>
      rw [groupNumbers_cons_of_none group, groupNumbers_cons_of_none group,
        groupsOf_cons_of_none group, ih, List.cons_append]

/-- What is behind buffers plays no part when they are paired with their groups. -/
theorem zip_groupNumbers_append (number : Nat) (bs rest : List Buffer) :
    bs.zip (groupNumbers number (bs ++ rest)) = bs.zip (groupNumbers number bs) := by
  have parts : (bs ++ []).zip (groupNumbers number bs
      ++ groupNumbers (number + (groupsOf bs).length) rest)
      = bs.zip (groupNumbers number bs) ++ [].zip _ :=
    List.zip_append (length_groupNumbers number bs).symm
  rwa [List.append_nil, List.zip_nil_left, List.append_nil, ← groupNumbers_append] at parts

/-- The number of a buffer's group counts the groups of the buffers before it. -/
theorem getElem?_groupNumbers (number : Nat) (bs : List Buffer) (i : Nat) :
    (groupNumbers number bs)[i]? = bs[i]?.map fun b =>
      b.group?.map fun _ => UInt16.ofNat (number + (groupsOf (bs.take i)).length) := by
  induction bs generalizing number i with
  | nil => rfl
  | cons b bs ih =>
    cases group : b.group? with
    | some g =>
      rw [groupNumbers_cons_of_some group]
      cases i with
      | zero => rw [List.getElem?_cons_zero, List.getElem?_cons_zero, Option.map_some, group]; rfl
      | succ i =>
        rw [List.getElem?_cons_succ, List.getElem?_cons_succ, ih, List.take_succ_cons,
          groupsOf_cons_of_some group, List.length_cons, Nat.add_assoc, Nat.add_comm 1]
    | none =>
      rw [groupNumbers_cons_of_none group]
      cases i with
      | zero => rw [List.getElem?_cons_zero, List.getElem?_cons_zero, Option.map_some, group]; rfl
      | succ i =>
        rw [List.getElem?_cons_succ, List.getElem?_cons_succ, ih, List.take_succ_cons,
          groupsOf_cons_of_none group]

/-- A buffer's group is found behind the groups of the buffers before it. -/
theorem getElem?_groupsOf {bs : List Buffer} {i : Nat} {b : Buffer} (given : bs[i]? = some b)
    {g : Group} (group : b.group? = some g) :
    (groupsOf bs)[(groupsOf (bs.take i)).length]? = some g := by
  obtain ⟨inside, rfl⟩ := List.getElem?_eq_some_iff.mp given
  -- the list is cut in front of the buffer
  have parts : groupsOf bs = groupsOf (bs.take i) ++ g :: groupsOf (bs.drop (i + 1)) := by
    rw [← groupsOf_cons_of_some group, ← List.drop_eq_getElem_cons inside, ← groupsOf_append,
      List.take_append_drop]
  rw [parts, List.getElem?_append_right (Nat.le_refl _), Nat.sub_self, List.getElem?_cons_zero]

/-! ## The router -/

namespace Router

@[simp] theorem count_push (r : Router) (g : Group) : (r.push g).count = r.count + 1 := by
  rw [count, count, push, Array.size_push]

/-- A group is added exactly if it can cover the space and there is a number for it, the next one. -/
theorem add_eq_ok_iff (r : Router) (space : AddressSpace) (cores size : UInt32) (base : UInt64)
    (hostVisible : Bool) (number : UInt16) (r' : Router) :
    r.add space cores size base hostVisible = .ok (number, r') ↔
      ∃ g, (space.coreMemory?.map fun memory => Group.mk memory cores size base hostVisible) = some g ∧
        r.count < groupLimit ∧ number = UInt16.ofNat r.count ∧ r' = r.push g := by
  rw [add, bind_eq_ok, next]
  cases space.coreMemory? with
  | none => exact iff_of_false (fun h => nomatch h.choose_spec.1) fun h => nomatch h.choose_spec.1
  | some memory =>
    dsimp only
    rw [Option.map_some]
    by_cases free : r.count < groupLimit
    · rw [if_pos free]
      constructor
      · rintro ⟨-, ⟨⟩, ⟨⟩⟩
        exact ⟨_, rfl, free, rfl, rfl⟩
      · rintro ⟨g, ⟨⟩, -, rfl, rfl⟩
        exact ⟨_, rfl, rfl⟩
    · rw [if_neg free]
      exact iff_of_false (fun h => nomatch h.choose_spec.1) fun h => free h.choose_spec.2.1

end Router

/-- **Routing succeeds exactly if there are enough numbers**, and then the groups and their numbers
are those of the buffers on the chip. -/
theorem routeAll_eq_ok_iff (r : Router) (bs : List Buffer) (gs : List (Option UInt16))
    (r' : Router) :
    routeAll r bs = .ok (gs, r') ↔
      (groupsOf bs ≠ [] → r.count + (groupsOf bs).length ≤ groupLimit) ∧
      gs = groupNumbers r.count bs ∧
      r' = { r with groups := r.groups ++ (groupsOf bs).toArray } := by
  induction bs generalizing r gs r' with
  | nil =>
    rw [routeAll, groupsOf_nil, groupNumbers]
    constructor
    · rintro ⟨⟩
      exact ⟨fun h => absurd rfl h, rfl, by simp⟩
    · rintro ⟨-, rfl, rfl⟩
      simp
  | cons b bs ih =>
    rw [routeAll]
    cases group : b.group? with
    | none =>
      rw [if_neg (Buffer.not_isOnChip_of_none group), groupsOf_cons_of_none group,
        groupNumbers_cons_of_none group, bind_eq_ok]
      constructor
      · rintro ⟨⟨gs', r''⟩, rest, ⟨⟩⟩
        obtain ⟨enough, rfl, rfl⟩ := (ih ..).mp rest
        exact ⟨enough, rfl, rfl⟩
      · rintro ⟨enough, rfl, rfl⟩
        exact ⟨_, (ih ..).mpr ⟨enough, rfl, rfl⟩, rfl⟩
    | some g =>
      -- the group in front may be pushed before the others are
      have grown : ({ r with groups := r.groups ++ (g :: groupsOf bs).toArray } : Router)
          = { r.push g with groups := (r.push g).groups ++ (groupsOf bs).toArray } := by
        simp [Router.push]
      rw [if_pos (Buffer.isOnChip_of_some group), groupsOf_cons_of_some group,
        groupNumbers_cons_of_some group, bind_eq_ok, grown, List.length_cons, ← r.count_push g]
      constructor
      · rintro ⟨⟨number, r₁⟩, first, rest⟩
        obtain ⟨⟨gs', r''⟩, others, ⟨⟩⟩ := bind_eq_ok.mp rest
        obtain ⟨g', group', free, rfl, rfl⟩ := (Router.add_eq_ok_iff ..).mp first
        obtain rfl : g = g' := Option.some.inj (group.symm.trans group')
        obtain ⟨enough, rfl, rfl⟩ := (ih ..).mp others
        rw [Router.count_push] at enough
        refine ⟨fun _ => ?_, rfl, rfl⟩
        -- the bound is asked for by those that take a number, so the last of them gives it
        by_cases none : groupsOf bs = []
        · rw [none, List.length_nil]
          omega
        · have := enough none
          omega
      · rintro ⟨enough, rfl, rfl⟩
        have enough := enough (List.cons_ne_nil _ _)
        refine ⟨_, (Router.add_eq_ok_iff ..).mpr ⟨g, group, by omega, rfl, rfl⟩, ?_⟩
        refine bind_eq_ok.mpr ⟨_, (ih ..).mpr ⟨fun _ => ?_, rfl, rfl⟩, rfl⟩
        rw [Router.count_push]
        omega

end ComputePlanner
