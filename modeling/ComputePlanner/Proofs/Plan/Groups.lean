import ComputePlanner.Proofs.Calls
import ComputePlanner.Proofs.Plan.Multicast

/-! # Groups that are requested one after the other
A router is asked for one group after the other, and who asks may go on after a request that failed. The
tables in which groups are looked up follow from the groups, so they have the same length always. They can
also be kept in place, together with the number of the next group: each request then appends an entry to
every table and moves the number on (**`GroupRequest.perform`**), and one that gave up half way would leave
a number without an entry or a table that is too short. The two come to the same
(**`GroupRequest.run_perform`**), so nothing is touched before all checks are made.

Main statement: **`Router.requested_of_run`** — what any run of requests leaves in the tables. -/

namespace ComputePlanner

/-! ## Requests -/

/-- A request for a group. -/
structure GroupRequest where
  space : AddressSpace
  cores : UInt32
  size : UInt32
  base : UInt64
  hostVisible : Bool
  deriving DecidableEq, Repr

/-- The group that is requested, if one can cover the space. -/
def GroupRequest.group? (q : GroupRequest) : Option Group :=
  q.space.coreMemory?.map fun memory => ⟨memory, q.cores, q.size, q.base, q.hostVisible⟩

namespace Router

/-- Adds the group that is requested and gives its number. -/
def ask (q : GroupRequest) (r : Router) : Except ConfigFault (UInt16 × Router) :=
  r.add q.space q.cores q.size q.base q.hostVisible

/-- What requests come to, one after the other. -/
def requests (r : Router) (qs : List GroupRequest) : Calls Router GroupRequest UInt16 :=
  Calls.run (fun q => keeping (ask q)) r qs

variable {r r' : Router} {q : GroupRequest}

/-- A request is granted exactly if the group can be and there is a number for it, the next one. -/
theorem ask_eq_ok_iff {number : UInt16} :
    r.ask q = .ok (number, r') ↔
      ∃ g, q.group? = some g ∧ r.count < groupLimit ∧ number = UInt16.ofNat r.count ∧
        r' = r.push g :=
  add_eq_ok_iff ..

/-- It fails if it is for memory off the chip or if all numbers are taken. -/
theorem ask_eq_error_iff :
    (∃ fault, r.ask q = .error fault) ↔ q.space = .ddr ∨ groupLimit ≤ r.count := by
  have covered : q.group? = none ↔ q.space = .ddr := by
    rw [GroupRequest.group?, Option.map_eq_none_iff]
    cases q.space <;> simp [AddressSpace.coreMemory?]
  rw [← covered]
  cases asked : r.ask q with
  | ok answer =>
    obtain ⟨g, group, free, -, -⟩ := ask_eq_ok_iff.mp asked
    refine iff_of_false nofun ?_
    rintro (none | full)
    · rw [group] at none
      cases none
    · exact Nat.not_le_of_lt free full
  | error fault =>
    refine iff_of_true ⟨fault, rfl⟩ ?_
    by_contra neither
    obtain ⟨some, free⟩ := not_or.mp neither
    obtain ⟨g, group⟩ := Option.ne_none_iff_exists'.mp some
    rw [ask_eq_ok_iff.mpr ⟨g, group, Nat.lt_of_not_le free, rfl, rfl⟩] at asked
    cases asked

/-! ## One more group -/

/-- A core finds one more group behind the others. -/
theorem coreTable_push (r : Router) (g : Group) (core : Nat) :
    (r.push g).coreTable core = r.coreTable core ++ [g.entryFor core] := by
  simp [coreTable, push, doorbellEntry]

/-- So do all of them. -/
theorem coreTables_push (r : Router) (g : Group) :
    (r.push g).coreTables = r.coreTables.mapIdx fun core table => table ++ [g.entryFor core] := by
  refine List.ext_getElem? fun core => ?_
  rw [List.getElem?_mapIdx]
  by_cases own : core < r.cores
  · rw [getElem?_coreTables (r.push g) own, getElem?_coreTables r own, Option.map_some, coreTable_push]
  · have short (r' : Router) (same : r'.cores = r.cores) : r'.coreTables[core]? = none :=
      List.getElem?_eq_none (by rw [length_coreTables, same]; exact Nat.le_of_not_lt own)
    rw [short r rfl, short (r.push g) rfl, Option.map_none]

/-- The host finds it if it is visible to the host. -/
theorem hostTable_push (r : Router) (g : Group) :
    (r.push g).hostTable = r.hostTable ++ if g.hostVisible then [g.hostEntry] else [] := by
  cases visible : g.hostVisible <;> simp [hostTable, push, visible]

end Router

/-! ## Tables in place -/

/-- The tables of a program as they are kept in place. -/
structure GroupTables where
  /-- Those of the cores. -/
  cores : List (List MulticastEntry)
  /-- That of the host. -/
  host : List HostEntry
  /-- The number of the next group. -/
  next : UInt16
  deriving DecidableEq, Repr

/-- The tables that follow from the groups. -/
def Router.tables (r : Router) : GroupTables := ⟨r.coreTables, r.hostTable, UInt16.ofNat r.count⟩

namespace GroupTables

/-- A program that changes the tables in place. One that fails leaves what it has changed. -/
abbrev Filling := EStateM ConfigFault GroupTables

/-- Puts a group behind the others: the number moves on, then each table grows by an entry. -/
def push (g : Group) : Filling Unit := do
  modify fun t => { t with next := t.next + 1 }
  modify fun t => { t with cores := t.cores.mapIdx fun core table => table ++ [g.entryFor core] }
  if g.hostVisible then modify fun t => { t with host := t.host ++ [g.hostEntry] }

/-- The tables in place are those that follow from the groups with the new one. -/
theorem run_push (g : Group) (r : Router) : (push g).run r.tables = .ok () (r.push g).tables := by
  have number : UInt16.ofNat r.count + 1 = UInt16.ofNat (r.push g).count := by
    rw [Router.count_push, UInt16.ofNat_add]
    rfl
  rw [Router.tables, Router.tables, Router.coreTables_push, Router.hostTable_push, ← number]
  cases visible : g.hostVisible with
  | false => simp [push, visible]
  | true => simp [push, visible]

end GroupTables

/-- A request as it is carried out in place. -/
def GroupRequest.perform (q : GroupRequest) : GroupTables.Filling UInt16 :=
  match q.space.coreMemory? with
  | none => throw .groupOffChip
  | some memory => do
    let number := (← get).next
    if number.toNat = groupLimit then throw .groupsExhausted
    else
      GroupTables.push ⟨memory, q.cores, q.size, q.base, q.hostVisible⟩
      return number

/-- **In place, a request leaves the tables of the groups with the new one, or the tables as they were and
a fault.** -/
theorem GroupRequest.run_perform (q : GroupRequest) {r : Router} (few : r.count ≤ groupLimit) :
    q.perform.run r.tables = Calls.outcome Router.tables r (r.ask q) := by
  -- the count stops at the limit, and 16 bits hold that
  have number : (UInt16.ofNat r.count).toNat = r.count :=
    UInt16.toNat_ofNat_of_lt' (Nat.lt_of_le_of_lt few (by decide))
  rw [perform, Router.ask, Router.add, Router.next]
  cases q.space.coreMemory? with
  | none => rfl
  | some memory =>
    by_cases free : r.count < groupLimit
    · have other : r.tables.next.toNat ≠ groupLimit := by
        rw [Router.tables, number]
        exact Nat.ne_of_lt free
      simp only [EStateM.run_bind, EStateM.run_get, if_neg other, if_pos free, GroupTables.run_push]
      rfl
    · have last : r.tables.next.toNat = groupLimit := by
        rw [Router.tables, number]
        exact Nat.le_antisymm few (Nat.le_of_not_lt free)
      simp only [EStateM.run_bind, EStateM.run_get, if_pos last, if_neg free]
      rfl

/-! ## Runs of requests -/

namespace Router

/-- What a router has handed out, and what its tables say about it. -/
structure Granted (r : Router) (cores : Nat) (window : UInt32)
    (done : List (GroupRequest × UInt16)) : Prop where
  /-- The numbers are counted from 1, in the order of the requests that were granted. -/
  numbers : done.map (·.2.toNat) = List.range' 1 done.length
  /-- The doorbell group is counted, too. -/
  count : r.count = done.length + 1
  /-- Every core has a table. -/
  tables : r.coreTables.length = cores
  /-- A table has an entry for each group. -/
  lengths : ∀ table ∈ r.coreTables, table.length = done.length + 1
  /-- Under number 0, a core finds the doorbell windows of the others. -/
  windows : ∀ core < cores, ∃ table mask, r.coreTables[core]? = some table ∧
    table[0]? = some ⟨false, mask, window, .l2tcm, 0⟩ ∧
    ∀ i, mask.toNat.testBit i = decide (i < cores ∧ i ≠ core)
  /-- Under the number of a request, it finds what was requested, which covers nothing on a core that is
  not in the mask. -/
  entries : ∀ core < cores, ∀ x ∈ done, ∃ table memory, r.coreTables[core]? = some table ∧
    x.1.space.coreMemory? = some memory ∧
    table[x.2.toNat]? = some
      { dynamic := false
        mask := x.1.cores
        size := if x.1.cores.toNat.testBit core then x.1.size else 0
        memory
        base := x.1.base }
  /-- The host finds the doorbell windows of all cores and then the requests that are visible to it. -/
  host : ∃ mask, (∀ i, mask.toNat.testBit i = decide (i < cores)) ∧
    r.hostTable = ⟨mask, window⟩
      :: (done.filter (·.1.hostVisible)).map fun x => ⟨x.1.cores, x.1.size⟩
  /-- A request fails exactly if it is for memory off the chip or 65534 groups were handed out. -/
  fails_iff : ∀ q, (∃ fault, r.ask q = .error fault) ↔ q.space = .ddr ∨ 65534 ≤ done.length

/-- The groups of a router are those of the requests that were granted, under consecutive numbers. -/
structure Grants (start : Router) (c : Calls Router GroupRequest UInt16) : Prop where
  cores : c.state.cores = start.cores
  window : c.state.window = start.window
  groups : c.done.map (·.1.group?) = c.state.groups.toList.map some
  numbers : c.done.map (·.2.toNat) = List.range' 1 c.done.length
  few : c.state.count ≤ groupLimit

namespace Grants

variable {start : Router} {c : Calls Router GroupRequest UInt16}

/-- There are as many groups as requests that were granted, and that of the doorbells. -/
theorem count (h : Grants start c) : c.state.count = c.done.length + 1 := by
  have length := congrArg List.length h.groups
  rw [List.length_map, List.length_map, Array.length_toList] at length
  rw [Router.count, length]

/-- A request fails exactly if it is for memory off the chip or if no number is left. -/
theorem fails_iff (h : Grants start c) (q : GroupRequest) :
    (∃ fault, c.state.ask q = .error fault) ↔ q.space = .ddr ∨ 65534 ≤ c.done.length := by
  rw [ask_eq_error_iff, h.count, groupLimit]
  exact or_congr_right Nat.succ_le_succ_iff

/-- One more request keeps that up, whether it is granted or not. -/
theorem after (h : Grants start c) (q : GroupRequest) :
    Grants start (c.after (fun q => keeping (ask q)) q) := by
  cases asked : c.state.ask q with
  | error fault =>
    rw [Calls.after_of_error asked]
    exact h
  | ok answer =>
    obtain ⟨number, r'⟩ := answer
    obtain ⟨g, group, free, rfl, rfl⟩ := ask_eq_ok_iff.mp asked
    -- there is a number left, so 16 bits hold it
    have number : (UInt16.ofNat c.state.count).toNat = 1 + c.done.length := by
      rw [UInt16.toNat_ofNat_of_lt' (Nat.lt_trans free (by decide)), h.count, Nat.add_comm]
    rw [Calls.after_of_ok asked]
    refine ⟨h.cores, h.window, ?_, ?_, ?_⟩
    · rw [List.map_append, h.groups, push, Array.toList_push, List.map_append]
      exact congrArg _ (congrArg (fun x => [x]) group)
    · rw [List.map_append, h.numbers, List.length_append, List.length_singleton, List.range'_1_concat,
        ← number]
      rfl
    · rw [count_push]
      exact free

/-- What is found under the number of a request that was granted. -/
theorem exists_group (h : Grants start c) {x : GroupRequest × UInt16} (mem : x ∈ c.done) :
    ∃ i g, x.2.toNat = i + 1 ∧ c.state.groups.toList[i]? = some g ∧ x.1.group? = some g := by
  obtain ⟨i, given⟩ := List.getElem?_of_mem mem
  have inside : i < c.done.length := (List.getElem?_eq_some_iff.mp given).1
  have number := congrArg (·[i]?) h.numbers
  have group := congrArg (·[i]?) h.groups
  rw [List.getElem?_map, given, Option.map_some, List.getElem?_range' inside, Option.some.injEq] at number
  rw [List.getElem?_map, given, Option.map_some, List.getElem?_map, eq_comm] at group
  obtain ⟨g, found, same⟩ := Option.map_eq_some_iff.mp group
  exact ⟨i, g, by omega, found, same.symm⟩

end Grants

/-- The host finds the requests for the groups that are visible to it. -/
theorem map_hostEntry {done : List (GroupRequest × UInt16)} {gs : List Group}
    (groups : done.map (·.1.group?) = gs.map some) :
    (gs.filter (·.hostVisible)).map (·.hostEntry)
      = (done.filter (·.1.hostVisible)).map fun x => ⟨x.1.cores, x.1.size⟩ := by
  induction done generalizing gs with
  | nil =>
    obtain rfl := List.map_eq_nil_iff.mp groups.symm
    rfl
  | cons x done ih =>
    obtain ⟨g, gs, rfl, group, rest⟩ := List.map_eq_cons_iff.mp groups.symm
    obtain ⟨memory, -, rfl⟩ := Option.map_eq_some_iff.mp group.symm
    rw [List.filter_cons, List.filter_cons]
    dsimp only
    cases visible : x.1.hostVisible with
    | false => exact ih rest.symm
    | true => exact congrArg₂ _ rfl (ih rest.symm)

/-- What was granted is in the tables. -/
theorem Grants.granted {start : Router} {c : Calls Router GroupRequest UInt16} (h : Grants start c)
    (few : start.cores ≤ maxCores) : c.state.Granted start.cores start.window c.done := by
  have small : start.cores ≤ 32 := Nat.le_trans few (by decide)
  have table {core : Nat} (own : core < start.cores) :
      c.state.coreTables[core]? = some (c.state.coreTable core) :=
    c.state.getElem?_coreTables (h.cores.symm ▸ own)
  refine
    { numbers := h.numbers
      count := h.count
      tables := by rw [length_coreTables, h.cores]
      lengths := ?_
      windows := ?_
      entries := ?_
      host := ⟨allCoresMask start.cores, testBit_allCoresMask small, ?_⟩
      fails_iff := h.fails_iff }
  · intro table mem
    obtain ⟨core, -, rfl⟩ := List.mem_map.mp mem
    rw [coreTable, List.length_cons, List.length_map, ← h.count]
    rfl
  · intro core own
    refine ⟨_, _, table own, ?_, testBit_allCoresMask_without small own⟩
    rw [coreTable, List.getElem?_cons_zero, doorbellEntry, h.cores, h.window]
    rfl
  · intro core own x mem
    obtain ⟨i, g, number, found, group⟩ := h.exists_group mem
    obtain ⟨memory, known, rfl⟩ := Option.map_eq_some_iff.mp group
    refine ⟨_, memory, table own, known, ?_⟩
    -- the doorbells come first, so number i + 1 is the group in place i
    rw [number, coreTable, List.getElem?_cons_succ, List.getElem?_map, found, Option.map_some,
      Group.entryFor, hasCore_eq_testBit _ (by omega)]
  · rw [hostTable, map_hostEntry h.groups, h.cores, h.window]

/-- What has been handed out stays, and more stands behind it in every table. -/
structure Grows (c c' : Calls Router GroupRequest UInt16) : Prop where
  done : c.done <+: c'.done
  host : c.state.hostTable <+: c'.state.hostTable
  cores : ∀ core, c.state.coreTable core <+: c'.state.coreTable core

/-- What requests for groups come to. -/
structure Requested (start : Router) (cores : Nat) (window : UInt32) (qs : List GroupRequest) :
    Prop where
  /-- Requests for memory on the chip are granted, as long as there are numbers. -/
  which : (start.requests qs).done.map (·.1) = (qs.filter (·.space ≠ .ddr)).take 65534
  /-- What was granted is in the tables, and nothing else is. -/
  granted : (start.requests qs).state.Granted cores window (start.requests qs).done
  /-- The tables and the number of the next group may be kept in place. -/
  inPlace : Calls.run GroupRequest.perform start.tables qs
    = ⟨(start.requests qs).state.tables, (start.requests qs).done⟩
  /-- A request that fails changes nothing, and the next ones find the tables as they were. -/
  failed : ∀ q fault, (start.requests qs).state.ask q = .error fault →
    q.perform.run (start.requests qs).state.tables = .error fault (start.requests qs).state.tables ∧
      start.requests (qs ++ [q]) = start.requests qs
  /-- More requests leave what was handed out. -/
  kept : ∀ more, Grows (start.requests qs) (start.requests (qs ++ more))

/-- Before the first request, there is the doorbell group alone. -/
theorem grants_nil (cores : Nat) (window : UInt32) :
    Grants ⟨cores, window, #[]⟩ ⟨⟨cores, window, #[]⟩, []⟩ where
  cores := rfl
  window := rfl
  groups := rfl
  numbers := rfl
  few := show 1 ≤ groupLimit by decide

/-- One more request leaves what was handed out. -/
theorem Grows.after {c c' : Calls Router GroupRequest UInt16} (h : Grows c c') (q : GroupRequest) :
    Grows c (c'.after (fun q => keeping (ask q)) q) := by
  cases asked : c'.state.ask q with
  | error fault =>
    rw [Calls.after_of_error asked]
    exact h
  | ok answer =>
    obtain ⟨number, r'⟩ := answer
    obtain ⟨g, -, -, -, rfl⟩ := ask_eq_ok_iff.mp asked
    rw [Calls.after_of_ok asked]
    refine ⟨h.done.trans (List.prefix_append ..), ?_, fun core => ?_⟩
    · rw [hostTable_push]
      exact h.host.trans (List.prefix_append ..)
    · rw [coreTable_push]
      exact (h.cores core).trans (List.prefix_append ..)

/-- **Groups are numbered in the order in which they are granted, every table has an entry for each of
them, and a request that fails changes nothing.** -/
theorem requested_of_run {cores window : Nat} (few : cores ≤ maxCores) (fits : window < UInt32.size) :
    ∃ start, Router.start cores window = .ok start ∧
      ∀ qs, Requested start cores (UInt32.ofNat window) qs := by
  refine ⟨⟨cores, UInt32.ofNat window, #[]⟩, ?_, fun qs => ?_⟩
  · rw [start, fit32?_of_lt fits]
  have before := grants_nil cores (UInt32.ofNat window)
  have grants : Grants _ (requests ⟨cores, UInt32.ofNat window, #[]⟩ qs) :=
    Calls.run_induction before (fun c q h => h.after q) qs
  refine
    { which := Calls.map_fst_done before (fun c q h => h.after q) (fun c q h => ?_) qs
      granted := grants.granted few
      inPlace := Calls.foldl_form before (fun c q h => h.after q) (fun c q h => q.run_perform h.few) qs
      failed := ?_
      kept := ?_ }
  · rw [h.fails_iff, decide_eq_false_iff_not, not_not]
  · intro q fault fails
    constructor
    · rw [q.run_perform grants.few, fails]
      rfl
    · rw [requests, Calls.run_concat]
      exact Calls.after_of_error fails
  · intro more
    have same : Grows (requests _ qs) (requests ⟨cores, UInt32.ofNat window, #[]⟩ qs) :=
      ⟨List.prefix_rfl, List.prefix_rfl, fun core => List.prefix_rfl⟩
    rw [requests, requests, Calls.run_append]
    exact Calls.foldl_induction same (fun c q h => h.after q) more

/-- A request for memory off the chip takes no number from those behind it. -/
theorem requested_of_run_offChip :
    2 ≤ maxCores ∧ 1124 < UInt32.size ∧ ∃ start, Router.start 2 1124 = .ok start ∧
      let qs : List GroupRequest :=
        [⟨.vtcm, 0b01, 64, 0, true⟩, ⟨.ddr, 0b11, 8, 0, true⟩, ⟨.l2tcm, 0b11, 32, 4096, false⟩]
      Requested start 2 1124 qs ∧
        (start.requests qs).done.map (·.2) = [1, 2] ∧
        (start.requests qs).state.coreTable 1
          = [⟨false, 0b01, 1124, .l2tcm, 0⟩, ⟨false, 0b01, 0, .vtcm, 0⟩,
              ⟨false, 0b11, 32, .l2tcm, 4096⟩] := by
  have few : 2 ≤ maxCores := by decide
  have fits : 1124 < UInt32.size := by decide
  obtain ⟨start, started, requested⟩ := requested_of_run few fits
  refine ⟨few, fits, start, started, requested _, ?_⟩
  obtain rfl : (⟨2, 1124, #[]⟩ : Router) = start := Except.ok.inj started
  decide +kernel

end Router

end ComputePlanner
