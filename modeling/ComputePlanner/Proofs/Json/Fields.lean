import ComputePlanner.Proofs.Json.Numerals
import ComputePlanner.Proofs.Json.RoundTrip

/-! # Structures are read field by field
A typed value **is restored** (**`Json.Restores`**) if what it is written as can be put into text and is
read as the value again. Flags, texts and numbers are restored, lists if their items are, and
enumerations if a table lists their names. An object that a structure was written as gives exactly the
fields it was written with (**`fields?_bind`**), as long as they are fields of the structure in
order, some of them possibly left out. -/

namespace ComputePlanner

namespace Json

/-- What a value is written as can be put into text, and it is read as that value. -/
structure Restores {α : Type} (write : α → Json) (read : Json → Option α) (a : α) : Prop where
  wellFormed : (write a).WellFormed
  read_write : read (write a) = some a

variable {α β : Type} {write : α → Json} {read : Json → Option α}

/-! ## Single values -/

/-- Flags are restored. -/
theorem restores_bool (b : Bool) : Restores Json.bool bool? b := ⟨.bool b, rfl⟩

/-- Texts are restored. -/
theorem restores_ofText (s : String) : Restores ofText text? s := ⟨.text s, rfl⟩

/-- Signed numbers of 32 bits are restored. -/
theorem restores_ofInt (v : Int32) : Restores (fun v => ofInt v.toInt) int32? v :=
  ⟨.number (wellFormed_toDigits _ _), int32?_ofInt v⟩

/-- What a table lists under its name is restored. -/
theorem restores_oneOf {table : List (String × α)} {name : α → String} {a : α}
    (listed : table.lookup (name a) = some a) :
    Restores (fun a => ofText (name a)) (oneOf? table) a :=
  ⟨.text _, listed⟩

/-- Lists of what is restored are restored. -/
theorem restores_ofList {xs : List α} (each : ∀ x ∈ xs, Restores write read x) :
    Restores (ofList write) (list? read) xs where
  wellFormed := .array (List.forall_mem_map.mpr fun x mem => (each x mem).wellFormed)
  read_write := by
    rw [ofList, list?]
    induction xs with
    | nil => rfl
    | cons x xs ih =>
      obtain ⟨first, each⟩ := List.forall_mem_cons.mp each
      simp [first.read_write, ih each]

/-! ## Structures -/

/-- The keys of an object in order. -/
def keys : Json → List String
  | .object members => members.filterMap (·.key)
  | _ => []

@[simp] theorem keys_ofFields (fields : List (String × Json)) :
    (ofFields fields).keys = fields.map Prod.fst := by
  rw [ofFields, keys, List.filterMap_map]
  exact congrFun List.filterMap_eq_map fields

/-- Members are collected under their keys if these are fields of the structure, no two the same. -/
theorem collectFields_map {names : List String} (unknown : UnknownKeys)
    (entries : List (String × Json)) {fields : List (String × Json)} (known : ∀ f ∈ fields, f.1 ∈ names)
    (distinct : ((entries.reverse ++ fields).map Prod.fst).Nodup) :
    collectFields names unknown entries (fields.map fun f => ⟨some f.1, f.2⟩)
      = some (entries.reverse ++ fields) := by
  induction fields generalizing entries with
  | nil => rw [List.map_nil, collectFields, List.append_nil]
  | cons f fields ih =>
    obtain ⟨here, known⟩ := List.forall_mem_cons.mp known
    have fresh : entries.lookup f.1 = none := by
      rw [List.lookup_eq_none_iff]
      intro e mem
      rw [List.map_append, List.nodup_append] at distinct
      have apart := distinct.2.2 e.1 (List.mem_map_of_mem (List.mem_reverse.mpr mem)) f.1 (by simp)
      simpa using Ne.symm apart
    have shifted : (f :: entries).reverse ++ fields = entries.reverse ++ f :: fields := by simp
    have rest := ih (f :: entries) known (shifted ▸ distinct)
    rw [List.map_cons, collectFields, if_pos (List.contains_iff_mem.mpr here), fresh]
    exact rest.trans (congrArg _ shifted)

/-- **An object gives the fields it was written with**, if they are fields of the structure in order. -/
theorem fields?_bind (names : List String) {unknown : UnknownKeys} {fields : List (String × Json)}
    {next : Fields → Option β} (distinct : names.Nodup)
    (ordered : (ofFields fields).keys.Sublist names) :
    ((ofFields fields).fields? names unknown >>= next) = next ⟨fields⟩ := by
  rw [keys_ofFields] at ordered
  have known : ∀ f ∈ fields, f.1 ∈ names := fun f mem => ordered.subset (List.mem_map_of_mem mem)
  have collected := collectFields_map unknown [] known (distinct.sublist ordered)
  rw [ofFields, fields?, collected]
  rfl

/-- Once the fields are there, a required one is read if what stands there restores a value. -/
theorem Fields.required_bind {f : Fields} {name : String} {a : α} {next : α → Option β}
    (restored : Restores write read a) (found : f.entries.lookup name = some (write a)) :
    (f.required name read >>= next) = next a := by
  rw [required, found, Option.bind_some, restored.read_write]
  rfl

/-- An optional field is read, there or not, if its value is restored and is not written as `null`. -/
theorem Fields.optional_bind {f : Fields} {name : String} {o : Option α}
    {next : Option α → Option β} (restored : ∀ a, Restores write read a)
    (written : ∀ a, write a ≠ .null) (found : f.entries.lookup name = o.map write) :
    (f.optional name (orNull? read) none >>= next) = next o := by
  rw [optional, found]
  cases o with
  | none => rfl
  | some a =>
    rw [Option.map_some]
    dsimp only
    rw [orNull?, (restored a).read_write]
    · rfl
    · exact written a

/-- An object of values that can be written can be written. -/
theorem wellFormed_ofFields {fields : List (String × Json)} (each : ∀ f ∈ fields, f.2.WellFormed) :
    (ofFields fields).WellFormed :=
  .object (List.forall_mem_map.mpr fun _ _ => rfl) (List.forall_mem_map.mpr each)

end Json

end ComputePlanner
