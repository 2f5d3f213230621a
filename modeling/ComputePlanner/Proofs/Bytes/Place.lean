import ComputePlanner.Proofs.Bytes.Cursor
import Mathlib.Data.List.Forall2

/-! # What stands at a place of a buffer
A format of fixed widths says of each of its words where it stands. The lemmas here find it there again:
a part between others (**`partAt_append`**), one of many parts of the same length
(**`partAt_flatten`**), and the number that such a part stores (**`numberAt`**). -/

namespace ComputePlanner

/-- The bytes of a buffer from a place on, so many of them. -/
def partAt (buf : Bytes) (start length : Nat) : Bytes := (buf.drop start).take length

/-- The number that is stored at a place of a buffer, in so many bytes. -/
def numberAt (buf : Bytes) (start width : Nat) : Nat := ofLittleEndian (partAt buf start width)

/-- Behind the front of a buffer stands what was put there. -/
theorem partAt_append {front middle : Bytes} {start length : Nat} (before : front.length = start)
    (size : middle.length = length) (rest : Bytes) :
    partAt (front ++ middle ++ rest) start length = middle := by
  rw [partAt, List.append_assoc, List.drop_left' before, List.take_left' size]

/-- Behind the front of a buffer the places go on. -/
theorem partAt_append_add {front : Bytes} {start : Nat} (before : front.length = start)
    (rest : Bytes) (i length : Nat) :
    partAt (front ++ rest) (start + i) length = partAt rest i length := by
  rw [partAt, ← List.drop_drop, List.drop_left' before, partAt]

/-- A part that ends in the front of a buffer is a part of the front. -/
theorem partAt_front {front buf : Bytes} {start length : Nat} (pre : front <+: buf)
    (inside : start + length ≤ front.length) :
    partAt buf start length = partAt front start length := by
  obtain ⟨rest, rfl⟩ := pre
  rw [partAt, List.drop_append_of_le_length (by omega), partAt, List.take_append_of_le_length]
  rw [List.length_drop]
  omega

/-- A part of a part is a part. -/
theorem partAt_partAt {buf : Bytes} {start length start' length' : Nat}
    (inside : start' + length' ≤ length) :
    partAt (partAt buf start length) start' length' = partAt buf (start + start') length' := by
  rw [partAt, partAt, partAt, List.drop_take, List.drop_drop, List.take_take,
    Nat.min_eq_left (by omega)]

/-- Parts of the same length take that length each. -/
theorem length_flatten_of_width {forms : List Bytes} {width : Nat}
    (widths : ∀ form ∈ forms, form.length = width) :
    forms.flatten.length = forms.length * width := by
  induction forms with
  | nil => exact (Nat.zero_mul _).symm
  | cons first forms ih =>
    obtain ⟨here, others⟩ := List.forall_mem_cons.mp widths
    rw [List.flatten_cons, List.length_append, here, ih others, List.length_cons, Nat.succ_mul,
      Nat.add_comm]

/-- Forms that all have the same length are parts of the same length. -/
theorem length_of_forall₂ {α : Type} {Form : α → Bytes → Prop} {width : Nat}
    (widths : ∀ {a form}, Form a form → form.length = width) {as : List α} {forms : List Bytes}
    (each : List.Forall₂ Form as forms) : ∀ form ∈ forms, form.length = width := by
  induction each with
  | nil => exact nofun
  | cons form _ ih => exact List.forall_mem_cons.mpr ⟨widths form, ih⟩

/-- Parts of the same length that are put in a row are found in their places. -/
theorem partAt_flatten {forms : List Bytes} {width i : Nat} {form : Bytes}
    (widths : ∀ form ∈ forms, form.length = width) (given : forms[i]? = some form) (rest : Bytes) :
    partAt (forms.flatten ++ rest) (i * width) width = form := by
  induction forms generalizing i with
  | nil => cases given
  | cons first forms ih =>
    obtain ⟨here, others⟩ := List.forall_mem_cons.mp widths
    rw [List.flatten_cons, List.append_assoc]
    cases i with
    | zero =>
      obtain rfl := Option.some.inj given
      rw [Nat.zero_mul]
      exact partAt_append List.length_nil here _
    | succ i =>
      have behind : (i + 1) * width = first.length + i * width := by
        rw [here, Nat.succ_mul, Nat.add_comm]
      rw [partAt, behind, ← List.drop_drop, List.drop_left]
      exact ih others given

/-- Words that are written one after the other are found in their places. -/
theorem partAt_words {values : List UInt32} {i : Nat} {value : UInt32}
    (given : values[i]? = some value) (rest : Bytes) :
    partAt (values.flatMap word32 ++ rest) (4 * i) 4 = word32 value := by
  have form : (values.map word32)[i]? = some (word32 value) := by
    rw [List.getElem?_map, given, Option.map_some]
  have widths : ∀ form ∈ values.map word32, form.length = 4 :=
    List.forall_mem_map.mpr fun value _ => length_word32 value
  rw [List.flatMap_def, Nat.mul_comm, partAt_flatten widths form]

/-! ## Stored numbers -/

/-- Behind the front of a buffer stands the number that was put there, if its bytes hold it. -/
theorem numberAt_append {front : Bytes} {start width n : Nat} (before : front.length = start)
    (fits : n < 256 ^ width) (rest : Bytes) :
    numberAt (front ++ littleEndian width n ++ rest) start width = n := by
  rw [numberAt, partAt_append before (length_littleEndian width n), ofLittleEndian_littleEndian,
    Nat.mod_eq_of_lt fits]

/-- A number that is stored in the front of a buffer is stored in the whole. -/
theorem numberAt_front {front buf : Bytes} {start width : Nat} (pre : front <+: buf)
    (inside : start + width ≤ front.length) :
    numberAt buf start width = numberAt front start width := by
  rw [numberAt, partAt_front pre inside, numberAt]

/-- A number that stands in a part stands in the whole. -/
theorem numberAt_partAt {buf : Bytes} {start length start' width : Nat}
    (inside : start' + width ≤ length) :
    numberAt (partAt buf start length) start' width = numberAt buf (start + start') width := by
  rw [numberAt, numberAt, partAt_partAt inside]

/-- A word of 32 bits is the number that it stores. -/
theorem numberAt_word32 {front : Bytes} {start : Nat} (before : front.length = start) (v : UInt32)
    (rest : Bytes) : numberAt (front ++ word32 v ++ rest) start 4 = v.toNat :=
  numberAt_append before v.toNat_lt rest

/-- A word of 64 bits is the number that it stores. -/
theorem numberAt_word64 {front : Bytes} {start : Nat} (before : front.length = start) (v : UInt64)
    (rest : Bytes) : numberAt (front ++ word64 v ++ rest) start 8 = v.toNat :=
  numberAt_append before v.toNat_lt rest

end ComputePlanner
