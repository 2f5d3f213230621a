import ComputePlanner.Record.Basic
import Mathlib.Algebra.Order.Ring.Nat

/-! # How long written records can be
A length is written in 32 bits, so a record can only be read back if none of its fields is longer.
Beside the lower bounds that reading relies on, there are these upper bounds: fields, records and
lists of records whose parts are short are short themselves.

Main definition: **`Record.Bounded`**. -/

namespace ComputePlanner

/-- Fields whose data is bounded take at most that and a header each. -/
theorem length_encodeFields_le {bound : Nat} {fs : List Field}
    (short : ∀ f ∈ fs, f.value.data.length ≤ bound) :
    (encodeFields fs).length ≤ fs.length * (bound + 8) := by
  induction fs with
  | nil => exact Nat.zero_le _
  | cons f fs ih =>
    obtain ⟨here, later⟩ := List.forall_mem_cons.mp short
    have rest := ih later
    rw [encodeFields_cons, List.length_append, length_field, List.length_cons, Nat.succ_mul]
    omega

/-! ## Records of words -/

/-- Whether a value is a single number or flag. -/
def Value.IsWord : Value → Prop
  | .u8 _ | .u16 _ | .u32 _ | .u64 _ | .bool _ => True
  | _ => False

/-- Such a value is written in at most eight bytes. -/
theorem Value.IsWord.length_data_le {v : Value} (word : v.IsWord) : v.data.length ≤ 8 := by
  cases v with
  | u8 v => exact Nat.le_of_ble_eq_true rfl
  | u16 v => exact (length_word16 v).trans_le (by decide)
  | u32 v => exact (length_word32 v).trans_le (by decide)
  | u64 v => exact (length_word64 v).le
  | bool v => exact Nat.le_of_ble_eq_true rfl
  | _ => exact word.elim

/-! ## Records and lists of them -/

/-- A record of at most so many fields, the data of each of which is at most so long. -/
structure Record.Bounded (r : Record) (fields bound : Nat) : Prop where
  count : r.length ≤ fields
  data : ∀ f ∈ r, f.value.data.length ≤ bound

/-- A record of words. -/
theorem Record.Bounded.of_words {r : Record} {fields : Nat} (count : r.length ≤ fields)
    (words : ∀ f ∈ r, f.value.IsWord) : r.Bounded fields 8 where
  count
  data f mem := (words f mem).length_data_le

/-- Such a record is short. -/
theorem Record.Bounded.length_encode {r : Record} {fields bound : Nat}
    (bounded : r.Bounded fields bound) : r.encode.length ≤ fields * (bound + 8) + 4 := by
  have data := length_encodeFields_le bounded.data
  have count := Nat.mul_le_mul_right (bound + 8) bounded.count
  rw [length_record]
  omega

/-- A list of such records is short, if there are few of them. -/
theorem length_data_records_le {α : Type} {toRecord : α → Record} {count fields bound : Nat}
    {xs : List α} (few : xs.length ≤ count) (bounded : ∀ x ∈ xs, (toRecord x).Bounded fields bound) :
    (Value.records (xs.map toRecord)).data.length ≤ count * (fields * (bound + 8) + 8) + 4 := by
  have records : (encodeRecords (xs.map toRecord)).length
      ≤ xs.length * (fields * (bound + 8) + 8) := by
    clear few
    induction xs with
    | nil => exact Nat.zero_le _
    | cons x xs ih =>
      obtain ⟨here, later⟩ := List.forall_mem_cons.mp bounded
      have first := here.length_encode
      have rest := ih later
      rw [List.map_cons, encodeRecords_cons, List.length_append, length_lengthFirst,
        List.length_cons, Nat.succ_mul]
      omega
  have all := records.trans (Nat.mul_le_mul_right _ few)
  rw [data_records, List.length_append, length_count32]
  omega

end ComputePlanner
