import ComputePlanner.Metadata.Codec
import ComputePlanner.Proofs.Record.Completion
import Mathlib.Data.FinEnum

/-! # What a record is decoded to
A document is decoded field by field, at four levels of nesting, and every read of a field could fail
on its own. In a record that follows the schema none of them does: what can go wrong is a byte that
stands for one of few values and is **beyond the highest code** of its field. If there is none, the
document that comes out is the completion of the record: what the record holds, and zero, empty or
default values for what it does not.

Main statement: **`decoding`**. Each type of the document has its own lemma, in the order in which the
record nests them. -/

namespace ComputePlanner

open MetadataSchema

/-! ## Bytes of a document -/

/-- The highest code of a byte, by the name of its field. Fields that are not enumerated use all
codes. -/
def highestCode : String → UInt8
  | "addrSpace" | "inOut" | "portType" | "networkHeapBehavior" | "Constants" => 1
  | "devAddrSpace" | "opSize" => 2
  | "semOp" => 6
  | _ => 255

/-- Zero is beyond no highest code. -/
theorem ne_zero_of_highestCode_lt {name : String} {code : UInt8}
    (beyond : highestCode name < code) : code ≠ 0 := by
  rintro rfl
  simp at beyond

/-- What is made of a byte, by the name of its field. Of the point of a semaphore operation it only
matters whether it is zero. -/
def codeRead : String → UInt8 → UInt8
  | "preOrPost", code => if code = 0 then 0 else 1
  | _, code => code

/-- A field of a decoded document is what the record says of it, and its bytes have a meaning. -/
abbrev Decoded (s : Schema) (r : Record) (f : Field) : Prop :=
  Told codeRead (fun name code => code ≤ highestCode name) s r f

/-- The fields of a decoded document are the completion of the record, whose bytes all have a
meaning. -/
abbrev DecodedAs (s : Schema) (r fields : Record) : Prop :=
  fields = s.complete codeRead r ∧ ∀ name code, s.HasByte r name code → code ≤ highestCode name

/-- From an empty record, what is made up. -/
theorem decodedAs_nil {s : Schema} {fields : Record} (same : fields = s.complete codeRead []) :
    DecodedAs s [] fields :=
  ⟨same, fun name code holds => absurd holds (s.not_hasByte_nil name code)⟩

/-- A point is written as it was understood. -/
theorem SyncPoint.code_ofCode (c : UInt8) : (ofCode c).code = codeRead "preOrPost" c := by
  show (ofCode c).code = if c = 0 then 0 else 1
  unfold ofCode
  split <;> rfl

/-- The values of an enumeration stand for the codes of a field up to the highest. -/
structure Enumerates (name : String) (ofCode? : UInt8 → Option α) (code : α → UInt8) : Prop where
  codes : ∀ c, (ofCode? c).map code = if c ≤ highestCode name then some c else none
  verbatim : ∀ c, codeRead name c = c

/-- Memories of a core. -/
theorem CoreMemory.enumerates : Enumerates "addrSpace" ofCode? code :=
  ⟨by decide +kernel, fun _ => rfl⟩

/-- Actions on a semaphore. -/
theorem SemaphoreAction.enumerates : Enumerates "semOp" ofCode? code :=
  ⟨by decide +kernel, fun _ => rfl⟩

/-- Widths of a doorbell write. -/
theorem DoorbellWidth.enumerates : Enumerates "opSize" ofCode? code :=
  ⟨by decide +kernel, fun _ => rfl⟩

/-- Device memories. -/
theorem DeviceSpace.enumerates : Enumerates "devAddrSpace" ofCode? code :=
  ⟨by decide +kernel, fun _ => rfl⟩

/-- Directions of a transfer. -/
theorem Direction.enumerates : Enumerates "inOut" ofCode? code :=
  ⟨by decide +kernel, fun _ => rfl⟩

/-- Types of a port. -/
theorem PortType.enumerates : Enumerates "portType" ofCode? code :=
  ⟨by decide +kernel, fun _ => rfl⟩

/-- Behaviours of the heap. -/
theorem HeapBehavior.enumerates : Enumerates "networkHeapBehavior" ofCode? code :=
  ⟨by decide +kernel, fun _ => rfl⟩

/-- Settings of the cache. -/
theorem ConstantsCaching.enumerates : Enumerates "Constants" ofCode? code :=
  ⟨by decide +kernel, fun _ => rfl⟩

namespace Enumerates

variable {name : String} {ofCode? : UInt8 → Option α} {code : α → UInt8}

/-- A code up to the highest is that of a value. -/
theorem exists_of_le (enum : Enumerates name ofCode? code) {c : UInt8}
    (low : c ≤ highestCode name) : ∃ a, ofCode? c = some a ∧ code a = c := by
  have codes := enum.codes c
  rw [if_pos low] at codes
  exact Option.map_eq_some_iff.mp codes

/-- A code beyond the highest is that of none. -/
theorem eq_none_of_lt (enum : Enumerates name ofCode? code) {c : UInt8}
    (beyond : highestCode name < c) : ofCode? c = none := by
  have codes := enum.codes c
  rw [if_neg (UInt8.not_le.mpr beyond)] at codes
  exact Option.map_eq_none_iff.mp codes

end Enumerates

/-! ## Reading a field -/

section

variable {s : Schema} {r : Record} {spec : FieldSpec} (found : s.ofTag? spec.tag = some spec)

include found

/-- What a record has for a field without a byte is decoded with its records completed, if their bytes
have a meaning. -/
theorem Decoded.of_valueOf {v : Value} (value : r.valueOf spec = v) (other : v.kind ≠ .u8)
    (low : ∀ r' ∈ v.subrecords, ∀ name code, Schema.HasByte spec.nested r' name code →
      code ≤ highestCode name) :
    Decoded s r ⟨spec.tag, v.mapRecords (Schema.complete codeRead spec.nested)⟩ := by
  refine ⟨spec, found, ?_, fun name code holds => ?_⟩
  · rw [value, FieldSpec.complete_eq]
    cases v with
    | u8 c => exact absurd rfl other
    | _ => rfl
  · rw [value, FieldSpec.hasByte_iff] at holds
    rcases holds with ⟨rfl, -⟩ | ⟨r', sub, inside⟩
    · exact absurd rfl other
    · exact low r' sub name code inside

/-- A byte of a record in a field is in the record around it, if it is beyond the highest code. -/
theorem Follows.hasByte_of_subrecord (h : Follows s r) {v : Value} (value : r.valueOf spec = v)
    {r' : Record} (sub : r' ∈ v.subrecords) {name : String} {code : UInt8}
    (holds : Schema.HasByte spec.nested r' name code) (beyond : highestCode name < code) :
    s.HasByte r name code := by
  refine h.hasByte_of_valueOf found ?_ (ne_zero_of_highestCode_lt beyond)
  rw [value]
  exact FieldSpec.hasByte_iff.mpr (.inr ⟨r', sub, holds⟩)

end

namespace Follows

variable {s : Schema} {r : Record} {tag : UInt16}

/-- A field of a plain kind is read as what the record says of it. -/
theorem decoded_fetch (h : Follows s r) {kind : Kind} (known : s.kindOf? tag = some kind)
    (plain : kind.isPlain = true) {view : Value → Option α} {mk : α → Value} {absent : α}
    (views : ∀ v, v.kind = kind → ∃ a, view v = some a ∧ v = mk a)
    (zero : view kind.zero = some absent) :
    ∃ a, r.fetch tag kind view absent = .ok a ∧ Decoded s r ⟨tag, mk a⟩ := by
  obtain ⟨spec, rfl, found, rfl⟩ := Schema.exists_of_kindOf? known
  have kind := h.kind_valueOf found
  obtain ⟨a, seen, value⟩ := views _ kind
  refine ⟨a, Record.fetch_of_valueOf zero seen, ?_⟩
  -- a plain value is its own completion and holds no byte
  rw [value] at kind
  obtain ⟨other, alone, same⟩ := Value.of_isPlain (kind ▸ plain)
  have told := Decoded.of_valueOf found value other (by rw [alone]; nofun)
  rwa [same] at told

/-- A 16-bit word is read as what the record says of it; so are values of the other plain kinds. -/
theorem decoded_u16 (h : Follows s r) (known : s.kindOf? tag = some .u16) :
    ∃ a, r.u16 tag = .ok a ∧ Decoded s r ⟨tag, .u16 a⟩ :=
  h.decoded_fetch known rfl (by rintro (_ | _) ⟨⟩; exact ⟨_, rfl, rfl⟩) rfl

/-- A 32-bit word. -/
theorem decoded_u32 (h : Follows s r) (known : s.kindOf? tag = some .u32) :
    ∃ a, r.u32 tag = .ok a ∧ Decoded s r ⟨tag, .u32 a⟩ :=
  h.decoded_fetch known rfl (by rintro (_ | _) ⟨⟩; exact ⟨_, rfl, rfl⟩) rfl

/-- A 64-bit word. -/
theorem decoded_u64 (h : Follows s r) (known : s.kindOf? tag = some .u64) :
    ∃ a, r.u64 tag = .ok a ∧ Decoded s r ⟨tag, .u64 a⟩ :=
  h.decoded_fetch known rfl (by rintro (_ | _) ⟨⟩; exact ⟨_, rfl, rfl⟩) rfl

/-- A flag. -/
theorem decoded_bool (h : Follows s r) (known : s.kindOf? tag = some .bool) :
    ∃ a, r.bool tag = .ok a ∧ Decoded s r ⟨tag, .bool a⟩ :=
  h.decoded_fetch known rfl (by rintro (_ | _) ⟨⟩; exact ⟨_, rfl, rfl⟩) rfl

/-- A text. -/
theorem decoded_text (h : Follows s r) (known : s.kindOf? tag = some .text) :
    ∃ a, r.text tag = .ok a ∧ Decoded s r ⟨tag, .text a⟩ :=
  h.decoded_fetch known rfl (by rintro (_ | _) ⟨⟩; exact ⟨_, rfl, rfl⟩) rfl

/-- A byte string. -/
theorem decoded_bytes (h : Follows s r) (known : s.kindOf? tag = some .bytes) :
    ∃ a, r.bytes tag = .ok a ∧ Decoded s r ⟨tag, .bytes a⟩ :=
  h.decoded_fetch known rfl (by rintro (_ | _) ⟨⟩; exact ⟨_, rfl, rfl⟩) rfl

/-- A list of words. -/
theorem decoded_words (h : Follows s r) (known : s.kindOf? tag = some .words) :
    ∃ a, r.words tag = .ok a ∧ Decoded s r ⟨tag, .words a⟩ :=
  h.decoded_fetch known rfl (by rintro (_ | _) ⟨⟩; exact ⟨_, rfl, rfl⟩) rfl

/-- A list of texts. -/
theorem decoded_texts (h : Follows s r) (known : s.kindOf? tag = some .texts) :
    ∃ a, r.texts tag = .ok a ∧ Decoded s r ⟨tag, .texts a⟩ :=
  h.decoded_fetch known rfl (by rintro (_ | _) ⟨⟩; exact ⟨_, rfl, rfl⟩) rfl

/-- A byte is read as it is. If it has a meaning, it is what the record says of it; if it has none, it
is in the record. -/
theorem decoded_u8 (h : Follows s r) {name : String}
    (known : (s.ofTag? tag).map (fun spec => (spec.name, spec.kind)) = some (name, .u8)) :
    ∃ c, r.u8 tag = .ok c ∧
      (c ≤ highestCode name → Decoded s r ⟨tag, .u8 (codeRead name c)⟩) ∧
      (highestCode name < c → s.HasByte r name c) := by
  obtain ⟨spec, found, same⟩ := Option.map_eq_some_iff.mp known
  obtain ⟨rfl, kind⟩ := Prod.mk.inj same
  obtain ⟨-, rfl⟩ := Schema.mem_of_ofTag? found
  obtain ⟨c, value⟩ : ∃ c, r.valueOf spec = .u8 c :=
    match r.valueOf spec, (h.kind_valueOf found).trans kind with
    | .u8 c, _ => ⟨c, rfl⟩
  have read : r.fetch spec.tag spec.kind Value.asU8? 0 = .ok c :=
    Record.fetch_of_valueOf (by rw [kind]; rfl) (by rw [value]; rfl)
  rw [kind] at read
  refine ⟨c, read, fun low => ⟨spec, found, ?_, fun name code holds => ?_⟩, fun beyond => ?_⟩
  · rw [value, FieldSpec.complete_eq]
    rfl
  · rw [value, FieldSpec.hasByte_iff] at holds
    rcases holds with ⟨⟨⟩, rfl⟩ | ⟨r', sub, -⟩
    · exact low
    · exact absurd sub List.not_mem_nil
  · exact h.hasByte_of_valueOf found (value ▸ .self spec c) (ne_zero_of_highestCode_lt beyond)

end Follows

/-! ## Steps of decoding -/

/-- A step of decoding gives what is good, or fails for a byte of the record that is beyond the
highest code of its field. -/
structure Decodes (s : Schema) (r : Record) (good : α → Prop) (step : Except FormatError α) :
    Prop where
  value : ∀ a, step = .ok a → good a
  fault : ∀ e, step = .error e → ∃ name code, s.HasByte r name code ∧ highestCode name < code ∧
    e = .undefinedValue name code

namespace Decodes

variable {α β : Type} {p p' : α → Prop} {q : β → Prop} {s s' : Schema} {r : Record} {tag : UInt16}

/-- A result. -/
theorem ok {a : α} (good : p a) : Decodes s r p (.ok a) where
  value _ same := Except.ok.inj same ▸ good
  fault _ same := nomatch same

/-- A byte beyond the highest code. -/
theorem undefined {name : String} {code : UInt8} (holds : s.HasByte r name code)
    (beyond : highestCode name < code) : Decodes s r p (.error (.undefinedValue name code)) where
  value _ same := nomatch same
  fault _ same := ⟨name, code, holds, beyond, (Except.error.inj same).symm⟩

/-- What follows from what is good. -/
theorem imp {x : Except FormatError α} (h : Decodes s r p x) (follows : ∀ a, p a → p' a) :
    Decodes s r p' x where
  value a given := follows a (h.value a given)
  fault := h.fault

/-- Steps in a row. -/
theorem bind {x : Except FormatError α} {f : α → Except FormatError β} (first : Decodes s r p x)
    (rest : ∀ a, p a → Decodes s r q (f a)) : Decodes s r q (x >>= f) where
  value b run := by
    obtain ⟨a, given, run⟩ := bind_eq_ok.mp run
    exact (rest a (first.value a given)).value b run
  fault e run := by
    rcases bind_eq_error.mp run with failed | ⟨a, given, failed⟩
    · exact first.fault e failed
    · exact (rest a (first.value a given)).fault e failed

/-- Two steps that are one. -/
theorem group {γ : Type} {x : Except FormatError γ} {g : γ → Except FormatError α}
    {f : α → Except FormatError β} (first : Decodes s r p (x >>= g))
    (rest : ∀ a, p a → Decodes s r q (f a)) : Decodes s r q (x >>= fun c => g c >>= f) := by
  rw [← bind_assoc]
  exact first.bind rest

/-- A read of a field that succeeds. -/
theorem read {x : Except RecordFault α} (given : ∃ a, x = .ok a ∧ p a)
    {f : α → Except FormatError β} (rest : ∀ a, p a → Decodes s r q (f a)) :
    Decodes s r q ((liftM x : Except FormatError α) >>= f) := by
  obtain ⟨a, rfl, good⟩ := given
  exact rest a good

/-- A byte whose field is not enumerated. -/
theorem byte (name : String) (h : Follows s r)
    (known : (s.ofTag? tag).map (fun spec => (spec.name, spec.kind)) = some (name, .u8))
    (free : highestCode name = 255) {f : UInt8 → Except FormatError β}
    (rest : ∀ c, Decoded s r ⟨tag, .u8 (codeRead name c)⟩ → Decodes s r q (f c)) :
    Decodes s r q (do let c ← r.u8 tag; f c) := by
  obtain ⟨c, given, told, -⟩ := h.decoded_u8 known
  have low : c ≤ highestCode name := by
    rw [free, UInt8.le_iff_toNat_le]
    exact Nat.le_of_lt_succ c.toNat_lt
  exact read ⟨c, given, told low⟩ rest

/-- A byte whose field is enumerated. -/
theorem code (h : Follows s r) {name : String} {ofCode? : UInt8 → Option α} {code : α → UInt8}
    (enum : Enumerates name ofCode? code)
    (known : (s.ofTag? tag).map (fun spec => (spec.name, spec.kind)) = some (name, .u8)) :
    Decodes s r (fun a => Decoded s r ⟨tag, .u8 (code a)⟩)
      (do let c ← r.u8 tag; defined name ofCode? c) := by
  obtain ⟨c, given, told, holds⟩ := h.decoded_u8 known
  rw [given]
  show Decodes s r _ (defined name ofCode? c)
  rw [defined]
  by_cases low : c ≤ highestCode name
  · obtain ⟨a, value, rfl⟩ := enum.exists_of_le low
    have told := told low
    rw [enum.verbatim] at told
    rw [value]
    exact ok told
  · have beyond := UInt8.not_le.mp low
    rw [enum.eq_none_of_lt beyond]
    exact undefined (holds beyond) beyond

/-- A step of decoding a record that is in a field. -/
theorem lift {r' : Record} {x : Except FormatError α} (inner : Decodes s' r' p x)
    (up : ∀ {name code}, s'.HasByte r' name code → highestCode name < code → s.HasByte r name code) :
    Decodes s r p x where
  value := inner.value
  fault e failed := by
    obtain ⟨name, code, holds, beyond, same⟩ := inner.fault e failed
    exact ⟨name, code, up holds beyond, beyond, same⟩

/-- Records are decoded as what they say if each of them is. -/
theorem mapM {decode : Record → Except FormatError α} {write : α → Record} {rs : List Record}
    (each : ∀ r' ∈ rs, Decodes s r (fun a => DecodedAs s' r' (write a)) (decode r')) :
    Decodes s r (fun as => as.map write = rs.map (s'.complete codeRead) ∧
      ∀ r' ∈ rs, ∀ name code, s'.HasByte r' name code → code ≤ highestCode name)
      (rs.mapM decode) := by
  induction rs with
  | nil => exact ok ⟨rfl, nofun⟩
  | cons r' rs ih =>
    obtain ⟨first, each⟩ := List.forall_mem_cons.mp each
    rw [List.mapM_cons]
    refine bind first fun a here => ?_
    refine bind (ih each) fun as there => ?_
    refine ok ⟨?_, List.forall_mem_cons.mpr ⟨here.2, there.2⟩⟩
    rw [List.map_cons, List.map_cons, here.1, there.1]

/-- A field of records, if a record that follows the schema below is decoded as what it says. -/
theorem records (tag : UInt16) (h : Follows s r) (known : s.kindOf? tag = some .records)
    {decode : Record → Except FormatError α} {write : α → Record}
    (each : ∀ r', Follows (s.below tag) r' →
      Decodes (s.below tag) r' (fun a => DecodedAs (s.below tag) r' (write a)) (decode r')) :
    Decodes s r (fun as => Decoded s r ⟨tag, .records (as.map write)⟩)
      (do let rs ← r.records tag; rs.mapM decode) := by
  obtain ⟨spec, rfl, found, kind⟩ := Schema.exists_of_kindOf? known
  obtain ⟨rs, given, value, follow⟩ := h.exists_records found kind
  rw [Schema.below_eq found] at each
  rw [given]
  show Decodes s r _ (rs.mapM decode)
  -- what is wrong with a record of the list is wrong with the record around it
  have lifted : ∀ r' ∈ rs,
      Decodes s r (fun a => DecodedAs spec.nested r' (write a)) (decode r') :=
    fun r' mem => (each r' (follow r' mem)).lift (h.hasByte_of_subrecord found value mem)
  refine (mapM lifted).imp fun as ⟨written, low⟩ => ?_
  rw [written]
  exact .of_valueOf found value nofun low

/-- A field of a record, if one that follows the schema below is decoded as what it says, and so is
its absence. -/
theorem record? (tag : UInt16) (h : Follows s r) (known : s.kindOf? tag = some .record)
    {decode : Option Record → Except FormatError α} {write : α → Record}
    (each : ∀ o, (∀ r', o = some r' → Follows (s.below tag) r') →
      Decodes (s.below tag) (o.getD []) (fun a => DecodedAs (s.below tag) (o.getD []) (write a))
        (decode o)) :
    Decodes s r (fun a => Decoded s r ⟨tag, .record (write a)⟩)
      (do let o ← r.record? tag; decode o) := by
  obtain ⟨spec, rfl, found, kind⟩ := Schema.exists_of_kindOf? known
  obtain ⟨o, given, value, follow⟩ := h.exists_record? found kind
  rw [Schema.below_eq found] at each
  rw [given]
  show Decodes s r _ (decode o)
  have lifted : Decodes s r (fun a => DecodedAs spec.nested (o.getD []) (write a)) (decode o) :=
    (each o follow).lift (h.hasByte_of_subrecord found value List.mem_cons_self)
  refine lifted.imp fun a ⟨written, low⟩ => ?_
  rw [written]
  exact .of_valueOf found value nofun (List.forall_mem_singleton.mpr low)

end Decodes

/-! ## The types of a document -/

section

variable {r : Record}

/-- A run. -/
theorem Region.decodes (h : Follows region r) :
    Decodes region r (fun x => DecodedAs region r x.toRecord) (Region.ofRecord r) := by
  refine .read (h.decoded_u64 rfl) fun _ _ => ?_
  refine .read (h.decoded_u64 rfl) fun _ _ => ?_
  refine .read (h.decoded_u64 rfl) fun _ _ => ?_
  refine .ok (h.eq_complete_and_forall_hasByte (by decide) rfl ?_)
  simp [toRecord, *]

/-- A group as a core sees it. -/
theorem MulticastEntry.decodes (h : Follows coreEntry r) :
    Decodes coreEntry r (fun e => DecodedAs coreEntry r e.toRecord) (MulticastEntry.ofRecord r) := by
  refine .read (h.decoded_bool rfl) fun _ _ => ?_
  refine .read (h.decoded_u32 rfl) fun _ _ => ?_
  refine .read (h.decoded_u32 rfl) fun _ _ => ?_
  refine (Decodes.code h CoreMemory.enumerates rfl).group fun _ _ => ?_
  refine .read (h.decoded_u64 rfl) fun _ _ => ?_
  refine .ok (h.eq_complete_and_forall_hasByte (by decide) rfl ?_)
  simp [toRecord, *]

/-- The groups that a core sees. -/
theorem decodes_coreTable (h : Follows coreTable r) :
    Decodes coreTable r (fun t => DecodedAs coreTable r [⟨1, .records (t.map (·.toRecord))⟩])
      (coreTableOfRecord r) := by
  refine (Decodes.records 1 h rfl fun _ => MulticastEntry.decodes).imp fun _ _ => ?_
  refine h.eq_complete_and_forall_hasByte (by decide) rfl ?_
  simp [*]

/-- A group as the host sees it. -/
theorem HostEntry.decodes (h : Follows hostEntry r) :
    Decodes hostEntry r (fun e => DecodedAs hostEntry r e.toRecord) (HostEntry.ofRecord r) := by
  refine .read (h.decoded_u32 rfl) fun _ _ => ?_
  refine .read (h.decoded_u32 rfl) fun _ _ => ?_
  refine .ok (h.eq_complete_and_forall_hasByte (by decide) rfl ?_)
  simp [toRecord, *]

/-- The groups that the host sees. -/
theorem decodes_hostTable {o : Option Record} (h : ∀ r, o = some r → Follows hostTable r) :
    Decodes hostTable (o.getD [])
      (fun t => DecodedAs hostTable (o.getD []) [⟨1, .records (t.map (·.toRecord))⟩])
      (hostTableOfRecord o) := by
  cases o with
  | none => exact .ok (decodedAs_nil rfl)
  | some r =>
    refine (Decodes.records 1 (h r rfl) rfl fun _ => HostEntry.decodes).imp fun _ _ => ?_
    refine (h r rfl).eq_complete_and_forall_hasByte (by decide) rfl ?_
    simp [*]

/-- A semaphore operation. -/
theorem SemaphoreOp.decodes (h : Follows semaphoreOp r) :
    Decodes semaphoreOp r (fun op => DecodedAs semaphoreOp r op.toRecord)
      (SemaphoreOp.ofRecord r) := by
  refine (Decodes.code h SemaphoreAction.enumerates rfl).group fun _ _ => ?_
  refine .read (h.decoded_u16 rfl) fun _ _ => ?_
  refine .read (h.decoded_u16 rfl) fun _ _ => ?_
  refine .byte "preOrPost" h rfl rfl fun c told => ?_
  refine .read (h.decoded_bool rfl) fun _ _ => ?_
  refine .read (h.decoded_bool rfl) fun _ _ => ?_
  rw [← SyncPoint.code_ofCode] at told
  refine .ok (h.eq_complete_and_forall_hasByte (by decide) rfl ?_)
  simp [toRecord, *]

/-- A doorbell write. -/
theorem DoorbellOp.decodes (h : Follows doorbellOp r) :
    Decodes doorbellOp r (fun op => DecodedAs doorbellOp r op.toRecord) (DoorbellOp.ofRecord r) := by
  refine (Decodes.code h DoorbellWidth.enumerates rfl).group fun _ _ => ?_
  refine .read (h.decoded_u16 rfl) fun _ _ => ?_
  refine .read (h.decoded_u64 rfl) fun _ _ => ?_
  refine .read (h.decoded_u32 rfl) fun _ _ => ?_
  refine .ok (h.eq_complete_and_forall_hasByte (by decide) rfl ?_)
  simp [toRecord, *]

/-- A transfer. -/
theorem Transfer.decodes (h : Follows transfer r) :
    Decodes transfer r (fun t => DecodedAs transfer r t.toRecord) (Transfer.ofRecord r) := by
  refine (Decodes.records 9 h rfl fun _ => SemaphoreOp.decodes).group fun _ _ => ?_
  refine (Decodes.records 10 h rfl fun _ => DoorbellOp.decodes).group fun _ _ => ?_
  refine .read (h.decoded_u16 rfl) fun _ _ => ?_
  refine .read (h.decoded_u64 rfl) fun _ _ => ?_
  refine (Decodes.code h DeviceSpace.enumerates rfl).group fun _ _ => ?_
  refine .read (h.decoded_u64 rfl) fun _ _ => ?_
  refine .read (h.decoded_u32 rfl) fun _ _ => ?_
  refine (Decodes.code h Direction.enumerates rfl).group fun _ _ => ?_
  refine .read (h.decoded_u16 rfl) fun _ _ => ?_
  refine .read (h.decoded_u16 rfl) fun _ _ => ?_
  refine .read (h.decoded_u32 rfl) fun _ _ => ?_
  refine .ok (h.eq_complete_and_forall_hasByte (by decide) rfl ?_)
  simp [toRecord, *]

/-- A thread. -/
theorem Thread.decodes (h : Follows thread r) :
    Decodes thread r (fun t => DecodedAs thread r t.toRecord) (Thread.ofRecord r) := by
  refine .read (h.decoded_u64 rfl) fun _ _ => ?_
  refine .byte "typeMask" h rfl rfl fun c told => ?_
  have told : Decoded thread r ⟨2, .u8 c⟩ := told
  refine .ok (h.eq_complete_and_forall_hasByte (by decide) rfl ?_)
  simp [toRecord, *]

/-- A mapping. -/
theorem ConstantMapping.decodes (h : Follows constantMapping r) :
    Decodes constantMapping r (fun m => DecodedAs constantMapping r m.toRecord)
      (ConstantMapping.ofRecord r) := by
  refine .read (h.decoded_u32 rfl) fun _ _ => ?_
  refine .read (h.decoded_u64 rfl) fun _ _ => ?_
  refine .read (h.decoded_u32 rfl) fun _ _ => ?_
  refine .ok (h.eq_complete_and_forall_hasByte (by decide) rfl ?_)
  simp [toRecord, *]

/-- A port. -/
theorem Port.decodes (h : Follows port r) :
    Decodes port r (fun p => DecodedAs port r p.toRecord) (Port.ofRecord r) := by
  refine .read (h.decoded_u16 rfl) fun _ _ => ?_
  refine (Decodes.code h PortType.enumerates rfl).group fun _ _ => ?_
  refine .ok (h.eq_complete_and_forall_hasByte (by decide) rfl ?_)
  simp [toRecord, *]

/-- The caching of constants. -/
theorem decodes_caching {o : Option Record} (h : ∀ r, o = some r → Follows networkConfig r) :
    Decodes networkConfig (o.getD [])
      (fun c => DecodedAs networkConfig (o.getD []) [⟨1, .u8 c.code⟩]) (cachingOfRecord o) := by
  cases o with
  | none => exact .ok (decodedAs_nil rfl)
  | some r =>
    refine (Decodes.code (h r rfl) ConstantsCaching.enumerates rfl).imp fun _ _ => ?_
    refine (h r rfl).eq_complete_and_forall_hasByte (by decide) rfl ?_
    simp [*]

/-- A slot. -/
theorem ContextField.decodes (h : Follows contextField r) :
    Decodes contextField r (fun f => DecodedAs contextField r f.toRecord)
      (ContextField.ofRecord r) := by
  refine .read (h.decoded_text rfl) fun _ _ => ?_
  refine .read (h.decoded_u32 rfl) fun _ _ => ?_
  refine .read (h.decoded_u32 rfl) fun _ _ => ?_
  refine .read (h.decoded_bool rfl) fun _ _ => ?_
  refine .ok (h.eq_complete_and_forall_hasByte (by decide) rfl ?_)
  simp [toRecord, *]

/-- The context block that a program expects. -/
theorem ContextContract.decodes (h : Follows contextContract r) :
    Decodes contextContract r (fun c => DecodedAs contextContract r c.toRecord)
      (ContextContract.ofRecord r) := by
  refine (Decodes.records 2 h rfl fun _ => ContextField.decodes).group fun _ _ => ?_
  refine .read (h.decoded_u32 rfl) fun _ _ => ?_
  refine .ok (h.eq_complete_and_forall_hasByte (by decide) rfl ?_)
  simp [toRecord, *]

/-- The context block of a document that may have none. -/
theorem decodes_context {o : Option Record} (h : ∀ r, o = some r → Follows contextContract r) :
    Decodes contextContract (o.getD [])
      (fun c => DecodedAs contextContract (o.getD []) c.toRecord) (contextOfRecord o) := by
  cases o with
  | none => exact .ok (decodedAs_nil rfl)
  | some r => exact ContextContract.decodes (h r rfl)

/-- A host memory. -/
theorem decodes_hostMemory {s : Schema} {size ecc : UInt16} (h : Follows s r)
    (sized : s.kindOf? size = some .u64) (flagged : s.kindOf? ecc = some .bool) :
    Decodes s r (fun m => Decoded s r ⟨size, .u64 m.size⟩ ∧ Decoded s r ⟨ecc, .bool m.ecc⟩)
      (hostMemoryOfRecord r size ecc) := by
  refine .read (h.decoded_u64 sized) fun _ sizeTold => ?_
  refine .read (h.decoded_bool flagged) fun _ eccTold => ?_
  exact .ok ⟨sizeTold, eccTold⟩

/-- **A root record that follows the schema is decoded as its completion.** -/
theorem Metadata.decodes (h : Follows root r) :
    Decodes root r (fun md => DecodedAs root r md.toRecord) (Metadata.ofRecord r) := by
  -- first the lists and the nested records
  refine (Decodes.records 15 h rfl fun _ => Region.decodes).group fun _ _ => ?_
  refine (Decodes.records 25 h rfl fun _ => decodes_coreTable).group fun _ _ => ?_
  refine (Decodes.record? 26 h rfl fun _ => decodes_hostTable).group fun _ _ => ?_
  refine (Decodes.records 27 h rfl fun _ => Transfer.decodes).group fun _ _ => ?_
  refine (Decodes.records 28 h rfl fun _ => Thread.decodes).group fun _ _ => ?_
  refine (Decodes.records 29 h rfl fun _ => ConstantMapping.decodes).group fun _ _ => ?_
  refine (Decodes.records 30 h rfl fun _ => Port.decodes).group fun _ _ => ?_
  refine (Decodes.record? 33 h rfl fun _ => decodes_caching).group fun _ _ => ?_
  refine (Decodes.record? 38 h rfl fun _ => decodes_context).group fun _ _ => ?_
  -- then the fields by tag
  iterate 5 refine .read (h.decoded_u16 rfl) fun _ _ => ?_
  refine .read (h.decoded_u64 rfl) fun _ _ => ?_
  refine .read (h.decoded_text rfl) fun _ _ => ?_
  refine .read (h.decoded_u16 rfl) fun _ _ => ?_
  iterate 2 refine .read (h.decoded_u32 rfl) fun _ _ => ?_
  refine .read (h.decoded_u16 rfl) fun _ _ => ?_
  refine .read (h.decoded_words rfl) fun _ _ => ?_
  refine .read (h.decoded_u32 rfl) fun _ _ => ?_
  refine .read (h.decoded_bytes rfl) fun _ _ => ?_
  iterate 4 refine .bind (decodes_hostMemory h rfl rfl) fun _ _ => ?_
  refine .read (h.decoded_bool rfl) fun _ _ => ?_
  refine .read (h.decoded_u64 rfl) fun _ _ => ?_
  refine (Decodes.code h HeapBehavior.enumerates rfl).group fun _ _ => ?_
  iterate 2 refine .read (h.decoded_bool rfl) fun _ _ => ?_
  refine .read (h.decoded_texts rfl) fun _ _ => ?_
  refine .read (h.decoded_u64 rfl) fun _ _ => ?_
  refine .ok (h.eq_complete_and_forall_hasByte (by decide) rfl ?_)
  simp [toRecord, *]

/-- What decoding a root record comes to. -/
structure Decoding (r : Record) : Prop where
  /-- It succeeds exactly if no byte of the record, at any depth, is beyond the highest code of its
  field. -/
  succeeds : (∃ md, Metadata.ofRecord r = .ok md) ↔
    ∀ name code, root.HasByte r name code → code ≤ highestCode name
  /-- It fails for no other reason. -/
  fails : ∀ fault, Metadata.ofRecord r = .error fault → ∃ name code, root.HasByte r name code ∧
    highestCode name < code ∧ fault = .undefinedValue name code ∧
    fault.message = FormatError.malformed "metadata" s!"{name}: unknown value {code}"
  /-- The document is the completion of the record. -/
  completes : ∀ md, Metadata.ofRecord r = .ok md → md.toRecord = root.complete codeRead r

/-- **Decoding a record that was verified**: it fails for a byte that has no meaning and for nothing
else, and gives what the record holds, completed by zero, empty and default values. -/
theorem decoding (verified : verifyRecord root rootName r = .ok ()) : Decoding r := by
  have decodes := Metadata.decodes ((verifyRecord_eq_ok_iff ..).mp verified)
  refine ⟨⟨?_, fun low => ?_⟩, fun fault failed => ?_, fun md decoded => (decodes.value md decoded).1⟩
  · rintro ⟨md, decoded⟩
    exact (decodes.value md decoded).2
  · cases decoded : Metadata.ofRecord r with
    | ok md => exact ⟨md, rfl⟩
    | error fault =>
      obtain ⟨name, code, holds, beyond, -⟩ := decodes.fault fault decoded
      exact absurd (low name code holds) (UInt8.not_le.mpr beyond)
  · obtain ⟨name, code, holds, beyond, rfl⟩ := decodes.fault fault failed
    exact ⟨name, code, holds, beyond, rfl, rfl⟩

end

/-- A record with a transfer and little else. Its semaphore operation has a point that is neither of
the codes that are written. -/
def sparseRecord : Record :=
  [⟨1, .u16 5⟩, ⟨2, .u16 1⟩, ⟨4, .u16 2⟩, ⟨5, .u16 0⟩, ⟨6, .u64 0⟩, ⟨8, .u16 1⟩, ⟨9, .u32 1⟩,
    ⟨10, .u32 2048⟩, ⟨99, .text "unknown"⟩,
    ⟨27, .records [[⟨1, .u16 0⟩, ⟨3, .u8 2⟩, ⟨5, .u32 64⟩, ⟨6, .u8 1⟩,
      ⟨9, .records [[⟨1, .u8 6⟩, ⟨2, .u16 3⟩, ⟨4, .u8 7⟩]]⟩]]⟩]

/-- It is decoded, with a point after the transfer. -/
theorem decoding_sparseRecord : verifyRecord root rootName sparseRecord = .ok () ∧
    Decoding sparseRecord ∧
    ∃ md, Metadata.ofRecord sparseRecord = .ok md ∧
      md.transfers.map (·.semaphores) = [[⟨.waitDec, 3, 0, .post, false, false⟩]] ∧
      md.context = ⟨0, []⟩ := by
  have verified : verifyRecord root rootName sparseRecord = .ok () := by decide +kernel
  exact ⟨verified, decoding verified, _, rfl, rfl, rfl⟩

end ComputePlanner
