import ComputePlanner.Proofs.Bytes.Place
import ComputePlanner.Proofs.Descriptor.Loader

/-! # Which bytes are a program descriptor
A descriptor has one written form, but a reader takes others for it, too: the buffers may stand behind a
gap, and any word but 0 is the flag of a partial transfer. Everything else is settled by the header's
cross-checks. Where the header says that the buffers start can only be behind the header, although
nothing asks for that: the length in the header leaves no room for it otherwise.

Main statements:
* **`ProgramDescriptor.decode_eq_ok_iff`** — which bytes are read as a descriptor;
* **`ProgramDescriptor.decode_encode_of_many`** — what is answered to a count that was cut off;
* **`ProgramDescriptor.written_and_stored`** — what is written is read back, what is read can be written
  again, and which of the forms is the written one. -/

namespace ComputePlanner

/-- A fault that says of some data that it is damaged. -/
def FormatError.SaysMalformed (fault : FormatError) : Prop :=
  ∃ what reason, fault.message = malformed what reason

variable {c c' : Cursor}

open Artifact Reading

/-! ## Words that are there -/

section Words

variable {β : Type} {artifact : Artifact}

/-- Behind a 16-bit word that is there, the reading goes on with it. -/
theorem bind_u16 {v : UInt16} {next : UInt16 → Reading β} (took : c.Took (word16 v) c') :
    (artifact.read Cursor.u16 >>= next) c = next v c' :=
  Reading.bind_of_ok (read_u16_eq_ok_iff.mpr took)

/-- Behind a 32-bit word that is there, the reading goes on with it. -/
theorem bind_u32 {v : UInt32} {next : UInt32 → Reading β} (took : c.Took (word32 v) c') :
    (artifact.read Cursor.u32 >>= next) c = next v c' :=
  Reading.bind_of_ok (read_u32_eq_ok_iff.mpr took)

end Words

/-! ## Entries -/

namespace BufferEntry

variable {b : BufferEntry} {form : Bytes}

/-- Every entry starts with 36 bytes. -/
theorem length_encodeFront (b : BufferEntry) : b.encodeFront.length = 36 := by
  simp only [encodeFront, List.length_append, length_word16, length_word32]

/-- Every form of an entry has the same length. -/
theorem Form.length (entry : b.Form form) : form.length = encodedSize := by
  obtain ⟨flag, -, rfl⟩ := entry
  rw [List.length_append, length_encodeFront, length_word32, encodedSize]

/-- The word of a form that says whether transfers may be partial. -/
def storedFlag (form : Bytes) : Nat := numberAt form 36 4

/-- A form is the written one if its flag is one of the two that are written. -/
theorem Form.eq_encode_iff (entry : b.Form form) :
    form = b.encode ↔ storedFlag form = 0 ∨ storedFlag form = 1 := by
  obtain ⟨flag, means, rfl⟩ := entry
  have stored (flag : UInt32) : storedFlag (b.encodeFront ++ word32 flag) = flag.toNat := by
    rw [← List.append_nil (b.encodeFront ++ word32 flag)]
    exact numberAt_word32 b.length_encodeFront flag []
  have written : b.encode = b.encodeFront ++ word32 (if b.allowPartial then 1 else 0) := rfl
  rw [written, stored]
  constructor
  · intro same
    have flags := congrArg storedFlag same
    rw [stored, stored] at flags
    rw [flags]
    cases b.allowPartial
    · exact .inl rfl
    · exact .inr rfl
  · rintro (zero | one)
    · obtain rfl : flag = 0 := UInt32.toNat_inj.mp zero
      rw [means]
      rfl
    · obtain rfl : flag = 1 := UInt32.toNat_inj.mp one
      rw [means]
      rfl

/-- A table of forms has the same length for each entry. -/
theorem length_flatten_of_forall₂ {bs : List BufferEntry} {forms : List Bytes}
    (each : List.Forall₂ Form bs forms) :
    forms.flatten.length = bs.length * encodedSize := by
  rw [length_flatten_of_width (length_of_forall₂ Form.length each), each.length_eq]

/-- The forms of entries are the written ones if all their flags are among the two that are written. -/
theorem flatten_encode_eq_iff {bs : List BufferEntry} {forms : List Bytes}
    (each : List.Forall₂ Form bs forms) :
    (bs.map encode).flatten = forms.flatten ↔
      ∀ form ∈ forms, storedFlag form = 0 ∨ storedFlag form = 1 := by
  induction each with
  | nil => exact iff_of_true rfl nofun
  | @cons b form bs forms entry _ ih =>
    have width : b.encode.length = form.length := by rw [length_encode, entry.length]
    rw [List.map_cons, List.flatten_cons, List.flatten_cons, List.forall_mem_cons,
      ← entry.eq_encode_iff, ← ih]
    constructor
    · intro same
      obtain ⟨here, others⟩ := List.append_inj same width
      exact ⟨here.symm, others⟩
    · rintro ⟨here, others⟩
      rw [others, here]

end BufferEntry

/-! ## What is read -/

namespace ProgramDescriptor

variable {d : ProgramDescriptor} {buf : Bytes}

/-- Every header has the same length. -/
theorem length_header (d : ProgramDescriptor) (size tableOffset : UInt32) :
    (d.header size tableOffset).length = headerSize := by
  simp only [header, List.length_append, length_word16, length_word32, headerSize]

/-- **Which bytes are read as a descriptor**: a header that says how long they are, a gap up to where it
says that the buffers start, and a form of each buffer, which end the bytes. -/
theorem decode_eq_ok_iff :
    decode buf = .ok d ↔ d.buffers.length < 2 ^ 16 ∧ buf.length < 2 ^ 32 ∧
      ∃ (tableOffset : UInt32) (gap : Bytes) (forms : List Bytes),
        headerSize + gap.length = tableOffset.toNat ∧
        List.Forall₂ BufferEntry.Form d.buffers forms ∧
        buf = d.header (UInt32.ofNat buf.length) tableOffset ++ gap ++ forms.flatten := by
  rw [decode, run_eq_ok_iff]
  simp only [reading_eq_ok_iff]
  constructor
  · rintro ⟨c', size, tableOffset, gap, forms, few, ⟨sized, sum⟩, skipped, each, took⟩
    have bytes : buf = d.header size tableOffset ++ gap ++ forms.flatten ++ c'.rest := took.bytes
    have lengths := congrArg List.length bytes
    simp only [List.length_append, length_header, BufferEntry.length_flatten_of_forall₂ each] at lengths
    -- the header takes its place even if the buffers are said to start inside it
    have rest : c'.rest.length = 0 := by omega
    have number : UInt32.ofNat buf.length = size := by rw [← sized, UInt32.ofNat_toNat]
    rw [List.eq_nil_of_length_eq_zero rest, List.append_nil] at bytes
    refine ⟨few, sized ▸ size.toNat_lt, tableOffset, gap, forms, by omega, each, ?_⟩
    rw [number]
    exact bytes
  · rintro ⟨few, small, tableOffset, gap, forms, start, each, bytes⟩
    have number : (UInt32.ofNat buf.length).toNat = buf.length := UInt32.toNat_ofNat_of_lt' small
    have lengths := congrArg List.length bytes
    simp only [List.length_append, length_header, BufferEntry.length_flatten_of_forall₂ each] at lengths
    obtain ⟨c', took⟩ := Cursor.took_start_iff.mpr ⟨[], (List.append_nil buf).symm⟩
    refine ⟨c', UInt32.ofNat buf.length, tableOffset, gap, forms, few, ⟨number, ?_⟩, by omega, each,
      bytes ▸ took⟩
    omega

/-- A header whose lengths do not go together is refused. -/
theorem reading_of_header {size tableOffset : UInt32} {length : Nat}
    (took : c.Took (d.header size tableOffset) c')
    (wrong : size.toNat ≠ length ∨ size.toNat
      ≠ tableOffset.toNat + (count16 d.buffers.length).toNat * BufferEntry.encodedSize) :
    reading length c
      = .error (.programSize size.toNat (count16 d.buffers.length).toNat length) := by
  simp only [header, List.append_assoc, Cursor.took_append] at took
  obtain ⟨c₁, h₁, c₂, h₂, c₃, h₃, c₄, h₄, c₅, h₅, c₆, h₆, c₇, h₇, c₈, h₈, c₉, h₉, c₁₀, h₁₀, c₁₁, h₁₁,
    c₁₂, h₁₂, c₁₃, h₁₃, c₁₄, h₁₄, h₁₅⟩ := took
  -- the words of the header in their order, up to the check of the lengths
  rw [reading, bind_u16 h₁, if_neg (not_not.mpr rfl)]
  dsimp only
  rw [bind_u16 h₂, bind_u32 h₃, bind_u32 h₄, bind_u16 h₅, bind_u16 h₆, bind_u16 h₇, bind_u16 h₈,
    bind_u16 h₉, bind_u16 h₁₀, bind_u16 h₁₁, bind_u16 h₁₂, bind_u32 h₁₃, bind_u32 h₁₄, bind_u32 h₁₅,
    if_pos wrong]
  rfl

/-- **A count that was cut off is noticed.** With more buffers than 16 bits count, the length in the
header is not that of the buffers it announces. -/
theorem decode_encode_of_many {d : ProgramDescriptor} (many : 2 ^ 16 ≤ d.buffers.length) :
    decode d.encode = .error (.programSize (clamp32 d.encodedSize).toNat
      (d.buffers.length % 2 ^ 16) d.encodedSize) := by
  have counted : (count16 d.buffers.length).toNat = d.buffers.length % 2 ^ 16 :=
    UInt16.toNat_ofNat
  have few : (count16 d.buffers.length).toNat < 2 ^ 16 := (count16 d.buffers.length).toNat_lt
  obtain ⟨c', took⟩ := Cursor.took_start_iff.mpr ⟨d.buffers.flatMap BufferEntry.encode, rfl⟩
  rw [decode, length_encode, run, encode, encodeHeader_eq, reading_of_header took, counted]
  · rfl
  · right
    rw [toNat_clamp32, encodedSize, headerSize, BufferEntry.encodedSize]
    rw [show (UInt32.ofNat 40).toNat = 40 from rfl]
    omega

/-! ## What is stored -/

/-- Where the header of a buffer says that the table starts. -/
def storedTableOffset (buf : Bytes) : Nat := numberAt buf 28 4

/-- The word that says of a buffer's entry whether transfers may be partial. -/
def storedPartial (buf : Bytes) (i : Nat) : Nat :=
  numberAt buf (storedTableOffset buf + i * BufferEntry.encodedSize + 36) 4

/-- A header stores where the table starts. -/
theorem storedTableOffset_header {size tableOffset : UInt32} (rest : Bytes) :
    storedTableOffset (d.header size tableOffset ++ rest) = tableOffset.toNat := by
  rw [storedTableOffset, header, List.append_assoc, List.append_assoc]
  refine numberAt_word32 ?_ tableOffset _
  simp only [List.length_append, length_word16, length_word32]

/-- The written form stores that the table starts right behind the header. -/
theorem storedTableOffset_encode (d : ProgramDescriptor) : storedTableOffset d.encode = headerSize :=
  storedTableOffset_header (d.buffers.flatMap BufferEntry.encode)

/-- Where the table starts with its entries, the flag of each is found. -/
theorem storedPartial_of_table {front : Bytes} {forms : List Bytes} {form : Bytes} {i : Nat}
    (start : front.length = storedTableOffset (front ++ forms.flatten))
    (widths : ∀ form ∈ forms, form.length = BufferEntry.encodedSize) (given : forms[i]? = some form) :
    storedPartial (front ++ forms.flatten) i = BufferEntry.storedFlag form := by
  have entry := partAt_flatten widths given []
  rw [List.append_nil] at entry
  rw [storedPartial, ← start, BufferEntry.storedFlag, ← entry, numberAt_partAt (by decide), numberAt,
    Nat.add_assoc, partAt_append_add rfl, numberAt]

/-- Every entry's flag is one of the two that are written if that is so for every place of the
table. -/
theorem forall_storedFlag_iff {front : Bytes} {forms : List Bytes}
    (start : front.length = storedTableOffset (front ++ forms.flatten))
    (widths : ∀ form ∈ forms, form.length = BufferEntry.encodedSize) :
    (∀ form ∈ forms, BufferEntry.storedFlag form = 0 ∨ BufferEntry.storedFlag form = 1) ↔
      ∀ i < forms.length, storedPartial (front ++ forms.flatten) i = 0
        ∨ storedPartial (front ++ forms.flatten) i = 1 := by
  rw [List.forall_mem_iff_getElem]
  refine forall₂_congr fun i inside => ?_
  rw [storedPartial_of_table start widths (List.getElem?_eq_getElem inside)]

/-- The written form is a header that says so of the length and the table, and then the entries. -/
theorem encode_eq (d : ProgramDescriptor) :
    d.encode = d.header (clamp32 d.encodedSize) (UInt32.ofNat headerSize)
      ++ (d.buffers.map BufferEntry.encode).flatten := by
  rw [encode, encodeHeader_eq, List.flatMap_def]

/-- What is read as a descriptor is its written form if the table starts right behind the header and
its entries are the written ones. -/
theorem encode_eq_form_iff {tableOffset : UInt32} {gap : Bytes} {forms : List Bytes}
    (small : buf.length < 2 ^ 32) (start : headerSize + gap.length = tableOffset.toNat)
    (each : List.Forall₂ BufferEntry.Form d.buffers forms)
    (bytes : buf = d.header (UInt32.ofNat buf.length) tableOffset ++ gap ++ forms.flatten) :
    d.encode = buf ↔ tableOffset.toNat = headerSize ∧
      (d.buffers.map BufferEntry.encode).flatten = forms.flatten := by
  constructor
  · intro same
    have right : tableOffset.toNat = headerSize := by
      have stored := storedTableOffset_encode d
      rwa [same, bytes, List.append_assoc, storedTableOffset_header] at stored
    obtain rfl : gap = [] := List.eq_nil_of_length_eq_zero (by omega)
    rw [encode_eq, bytes, List.append_nil] at same
    refine ⟨right, (List.append_inj same ?_).2⟩
    rw [length_header, length_header]
  · rintro ⟨right, entries⟩
    obtain rfl : gap = [] := List.eq_nil_of_length_eq_zero (by omega)
    -- what the header says of itself is what is written, too
    have table : UInt32.ofNat headerSize = tableOffset := by
      rw [← right, UInt32.ofNat_toNat]
    have size : clamp32 d.encodedSize = UInt32.ofNat buf.length := by
      have lengths := congrArg List.length bytes
      simp only [List.length_append, length_header, List.length_nil,
        BufferEntry.length_flatten_of_forall₂ each] at lengths
      rw [← UInt32.toNat_inj, toNat_clamp32, UInt32.toNat_ofNat_of_lt' small, encodedSize]
      omega
    rw [encode_eq, entries, size, table, ← List.append_nil (header _ _ _), ← bytes]

/-- What bytes that are read as a descriptor store, and when they are its written form. -/
structure StoredAs (buf : Bytes) (d : ProgramDescriptor) : Prop where
  /-- The table starts behind the header. -/
  table_behind : headerSize ≤ storedTableOffset buf
  /-- The entries of the table end the bytes. -/
  length_eq : buf.length = storedTableOffset buf + BufferEntry.encodedSize * d.buffers.length
  /-- The descriptor can be written again and is read back. -/
  reread : decode d.encode = .ok d
  /-- The bytes are what is written then if the table stands right behind the header and every flag
  is one of the two that are written. -/
  encode_eq_iff : d.encode = buf ↔ storedTableOffset buf = headerSize ∧
    ∀ i < d.buffers.length, storedPartial buf i = 0 ∨ storedPartial buf i = 1

/-- What is read is stored like this. -/
theorem storedAs_of_decode (read : decode buf = .ok d) : StoredAs buf d := by
  obtain ⟨few, small, tableOffset, gap, forms, start, each, bytes⟩ := decode_eq_ok_iff.mp read
  have offset : storedTableOffset buf = tableOffset.toNat := by
    rw [bytes, List.append_assoc]
    exact storedTableOffset_header _
  have length : buf.length = headerSize + gap.length + d.buffers.length * BufferEntry.encodedSize := by
    have lengths := congrArg List.length bytes
    rwa [List.length_append, List.length_append, length_header,
      BufferEntry.length_flatten_of_forall₂ each] at lengths
  have flags : (∀ form ∈ forms, BufferEntry.storedFlag form = 0 ∨ BufferEntry.storedFlag form = 1) ↔
      ∀ i < d.buffers.length, storedPartial buf i = 0 ∨ storedPartial buf i = 1 := by
    rw [each.length_eq, bytes]
    refine forall_storedFlag_iff ?_ (length_of_forall₂ BufferEntry.Form.length each)
    rw [← bytes, offset, List.length_append, length_header, start]
  constructor
  case table_behind => omega
  case length_eq => rw [length, offset, start, Nat.mul_comm]
  case reread => exact decode_encode few
  case encode_eq_iff =>
    rw [encode_eq_form_iff small start each bytes, BufferEntry.flatten_encode_eq_iff each, flags, offset]

/-- **What is written and what is read.** A descriptor is read back from its written form if 16 bits
hold the number of its buffers; if they do not, the written form is malformed for every reader, and
never another descriptor. And whatever is read as a descriptor, written or not, has its table behind
the header and nothing behind the table, and can be written again. -/
theorem written_and_stored :
    (∀ d : ProgramDescriptor, d.buffers.length ≤ 65535 → decode d.encode = .ok d) ∧
    (∀ d : ProgramDescriptor, 65535 < d.buffers.length →
      ∃ fault : FormatError, decode d.encode = .error fault ∧ fault.SaysMalformed) ∧
    (∀ (buf : Bytes) (d : ProgramDescriptor), decode buf = .ok d → StoredAs buf d) := by
  refine ⟨fun d few => decode_encode (Nat.lt_succ_of_le few), fun d many => ?_,
    fun buf d read => storedAs_of_decode read⟩
  exact ⟨_, decode_encode_of_many many, _, _, rfl⟩

/-- A buffer with one entry, which stands 4 bytes behind the header and has 7 for its flag. -/
def looseBuffer : Bytes :=
  word16 1 ++ word16 280 ++ word32 84 ++ word32 2 ++ word16 1 ++ word16 0 ++ word16 1 ++ word16 0
    ++ word16 0 ++ word16 1 ++ word16 0 ++ word16 3 ++ word32 44 ++ word32 0 ++ word32 0
    ++ [1, 2, 3, 4]
    ++ word32 2 ++ word32 0 ++ word32 64 ++ word16 0 ++ word16 0 ++ word32 0 ++ word32 0 ++ word16 0
    ++ word16 0 ++ word16 0 ++ word16 3 ++ word32 1 ++ word32 7

/-- Each of the cases occurs: it is read back, cut off, and read from a form that is not written. -/
theorem written_and_stored_apply :
    let d : ProgramDescriptor :=
      { exitSlot := 280, threads := 2, outputSemaphore := 1
        buffers := [{ location := .ddr, size := 64, cores := 3, role := .output, allowPartial := true }] }
    decode d.encode = .ok d ∧
    (∃ fault : FormatError, decode (encode { buffers := List.replicate 65536 {} }) = .error fault
      ∧ fault.SaysMalformed) ∧
    decode looseBuffer = .ok d ∧ StoredAs looseBuffer d ∧ d.encode ≠ looseBuffer := by
  intro d
  have read : decode looseBuffer = .ok d := by decide +kernel
  obtain ⟨written, cut, stored⟩ := written_and_stored
  refine ⟨written d (by decide), cut _ ?_, read, stored looseBuffer d read, ?_⟩
  · rw [List.length_replicate]
    decide
  · intro same
    have right := ((stored looseBuffer d read).encode_eq_iff.mp same).1
    exact absurd right (by decide)

end ProgramDescriptor

end ComputePlanner
