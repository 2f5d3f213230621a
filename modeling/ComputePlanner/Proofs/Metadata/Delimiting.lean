import ComputePlanner.Proofs.Metadata.Refusals

/-! # Where a document ends
The length of a record is settled by its front: it announces how many fields follow, and every field
and every list how long it is. So bytes behind a record are never taken for a part of it, and a record
that lost its end is never taken for a shorter one. The same holds of the metadata document, which is
a record behind a fixed start, with a terminator in front of it or without.

Main definition: **`SelfDelimiting`**. Main statement: **`record_and_metadata_selfDelimiting`**. -/

namespace ComputePlanner

/-- A format is **self-delimiting** if what its reader accepts can be neither cut short nor
continued. -/
structure SelfDelimiting {ε α : Type} (read : Bytes → Except ε α) : Prop where
  /-- No proper prefix of what is accepted is accepted. -/
  cut : ∀ buf a, read buf = .ok a → ∀ front, front <+: buf → front ≠ buf →
    ∃ fault, read front = .error fault
  /-- No proper extension of what is accepted is accepted. -/
  continued : ∀ buf a, read buf = .ok a → ∀ long, buf <+: long → long ≠ buf →
    ∃ fault, read long = .error fault

/-- It is enough that nothing may stand behind what is accepted: what is accepted may then not stand
in front of anything that is. -/
theorem SelfDelimiting.of_append {ε α : Type} {read : Bytes → Except ε α}
    (closed : ∀ buf a, read buf = .ok a → ∀ extra, extra ≠ [] →
      ∃ fault, read (buf ++ extra) = .error fault) : SelfDelimiting read := by
  have more {buf extra : Bytes} (other : buf ++ extra ≠ buf) : extra ≠ [] := by
    rintro rfl
    exact other (List.append_nil buf)
  constructor
  · rintro buf a accepted front ⟨extra, rfl⟩ shorter
    cases short : read front with
    | error fault => exact ⟨fault, rfl⟩
    | ok b =>
      obtain ⟨fault, refused⟩ := closed front b short extra (more (Ne.symm shorter))
      rw [accepted] at refused
      cases refused
  · rintro buf a accepted long ⟨extra, rfl⟩ longer
    exact closed buf a accepted extra (more longer)

/-! ## Records -/

/-- The reader of one level finds what is left behind the last field. -/
theorem parseLevel_append {nested : Bytes → Except RecordFault Record} {limit : Nat}
    (reads : ReadsWritten nested limit) {body extra : Bytes} (bound : body.length + extra.length ≤ limit)
    {r : Record} (fits : r.Fits) (written : FieldsWrittenAs r body) (more : extra ≠ []) :
    parseLevel nested (count32 r.length ++ body ++ extra)
      = .error (.recordTail extra.length r.length) := by
  have room := length_encodeFields r
  rw [← written.length] at room
  obtain ⟨n, number, count⟩ := exists_count fits.count (body ++ extra)
  -- the fields take what was written for them, whatever stands behind
  have fields : parseFields nested r.length ⟨4, body ++ extra⟩ = .ok (r, ⟨4 + body.length, extra⟩) :=
    (parseFields_eq_ok_iff reads (by rw [List.length_append]; exact bound)).mpr
      ⟨rfl, fits.data, body, written, rfl, rfl⟩
  have enough : ¬(body ++ extra).length / fieldHeaderSize < r.length := by
    rw [fieldHeaderSize, List.length_append]
    omega
  have left : ¬extra.length = 0 := fun none => more (List.eq_nil_of_length_eq_zero none)
  rw [parseLevel, List.append_assoc, count, ok_bind]
  dsimp only
  rw [number, Cursor.remaining, if_neg enough, fields, ok_bind]
  dsimp only
  rw [Cursor.remaining, if_neg left]
  rfl

/-- At every depth of nesting the reader is right about the buffers that are no longer. -/
theorem readsWritten_parseWithin (depth : Nat) : ReadsWritten (parseWithin depth) (depth + 1) := by
  intro data r bound small
  rw [parseWithin_eq_ok_iff (Nat.le_of_lt_succ bound), and_iff_right_iff_imp]
  intro written
  exact Record.fits_of_length_lt (written.length ▸ small)

/-- **What stands behind a record is the fault that is found**: as many bytes are left behind as many
fields as the record has. -/
theorem Record.parse_append {buf extra : Bytes} {r : Record} (read : Record.parse buf = .ok r)
    (more : extra ≠ []) :
    Record.parse (buf ++ extra) = .error (.recordTail extra.length r.length) := by
  obtain ⟨fits, written⟩ := Record.parse_eq_ok_iff.mp read
  obtain ⟨body, rfl, fields⟩ := Record.writtenAs_iff.mp written
  have length : (count32 r.length ++ body ++ extra).length = body.length + extra.length + 3 + 1 := by
    rw [List.length_append, List.length_append, length_count32]
    omega
  rw [Record.parse, length]
  exact parseLevel_append (readsWritten_parseWithin _) (by omega) fits fields more

/-! ## Documents -/

/-- What stands behind a payload is the fault that is found. -/
theorem verifyPayload_append {buf extra : Bytes} {r : Record} (read : verifyPayload buf = .ok r)
    (more : extra ≠ []) :
    verifyPayload (buf ++ extra) = .error (.record (.recordTail extra.length r.length)) := by
  obtain ⟨body, rfl, parsed⟩ := exists_body_of_verifyPayload read
  rw [List.append_assoc, verifyPayload, dropFront?_append]
  dsimp only
  rw [Record.parse_append parsed more]
  rfl

/-- The payload of data that goes on behind a payload goes on behind that payload: no terminator is
found where there was none, and one that was there is still dropped. -/
theorem dropTerminator_append_of_ok {buf extra : Bytes} {r : Record}
    (read : verifyPayload (dropTerminator buf) = .ok r) (more : extra ≠ []) :
    dropTerminator (buf ++ extra) = dropTerminator buf ++ extra := by
  rcases dropTerminator_cases buf with plain | terminated
  · rw [plain] at read ⊢
    obtain ⟨body, rfl, -⟩ := exists_body_of_verifyPayload read
    rw [dropTerminator, verifyPayload_append read more]
    -- the first byte decides, so this computes whatever is behind
    rfl
  · generalize dropTerminator buf = payload at terminated
    rw [terminated, List.append_assoc, dropTerminator_append]

/-- **What stands behind a document is the fault that is found.** -/
theorem readMetadata_append {buf extra : Bytes} {md : Metadata} (read : readMetadata buf = .ok md)
    (more : extra ≠ []) : ∃ r, verifyPayload (dropTerminator buf) = .ok r ∧
      readMetadata (buf ++ extra) = .error (.record (.recordTail extra.length r.length)) := by
  obtain ⟨r, payload, -⟩ := bind_eq_ok.mp read
  refine ⟨r, payload, ?_⟩
  rw [readMetadata, dropTerminator_append_of_ok payload more, verifyPayload_append payload more]
  rfl

/-- **Records and documents end where they end.** No proper prefix of a record is a record, and no
proper extension; and so it is with documents, those that stand behind a terminator and those that do
not. -/
theorem record_and_metadata_selfDelimiting :
    SelfDelimiting Record.parse ∧ SelfDelimiting readMetadata ∧
      SelfDelimiting fun payload => readMetadata (terminator ++ payload) := by
  refine ⟨.of_append ?_, .of_append ?_, .of_append ?_⟩
  · intro buf r read extra more
    exact ⟨_, Record.parse_append read more⟩
  · intro buf md read extra more
    obtain ⟨r, -, refused⟩ := readMetadata_append read more
    exact ⟨_, refused⟩
  · intro payload md read extra more
    obtain ⟨r, -, refused⟩ := readMetadata_append read more
    rw [List.append_assoc] at refused
    exact ⟨_, refused⟩

end ComputePlanner
