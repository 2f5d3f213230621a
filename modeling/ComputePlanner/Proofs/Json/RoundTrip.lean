import ComputePlanner.Json.Parse
import ComputePlanner.Proofs.Json.Tokens
import ComputePlanner.Proofs.Text.Utf8

/-! # Values survive being written
A value that is written is read back (**`parse?_encode_render`**), if its numbers follow the grammar and
its texts and keys are sequences of characters (**`Json.WellFormed`**). Reading has two stages, and each
is followed by induction on how the value is built, with anything behind it: the characters are cut into
the tokens of the value (**`Cuts`**), and the tokens put the value where it belongs (**`Supplies`**). -/

namespace ComputePlanner

namespace Json

/-- A value that can be written: its numbers follow the grammar, and its texts and keys, at any depth, are
sequences of characters. -/
inductive WellFormed : Json → Prop
  | null : WellFormed .null
  | bool (b : Bool) : WellFormed (.bool b)
  | number {n : Number} (valid : n.WellFormed) : WellFormed (.number n)
  | text (s : String) : WellFormed (.text (some s))
  | array {items : List Json} (each : ∀ item ∈ items, WellFormed item) : WellFormed (.array items)
  | object {members : List Member} (keys : ∀ m ∈ members, m.key.isSome = true)
      (each : ∀ m ∈ members, WellFormed m.value) : WellFormed (.object members)

/-! ## Cutting tokens -/

/-- The characters of tokens, to read. -/
def source (ts : List Token) : Source := (ts.flatMap Token.chars).map some

@[simp] theorem source_nil : source [] = [] := rfl

@[simp] theorem source_cons (t : Token) (ts : List Token) :
    source (t :: ts) = t.chars.map some ++ source ts := by
  simp [source]

@[simp] theorem source_append (ts ts' : List Token) : source (ts ++ ts') = source ts ++ source ts' := by
  simp [source]

/-- Tokens are cut off a source up to `rest`, whatever was read before, if there is fuel for every
character. -/
def Cuts (front : Source) (ts : List Token) (rest : Source) : Prop :=
  ∀ (read : List Token) (fuel : Nat), front.length ≤ fuel → ∃ fuel', rest.length ≤ fuel' ∧
    lexWithin read fuel front = lexWithin (ts.reverse ++ read) fuel' rest

variable {front middle rest : Source} {ts ts' : List Token}

/-- Without tokens nothing is cut off. -/
theorem Cuts.nil (front : Source) : Cuts front [] front := fun _ fuel enough => ⟨fuel, enough, rfl⟩

/-- Tokens are cut off one list after the other. -/
theorem Cuts.append (first : Cuts front ts middle) (second : Cuts middle ts' rest) :
    Cuts front (ts ++ ts') rest := by
  intro read fuel enough
  obtain ⟨fuel', enough', cut⟩ := first read fuel enough
  obtain ⟨fuel'', enough'', cut'⟩ := second (ts.reverse ++ read) fuel' enough'
  exact ⟨fuel'', enough'', by rw [cut, cut', List.reverse_append, List.append_assoc]⟩

/-- A token is cut off in front of anything that does not go on with it. -/
theorem Cuts.token {t : Token} (valid : t.WellFormed) (ends : t.Ends rest) :
    Cuts (t.chars.map some ++ rest) [t] rest := by
  intro read fuel enough
  obtain ⟨c, cs, chars, blank, cut⟩ := token?_chars valid ends
  rw [chars] at enough ⊢
  cases fuel with
  | zero => cases enough
  | succ fuel =>
    refine ⟨fuel, ?_, ?_⟩
    · simp at enough
      omega
    · simp [lexWithin, blank, cut]

/-- A token is cut off, and then the others. -/
theorem Cuts.cons {t : Token} (valid : t.WellFormed) (ends : t.Ends front)
    (behind : Cuts front ts rest) : Cuts (t.chars.map some ++ front) (t :: ts) rest :=
  (Cuts.token valid ends).append behind

/-- If tokens are cut off up to the end, they are the tokens of the source. -/
theorem Cuts.lex (cuts : Cuts front ts []) : lex front = some ts := by
  obtain ⟨fuel, -, cut⟩ := cuts [] front.length (Nat.le_refl _)
  rw [Json.lex, cut]
  simp [lexWithin]

/-- Tokens are cut off in front of anything that does not go on with a number. -/
def Separable (ts : List Token) : Prop :=
  ∀ rest, EndsNumber rest → Cuts (source ts ++ rest) ts rest

/-- Groups of tokens, with a comma in front of each but the first. -/
def separated (comma : Bool) : List (List Token) → List Token
  | [] => []
  | group :: groups => (if comma then [.comma] else []) ++ group ++ separated true groups

/-- The items of an array are separated by commas. -/
theorem itemTokens_eq (comma : Bool) (items : List Json) :
    itemTokens comma items = separated comma (items.map tokens) := by
  induction items generalizing comma with
  | nil => simp [itemTokens, separated]
  | cons item items ih => simp [itemTokens, separated, ih]

/-- So are the members of an object. -/
theorem memberTokens_eq (comma : Bool) (members : List Member) :
    memberTokens comma members
      = separated comma (members.map fun m => .text m.key :: .colon :: m.value.tokens) := by
  induction members generalizing comma with
  | nil => simp [memberTokens, separated]
  | cons m members ih =>
    obtain ⟨key, value⟩ := m
    simp [memberTokens, separated, ih]

/-- A token that is always written in the same way: neither a number nor a text. -/
def Token.isMark : Token → Bool
  | .number _ | .text _ => false
  | _ => true

/-- A mark is cut off in front of anything. -/
theorem Cuts.mark {t : Token} (mark : t.isMark = true) (behind : Cuts front ts rest) :
    Cuts (t.chars.map some ++ front) (t :: ts) rest := by
  refine Cuts.cons ?_ ?_ behind
  · match t with
    | .openArray | .closeArray | .openObject | .closeObject | .comma | .colon | .null | .bool _ =>
      trivial
  · rintro n rfl
    cases mark

/-- A mark goes on with no number. -/
theorem endsNumber_mark {t : Token} (mark : t.isMark = true) (rest : Source) :
    EndsNumber (t.chars.map some ++ rest) := by
  intro c rest' front
  match t with
  | .openArray | .closeArray | .openObject | .closeObject | .comma | .colon | .null | .bool true
  | .bool false =>
    obtain ⟨rfl, -⟩ : _ = c ∧ _ := by simpa [Token.chars] using front
    decide

/-- Behind a group comes a comma or what stands behind them all. -/
theorem endsNumber_separated (groups : List (List Token)) (ends : EndsNumber rest) :
    EndsNumber (source (separated true groups) ++ rest) := by
  cases groups with
  | nil => exact ends
  | cons group groups =>
    rw [separated, if_pos rfl, List.append_assoc, List.singleton_append, source_cons,
      List.append_assoc]
    exact endsNumber_mark rfl _

/-- Groups are cut off one after the other. -/
theorem separable_separated {groups : List (List Token)} (each : ∀ group ∈ groups, Separable group)
    (comma : Bool) : Separable (separated comma groups) := by
  induction groups generalizing comma with
  | nil => exact fun rest _ => .nil rest
  | cons group groups ih =>
    obtain ⟨here, each⟩ := List.forall_mem_cons.mp each
    intro rest ends
    have both := (here _ (endsNumber_separated groups ends)).append (ih each true rest ends)
    cases comma with
    | false => simpa [separated] using both
    | true => simpa [separated] using Cuts.mark (t := .comma) rfl both

/-- Between brackets, tokens are cut off in front of anything. -/
theorem Separable.between (inside : Separable ts) {opening closing : Token}
    (opens : opening.isMark = true) (closes : closing.isMark = true) :
    Separable (opening :: (ts ++ [closing])) := by
  intro rest _
  have last : Cuts (closing.chars.map some ++ rest) [closing] rest := .mark closes (.nil rest)
  simpa using Cuts.mark opens ((inside _ (endsNumber_mark closes rest)).append last)

/-- A token by itself is cut off. -/
theorem separable_singleton {t : Token} (valid : t.WellFormed) : Separable [t] := by
  intro rest ends
  simpa using Cuts.token valid fun _ _ => ends

/-- A member of an object is cut off if its value is. -/
theorem Separable.member (inside : Separable ts) (key : String) :
    Separable (.text (some key) :: .colon :: ts) := by
  intro rest ends
  have value := Cuts.mark (t := .colon) rfl (inside rest ends)
  simpa using Cuts.cons (t := .text (some key)) rfl nofun value

/-- **The tokens of a value that can be written are cut off.** -/
theorem WellFormed.separable {j : Json} (written : j.WellFormed) : Separable j.tokens := by
  induction written with
  | null | bool | text => exact separable_singleton (by simp [Token.WellFormed])
  | number valid => exact separable_singleton valid
  | @array items each ih =>
    have groups : Separable (itemTokens false items) := by
      rw [itemTokens_eq]
      exact separable_separated (List.forall_mem_map.mpr ih) false
    exact groups.between rfl rfl
  | @object members keys each ih =>
    have groups : Separable (memberTokens false members) := by
      rw [memberTokens_eq]
      refine separable_separated (List.forall_mem_map.mpr fun m mem => ?_) false
      obtain ⟨key, named⟩ := Option.isSome_iff_exists.mp (keys m mem)
      rw [named]
      exact (ih m mem).member key
    exact groups.between rfl rfl

/-- **The characters of a value that can be written are cut into its tokens.** -/
theorem WellFormed.lex_render {j : Json} (written : j.WellFormed) :
    lex (j.render.toList.map some) = some j.tokens := by
  have cuts := written.separable [] nofun
  rw [List.append_nil] at cuts
  rw [render, String.toList_ofList]
  exact cuts.lex

/-! ## Taking tokens -/

/-- Where a value may come, its tokens put it where it belongs, and then the reader goes on. -/
def Supplies (j : Json) : Prop :=
  ∀ (frames : List Frame) (expected : Expected) (ts : List Token),
    expected = .value ∨ expected = .item →
      State.run (.reading frames expected) (j.tokens ++ ts)
        = (State.supply j frames).bind fun state => state.run ts

/-- Taking a token and then the others. -/
theorem State.run_cons (state : State) (t : Token) (ts : List Token) :
    state.run (t :: ts) = (state.step t).bind fun state => state.run ts := by
  rw [run]
  cases state.step t <;> rfl

/-- Where a value may come, it begins with any token but the end of an array. -/
theorem State.step_value {frames : List Frame} {expected : Expected}
    (awaited : expected = .value ∨ expected = .item) (t : Token) (begins : t ≠ .closeArray) :
    State.step (.reading frames expected) t = State.beginValue frames t := by
  rcases awaited with rfl | rfl
  · rfl
  · rw [step]
    intro _ _ ends _
    exact begins ends

/-- The items of an array are taken behind those that were read, and then its end. -/
theorem run_itemTokens {items : List Json} (each : ∀ item ∈ items, Supplies item) (comma : Bool)
    (read : List Json) (frames : List Frame) (ts : List Token) :
    State.run (.reading (.array read :: frames) (if comma then .more else .item))
        (itemTokens comma items ++ .closeArray :: ts)
      = (State.supply (.array (read.reverse ++ items)) frames).bind fun state => state.run ts := by
  induction items generalizing comma read with
  | nil =>
    rw [itemTokens, List.nil_append, State.run_cons, List.append_nil]
    cases comma <;> rfl
  | cons item items ih =>
    obtain ⟨here, each⟩ := List.forall_mem_cons.mp each
    have rest := ih each true (item :: read)
    rw [List.reverse_cons, List.append_assoc, List.singleton_append] at rest
    have value {expected : Expected} (awaited : expected = .value ∨ expected = .item) :
        State.run (.reading (.array read :: frames) expected)
            (item.tokens ++ (itemTokens true items ++ .closeArray :: ts)) = _ :=
      (here _ _ _ awaited).trans rest
    cases comma with
    | false => simpa [itemTokens] using value (.inr rfl)
    | true =>
      -- the comma first
      simpa [itemTokens, State.run_cons, State.step] using value (.inl rfl)

/-- The members of an object are taken behind those that were read, and then its end. -/
theorem run_memberTokens {members : List Member} (each : ∀ m ∈ members, Supplies m.value)
    (comma : Bool) (read : List Member) (frames : List Frame) (ts : List Token) :
    State.run (.reading (.object read :: frames) (if comma then .more else .keyOrEnd))
        (memberTokens comma members ++ .closeObject :: ts)
      = (State.supply (.object (read.reverse ++ members)) frames).bind fun state => state.run ts := by
  induction members generalizing comma read with
  | nil =>
    rw [memberTokens, List.nil_append, State.run_cons, List.append_nil]
    cases comma <;> rfl
  | cons m members ih =>
    obtain ⟨key, j⟩ := m
    obtain ⟨here, each⟩ := List.forall_mem_cons.mp each
    have rest := ih each true (⟨key, j⟩ :: read)
    rw [List.reverse_cons, List.append_assoc, List.singleton_append] at rest
    have value :
        State.run (.reading (.member read key :: frames) .value)
            (j.tokens ++ (memberTokens true members ++ .closeObject :: ts)) = _ :=
      (here _ _ _ (.inl rfl)).trans rest
    -- the comma, if there is one, the key and the colon first
    cases comma <;> simpa [memberTokens, State.run_cons, State.step] using value

/-- **The tokens of a value that can be written put it where it belongs.** -/
theorem WellFormed.supplies {j : Json} (written : j.WellFormed) : Supplies j := by
  induction written with
  | null | bool | number | text =>
    intro frames expected ts awaited
    rw [tokens, List.singleton_append, State.run_cons, State.step_value awaited _ (by simp)]
    rfl
  | array each ih =>
    intro frames expected ts awaited
    rw [tokens, List.cons_append, List.append_assoc, State.run_cons,
      State.step_value awaited .openArray nofun]
    exact run_itemTokens ih false [] frames ts
  | object keys each ih =>
    intro frames expected ts awaited
    rw [tokens, List.cons_append, List.append_assoc, State.run_cons,
      State.step_value awaited .openObject nofun]
    exact run_memberTokens ih false [] frames ts

/-! ## Both stages -/

/-- **A value that can be written is read back from its written form.** -/
theorem WellFormed.parse?_encode_render {j : Json} (written : j.WellFormed) :
    parse? (Utf8.encode j.render) = some j := by
  have taken := written.supplies [] .value [] (.inl rfl)
  rw [List.append_nil] at taken
  rw [parse?, ofSource?, Utf8.scan_encode, written.lex_render, Option.bind_some, ofTokens?, taken]
  rfl

end Json

end ComputePlanner
