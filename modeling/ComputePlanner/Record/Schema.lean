import ComputePlanner.Artifact.Error

/-! # Schemas of records
A **`Schema`** lists the fields a record may hold: tag, name, kind, whether it must be there, and
the schema of the records nested in it. **`verifyRecord`** checks a record against one: a field of
the schema occurs at most once and has its kind, nested records follow their own schema, and every
mandatory field is there. Tags that the schema does not know are skipped, so a newer writer may add
fields. Faults name the field by its path from the root, the names joined by `->`. -/

namespace ComputePlanner

/-- A field that a schema knows. -/
structure FieldSpec where
  /-- The tag it is written under. -/
  tag : UInt16
  /-- The name it goes by in paths. -/
  name : String
  /-- The kind it must have. -/
  kind : Kind
  /-- Whether it must be there. -/
  mandatory : Bool := false
  /-- The fields of the records nested in it. -/
  nested : List FieldSpec := []

/-- The fields a record may hold. -/
abbrev Schema := List FieldSpec

namespace Schema

/-- The field of a tag. -/
def ofTag? (s : Schema) (tag : UInt16) : Option FieldSpec := s.find? (·.tag == tag)

/-- The field of a name. -/
def ofName? (s : Schema) (name : String) : Option FieldSpec := s.find? (·.name == name)

/-- The schema reached by descending through fields by name; a name that is not there leads to the
empty schema. -/
def descend (s : Schema) : List String → Schema
  | [] => s
  | name :: names => descend ((s.ofName? name).elim [] (·.nested)) names

/-- Whether names lead to a field, each but the last to a field with nested records. -/
def hasPath (s : Schema) : List String → Bool
  | [] => false
  | [name] => (s.ofName? name).isSome
  | name :: names =>
    match s.ofName? name with
    | some spec => hasPath spec.nested names
    | none => false

/-- The first mandatory field whose tag is not among `seen`. -/
def firstMissing? (s : Schema) (seen : List UInt16) : Option FieldSpec :=
  s.find? fun spec => spec.mandatory && !seen.contains spec.tag

/-- Every mandatory field's tag is among `seen`. -/
def checkPresent (s : Schema) (path : String) (seen : List UInt16) : Except SchemaFault Unit :=
  match s.firstMissing? seen with
  | some spec => .error (.missing path spec.name)
  | none => .ok ()

end Schema

/-- The path of a field below `path`. -/
def childPath (path name : String) : String := path ++ "->" ++ name

mutual

/-- Checks fields in turn and answers the tags of the schema met so far, given those met before. -/
def verifyFields (schema : Schema) (path : String) (seen : List UInt16) :
    List Field → Except SchemaFault (List UInt16)
  | [] => .ok seen
  | f :: fs => do
    let seen ← verifyField schema path seen f
    verifyFields schema path seen fs

/-- Checks one field and adds its tag, if the schema knows it. -/
def verifyField (schema : Schema) (path : String) (seen : List UInt16) :
    Field → Except SchemaFault (List UInt16)
  | ⟨tag, value⟩ =>
    match schema.ofTag? tag with
    | none => .ok seen
    | some spec =>
      if seen.contains tag then .error (.repeated path spec.name)
      else if value.kind ≠ spec.kind then
        .error (.wrongKind path spec.name spec.kind value.kind)
      else do
        verifyValue spec.nested (childPath path spec.name) value
        return tag :: seen

/-- Checks the records in a value. -/
def verifyValue (schema : Schema) (path : String) : Value → Except SchemaFault Unit
  | .record r => do schema.checkPresent path (← verifyFields schema path [] r)
  | .records rs => verifyRecords schema path rs
  | _ => .ok ()

/-- Checks records in turn. -/
def verifyRecords (schema : Schema) (path : String) :
    List (List Field) → Except SchemaFault Unit
  | [] => .ok ()
  | r :: rs => do
    schema.checkPresent path (← verifyFields schema path [] r)
    verifyRecords schema path rs

end

/-- Checks a record against a schema; faults are named below `path`. -/
def verifyRecord (schema : Schema) (path : String) (r : Record) : Except SchemaFault Unit := do
  schema.checkPresent path (← verifyFields schema path [] r)

end ComputePlanner
