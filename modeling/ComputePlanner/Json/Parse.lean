import ComputePlanner.Json.Token
import ComputePlanner.Text.Utf8

/-! # Reading JSON
A value is read token by token. What is still open is a stack of **frames**, and what may come next
is one of a few cases, so nesting of any depth takes no more than a longer stack.

Main definitions: **`Json.State.step`**, one step of the reading, and **`Json.parse?`**, which reads
a text that holds one value and nothing else. -/

namespace ComputePlanner

namespace Json

/-- An array or object that is still open; what it holds so far stands newest first. -/
inductive Frame
  | array (items : List Json)
  | object (members : List Member)
  /-- An object whose next member's key was read. -/
  | member (members : List Member) (key : Option String)

/-- What may come next. -/
inductive Expected
  /-- A value. -/
  | value
  /-- The first item of an array, or its end. -/
  | item
  /-- A key. -/
  | key
  /-- The first key of an object, or its end. -/
  | keyOrEnd
  /-- The colon behind a key. -/
  | colon
  /-- A comma, or the end of what is open. -/
  | more
  deriving DecidableEq, Repr

/-- How far a value has been read. -/
inductive State
  /-- The value is not complete: what is open, innermost first, and what may come next. -/
  | reading (frames : List Frame) (expected : Expected)
  /-- The value is complete. -/
  | finished (value : Json)

namespace State

/-- Puts a complete value where it belongs. -/
def supply (value : Json) : List Frame → Option State
  | [] => some (.finished value)
  | .array items :: frames => some (.reading (.array (value :: items) :: frames) .more)
  | .member members key :: frames =>
    some (.reading (.object (⟨key, value⟩ :: members) :: frames) .more)
  | .object _ :: _ => none

/-- Begins a value with its first token. -/
def beginValue (frames : List Frame) : Token → Option State
  | .null => supply .null frames
  | .bool b => supply (.bool b) frames
  | .number n => supply (.number n) frames
  | .text s => supply (.text s) frames
  | .openArray => some (.reading (.array [] :: frames) .item)
  | .openObject => some (.reading (.object [] :: frames) .keyOrEnd)
  | _ => none

/-- Takes one more token. -/
def step : State → Token → Option State
  | .reading frames .value, t => beginValue frames t
  | .reading (.array items :: frames) .item, .closeArray => supply (.array items.reverse) frames
  | .reading frames .item, t => beginValue frames t
  | .reading (.object members :: frames) .keyOrEnd, .closeObject =>
    supply (.object members.reverse) frames
  | .reading (.object members :: frames) .keyOrEnd, .text s =>
    some (.reading (.member members s :: frames) .colon)
  | .reading (.object members :: frames) .key, .text s =>
    some (.reading (.member members s :: frames) .colon)
  | .reading frames .colon, .colon => some (.reading frames .value)
  | .reading (.array items :: frames) .more, .comma =>
    some (.reading (.array items :: frames) .value)
  | .reading (.array items :: frames) .more, .closeArray => supply (.array items.reverse) frames
  | .reading (.object members :: frames) .more, .comma =>
    some (.reading (.object members :: frames) .key)
  | .reading (.object members :: frames) .more, .closeObject =>
    supply (.object members.reverse) frames
  | _, _ => none

/-- Takes tokens one after the other. -/
def run (state : State) : List Token → Option State
  | [] => some state
  | t :: ts =>
    match state.step t with
    | some state => run state ts
    | none => none

end State

/-- The value that tokens write. -/
def ofTokens? (tokens : List Token) : Option Json :=
  match State.run (.reading [] .value) tokens with
  | some (.finished value) => some value
  | _ => none

/-- The value that a source writes. -/
def ofSource? (source : Source) : Option Json := (lex source).bind ofTokens?

/-- The value in a text. -/
def ofString? (s : String) : Option Json := ofSource? (s.toList.map some)

/-- The value in a file. -/
def parse? (bytes : Bytes) : Option Json := ofSource? (Utf8.scan bytes)

end Json

end ComputePlanner
