/-! # Words that are nearly alike
A name that nobody knows is often a known one misspelt. Two words are the closer, the more
characters have a **partner** in the other word, one that is equal and not far off its place, and
the fewer partners are out of order.

Main definitions: **`closeness`** and **`similarWords`**. -/

namespace ComputePlanner

/-- A word whose characters are marked as they find partners. -/
abbrev MarkedWord := List (Char × Bool)

namespace MarkedWord

/-- A word without marks. -/
def ofWord (word : String) : MarkedWord := word.toList.map (·, false)

/-- The marked characters in order. -/
def marked (word : MarkedWord) : List Char := (word.filter (·.2)).map (·.1)

/-- Marks the first free character that equals `c` in a window: `before` characters stand in front
of it, and it is `width` characters wide. -/
def mark? (c : Char) : (before width : Nat) → MarkedWord → Option MarkedWord
  | before + 1, width, x :: xs => (mark? c before width xs).map (x :: ·)
  | 0, width + 1, x :: xs =>
    if x = (c, false) then some ((c, true) :: xs) else (mark? c 0 width xs).map (x :: ·)
  | 0, 0, _ => none
  | _, _, [] => none

end MarkedWord

/-- Finds partners for the characters of a word, the first of which stands at `place`: those that
have one, and the other word with the partners marked. A partner is at most `range` places off. -/
def findPartners (range : Nat) : (place : Nat) → List Char → MarkedWord → List Char × MarkedWord
  | _, [], other => ([], other)
  | place, c :: cs, other =>
    let before := place - range
    match other.mark? c before (place + range + 1 - before) with
    | none => findPartners range (place + 1) cs other
    | some other =>
      let (found, other) := findPartners range (place + 1) cs other
      (c :: found, other)

/-- How close two words are, from 0 for no partner to 1 for equal words: the mean of the shares of
both words that have a partner and of the share of partners in order, where two partners that have
changed places count as one out of order. -/
def closeness (a b : String) : Float :=
  let range := max a.length b.length / 2 - 1
  let (found, other) := findPartners range 0 a.toList (.ofWord b)
  let apart := (found.zip other.marked).countP fun pair => pair.1 ≠ pair.2
  let part (n d : Nat) : Float := n.toFloat / d.toFloat
  let count := found.length
  if count = 0 then 0
  else (part count a.length + part count b.length + part (count - apart / 2) count) / 3

/-- The words that are close to a word, the closest one last. -/
def similarWords (word : String) (words : List String) : List String :=
  let rated := words.map fun other => (closeness word other, other)
  ((rated.filter (·.1 > 0.7)).mergeSort (·.1 ≤ ·.1)).map (·.2)

end ComputePlanner
