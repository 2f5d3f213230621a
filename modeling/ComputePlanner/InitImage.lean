import ComputePlanner.Metadata.Basic

/-! # The init image of the scratch memory
Most of the image is zero: a doorbell window and one descriptor. The runtime clears the memory and
then copies only the parts that are not zero, so long zero runs are cut out. A run of at most
`keptZeroRun` bytes stays inside its neighbours, because a short copy costs less than one more
region.

Main definitions:
* **`Span`** — a range of offsets;
* **`zeroSpans`** — the long zero runs of an image;
* **`complement`** — what lies between spans;
* **`nonZeroRegions`** — the regions that have to be copied. -/

namespace ComputePlanner

/-- A range of offsets, its end left out. -/
structure Span where
  start : Nat
  stop : Nat
  deriving DecidableEq, Repr

namespace Span

/-- Offsets in a span. -/
def size (s : Span) : Nat := s.stop - s.start

/-- A span as a region of the document. -/
def toRegion (s : Span) : Region :=
  ⟨UInt64.ofNat s.start, UInt64.ofNat s.stop, UInt64.ofNat s.size⟩

end Span

/-- The longest zero run that does not split a region. -/
def keptZeroRun : Nat := 128

/-- The long zero runs of what is left of an image, which starts at `offset` and follows `run`
zeros. -/
def zeroSpansFrom (offset run : Nat) : Bytes → List Span
  | [] => if keptZeroRun < run then [⟨offset - run, offset⟩] else []
  | b :: bs =>
    if b = 0 then zeroSpansFrom (offset + 1) (run + 1) bs
    else if keptZeroRun < run then ⟨offset - run, offset⟩ :: zeroSpansFrom (offset + 1) 0 bs
    else zeroSpansFrom (offset + 1) 0 bs

/-- The zero runs of an image that are longer than `keptZeroRun`, from front to back. -/
def zeroSpans (image : Bytes) : List Span := zeroSpansFrom 0 0 image

/-- The span from `start` to `stop`, if it holds anything. -/
def spanBetween (start stop : Nat) : List Span := if start < stop then [⟨start, stop⟩] else []

/-- What lies between the spans from `start` on, up to `length`. -/
def complementFrom (start length : Nat) : List Span → List Span
  | [] => spanBetween start length
  | z :: zs => spanBetween start z.start ++ complementFrom z.stop length zs

/-- What spans leave over of the first `length` offsets. -/
def complement (zeros : List Span) (length : Nat) : List Span := complementFrom 0 length zeros

/-- The spans of an image that have to be copied. -/
def nonZeroSpans (image : Bytes) : List Span := complement (zeroSpans image) image.length

/-- The regions of an image that have to be copied. -/
def nonZeroRegions (image : Bytes) : List Region := (nonZeroSpans image).map (·.toRegion)

end ComputePlanner
