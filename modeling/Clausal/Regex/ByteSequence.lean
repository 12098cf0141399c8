import Clausal.Text.CharSet

/-!
# Sequences of bytes

A text is matched byte by byte, in the encoding UTF-8.  The encodings of the code points of an
interval are those of a few sequences of byte ranges, which `byteSequences` lists in order.
-/

namespace Clausal

namespace Regex

/-- The bytes between two bytes, both included. -/
structure ByteRange where
  first : Nat
  last : Nat
deriving DecidableEq

/-- Sequences of intervals of digits to the base sixty-four which together cover the numbers between
two numbers of `digits + 1` digits. -/
def digitRanges : Nat → Nat → Nat → List (List ByteRange)
  | 0, lo, hi => [[⟨lo, hi⟩]]
  | digits + 1, lo, hi =>
    let base := Nat.pow 64 (digits + 1)
    let first := lo / base
    let last := hi / base
    if first = last then
      (digitRanges digits (lo % base) (hi % base)).map (⟨first, first⟩ :: ·)
    else
      let head := if lo % base = 0 then [] else
        (digitRanges digits (lo % base) (base - 1)).map (⟨first, first⟩ :: ·)
      let tail := if hi % base = base - 1 then [] else
        (digitRanges digits 0 (hi % base)).map (⟨last, last⟩ :: ·)
      let firstWhole := if lo % base = 0 then first else first + 1
      let endWhole := if hi % base = base - 1 then last + 1 else last
      let middle := if firstWhole < endWhole then
        [⟨firstWhole, endWhole - 1⟩ :: List.replicate (digits + 1) ⟨0, 63⟩] else []
      head ++ middle ++ tail

/-- A form of encodings: how many bytes follow the first one, what the first byte is added to, and
the code points that are encoded so. -/
structure EncodingForm where
  followers : Nat
  /-- What tells the first byte from those of the other forms. -/
  mark : Nat
  codes : Span

/-- The forms of encodings; surrogates have none. -/
def encodingForms : List EncodingForm :=
  [⟨0, 0, Span.between 0 0x7F⟩, ⟨1, 0xC0, Span.between 0x80 0x7FF⟩,
   ⟨2, 0xE0, Span.between 0x800 0xD7FF⟩, ⟨2, 0xE0, Span.between 0xE000 0xFFFF⟩,
   ⟨3, 0xF0, Span.between 0x10000 0x10FFFF⟩]

/-- What tells the bytes after the first one. -/
def followerMark : Nat := 0x80

/-- Digits as bytes, the first one of a form and the others as its followers. -/
def EncodingForm.bytes (f : EncodingForm) : List ByteRange → List ByteRange
  | [] => []
  | first :: rest =>
    ⟨f.mark + first.first, f.mark + first.last⟩ ::
      rest.map fun r => ⟨followerMark + r.first, followerMark + r.last⟩

/-- The sequences of bytes that encode the code points of an interval. -/
def byteSequences (s : Span) : List (List ByteRange) :=
  encodingForms.flatMap fun f =>
    match s.inter? f.codes with
    | some part => (digitRanges f.followers part.lo part.hi).map f.bytes
    | none => []

def encoding (code : Nat) : List Nat :=
  ((byteSequences (Span.single code)).head?.getD []).map (·.first)

end Regex

end Clausal
