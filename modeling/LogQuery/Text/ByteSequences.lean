import LogQuery.Text.CodeRanges

/-!
# Byte sequences of code points

In UTF-8 a code point is a lead byte and up to three continuation bytes of six bits each.  A range
of code points falls into blocks whose bytes vary independently of one another; such a block is
written as one range for every byte.
-/

namespace LogQuery.Text

/-- One inclusive range for every byte of an encoded code point, the lead byte first. -/
abbrev ByteSequence := List (Nat × Nat)

namespace ByteSequence

/-- The continuation bytes. -/
def continuation : Nat × Nat := (0x80, 0xBF)

/-- The blocks from `low` to `high`, numbers that a leading byte above `offset` and so many
continuation bytes write, in ascending order. -/
def blocks : Nat → Nat → Nat → Nat → List ByteSequence
  | 0, offset, low, high => [[(offset + low, offset + high)]]
  | trailing + 1, offset, low, high =>
      let size := Nat.pow 64 (trailing + 1)
      let first := low / size
      let last := high / size
      let under (lead : Nat) (low high : Nat) : List ByteSequence :=
        (blocks trailing 0x80 low high).map ((offset + lead, offset + lead) :: ·)
      if first = last then under first (low % size) (high % size)
      else
        let cutBelow := decide (low % size ≠ 0)
        let cutAbove := decide (high % size ≠ size - 1)
        let firstWhole := if cutBelow then first + 1 else first
        let endWhole := if cutAbove then last else last + 1
        (if cutBelow then under first (low % size) (size - 1) else []) ++
          (if firstWhole < endWhole then
            [(offset + firstWhole, offset + endWhole - 1) ::
              List.replicate (trailing + 1) continuation]
          else []) ++
          (if cutAbove then under last 0 (high % size) else [])

/-- The code points of each encoded length, with the number of continuation bytes and what the lead
byte adds to the highest bits; surrogates have no encoding. -/
def lengths : List (Nat × Nat × Nat × Nat) :=
  [(0, 0x7F, 0, 0), (0x80, 0x7FF, 1, 0xC0), (0x800, 0xD7FF, 2, 0xE0), (0xE000, 0xFFFF, 2, 0xE0),
    (0x10000, 0x10FFFF, 3, 0xF0)]

/-- The sequences of one range of code points. -/
def ofRange (low high : Nat) : List ByteSequence :=
  lengths.flatMap fun (first, last, trailing, offset) =>
    let low := Nat.max first low
    let high := Nat.min last high
    if low ≤ high then blocks trailing offset low high else []

end ByteSequence

/-- The byte sequences of a table, in ascending order. -/
def CodeRanges.byteSequences (table : CodeRanges) : List ByteSequence :=
  table.flatMap fun range => ByteSequence.ofRange range.1 range.2

end LogQuery.Text
