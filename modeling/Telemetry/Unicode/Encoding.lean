import Telemetry.Unicode.CodePoints

/-!
# Encoded ranges

The UTF-8 forms of the characters in a set, as sequences of byte ranges: a character is in the set
exactly if its bytes lie in the ranges of one of the sequences. Sequences are as few as can be
without one that mixes lengths, and stand in ascending order.
-/

namespace Telemetry.Unicode

/-- The bytes from `lo` to `hi`, both included. -/
structure ByteRange where
  /-- The least byte. -/
  lo : Nat
  /-- The greatest byte. -/
  hi : Nat
  deriving DecidableEq, Repr

namespace ByteRange

/-- The one byte `b`. -/
def singleton (b : Nat) : ByteRange := ⟨b, b⟩

/-- What a byte behind the first one of a character adds to its value. -/
def continuationMark : Nat := 0x80

/-- Every byte that may stand behind the first one of a character. -/
def continuation : ByteRange := ⟨0x80, 0xBF⟩

end ByteRange

open ByteRange in
/-- The sequences of a first byte and `k` others, six bits each, for the numbers from `lo` to `hi`;
`mark` is added to the first byte. -/
def encodeSpan (mark : Nat) : Nat → Nat → Nat → List (List ByteRange)
  | 0, lo, hi => [[⟨mark + lo, mark + hi⟩]]
  | k + 1, lo, hi =>
    let unit := 1 <<< (6 * (k + 1))
    let first := lo / unit
    let last := hi / unit
    if first = last then
      (encodeSpan continuationMark k (lo % unit) (hi % unit)).map (.singleton (mark + first) :: ·)
    else
      let front := if lo % unit = 0 then []
        else (encodeSpan continuationMark k (lo % unit) (unit - 1)).map
          (.singleton (mark + first) :: ·)
      let back := if hi % unit = unit - 1 then []
        else (encodeSpan continuationMark k 0 (hi % unit)).map (.singleton (mark + last) :: ·)
      let start := if front.isEmpty then first else first + 1
      let stop := if back.isEmpty then last + 1 else last
      let middle := if start < stop then
          [⟨mark + start, mark + (stop - 1)⟩ :: List.replicate (k + 1) continuation]
        else []
      front ++ middle ++ back

/-- The lengths of encoded characters: the number of bytes behind the first one, the mark of the
first one, and the characters encoded so. -/
def encodedLengths : List (Nat × Nat × CodeRange) :=
  [(0, 0, ⟨0, 0x7F⟩), (1, 0xC0, ⟨0x80, 0x7FF⟩), (2, 0xE0, ⟨0x800, 0xD7FF⟩),
    (2, 0xE0, ⟨0xE000, 0xFFFF⟩), (3, 0xF0, ⟨0x10000, 0x10FFFF⟩)]

/-- The sequences of the characters in a range. -/
def CodeRange.encoded (r : CodeRange) : List (List ByteRange) :=
  encodedLengths.flatMap (fun (k, mark, all) =>
    let lo := max r.lo all.lo
    let hi := min r.hi all.hi
    if lo ≤ hi then encodeSpan mark k lo hi else [])

/-- The sequences of the characters in a set. -/
def CodePoints.encoded (s : CodePoints) : List (List ByteRange) :=
  s.ranges.flatMap CodeRange.encoded

/-! ## Shared parts -/

/-- The greatest number of bytes of a character. -/
def maxEncodedLength : Nat := 4

/-- What is left of sequences behind their first range, where those with one first range are
neighbours and go together. -/
def tailsByHead (seqs : List (List ByteRange)) : List (List (List ByteRange)) :=
  (seqs.splitBy (fun s t => s.head? == t.head?)).map (fun g => g.map List.tail)

/-- The number of different beginnings of sequences of at most `n` ranges. -/
def beginnings : Nat → List (List ByteRange) → Nat
  | 0, _ => 0
  | n + 1, seqs =>
    (tailsByHead (seqs.filter (!·.isEmpty))).foldl (fun k rest => k + 1 + beginnings n rest) 0

/-- What may follow some beginning of sequences of at most `n` ranges, once for each beginning, as
long as something may. -/
def endings : Nat → List (List ByteRange) → List (List (List ByteRange))
  | 0, _ => []
  | n + 1, seqs =>
    match seqs.filter (!·.isEmpty) with
    | [] => []
    | seqs => seqs :: (tailsByHead seqs).flatMap (endings n)

end Telemetry.Unicode
