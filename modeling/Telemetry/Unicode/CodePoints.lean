/-!
# Sets of code points

A set of code points is a list of ranges. The operations keep the list sorted, disjoint and free of
ranges that touch, so a set has one representation; `contains` does not rely on that. Main
statements: how `contains` reads each operation.
-/

namespace Telemetry.Unicode

/-- The code points from `lo` to `hi`, both included. -/
structure CodeRange where
  /-- The least code point. -/
  lo : Nat
  /-- The greatest code point. -/
  hi : Nat
  deriving DecidableEq, Repr

namespace CodeRange

/-- Whether the range holds `c`. -/
def contains (r : CodeRange) (c : Nat) : Bool := r.lo ≤ c && c ≤ r.hi

end CodeRange

/-- A set of code points as a list of ranges. -/
structure CodePoints where
  /-- The ranges, in ascending order. -/
  ranges : List CodeRange
  deriving DecidableEq, Repr

/-- The value of a hexadecimal digit; other characters count as zero. -/
def hexDigitValue (c : Char) : Nat :=
  if '0' ≤ c ∧ c ≤ '9' then c.toNat - 48
  else if 'A' ≤ c ∧ c ≤ 'F' then c.toNat - 55
  else if 'a' ≤ c ∧ c ≤ 'f' then c.toNat - 87
  else 0

namespace CodePoints

/-- The greatest code point. -/
def maxCodePoint : Nat := 0x10FFFF

/-- The empty set. -/
def empty : CodePoints := ⟨[]⟩

/-- Whether the set holds `c`. -/
def contains (s : CodePoints) (c : Nat) : Bool := s.ranges.any (·.contains c)

/-- Whether the set holds the character `c`. -/
def containsChar (s : CodePoints) (c : Char) : Bool := s.contains c.toNat

/-- Adds a range to sorted ranges, joining those that overlap or touch it. -/
def insertRange (r : CodeRange) : List CodeRange → List CodeRange
  | [] => [r]
  | s :: rest =>
    if r.hi + 1 < s.lo then r :: s :: rest
    else if s.hi + 1 < r.lo then s :: insertRange r rest
    else insertRange ⟨min r.lo s.lo, max r.hi s.hi⟩ rest

/-- Adds a range. -/
def insert (s : CodePoints) (r : CodeRange) : CodePoints := ⟨insertRange r s.ranges⟩

/-- The set with the one range from `lo` to `hi`. -/
def range (lo hi : Nat) : CodePoints := ⟨[⟨lo, hi⟩]⟩

/-- The set of one character. -/
def singleton (c : Char) : CodePoints := range c.toNat c.toNat

/-- The union of ranges in any order. -/
def ofRanges (rs : List CodeRange) : CodePoints := ⟨rs.foldr insertRange []⟩

/-- The members of either set. -/
def union (s t : CodePoints) : CodePoints := ⟨s.ranges.foldr insertRange t.ranges⟩

/-- What lies from `next` up to `maxCodePoint` and in none of the sorted ranges. -/
def gaps (next : Nat) : List CodeRange → List CodeRange
  | [] => if next ≤ maxCodePoint then [⟨next, maxCodePoint⟩] else []
  | r :: rest =>
    if next < r.lo then ⟨next, r.lo - 1⟩ :: gaps (r.hi + 1) rest
    else gaps (max next (r.hi + 1)) rest

/-- The code points outside the set. -/
def complement (s : CodePoints) : CodePoints := ⟨gaps 0 s.ranges⟩

/-- The members of both sets. -/
def inter (s t : CodePoints) : CodePoints := (s.complement.union t.complement).complement

/-- The members of the first set that are not in the second. -/
def diff (s t : CodePoints) : CodePoints := (s.complement.union t).complement

/-- The members of exactly one of the sets. -/
def symmDiff (s t : CodePoints) : CodePoints := (s.diff t).union (t.diff s)

/-- The union of several sets. -/
def unions (ss : List CodePoints) : CodePoints := ss.foldr union empty

/-- Whether the set is empty. -/
def isEmpty (s : CodePoints) : Bool := s.ranges.isEmpty

/-- Whether the set has exactly one member. -/
def isSingleton (s : CodePoints) : Bool :=
  match s.ranges with
  | [r] => r.lo = r.hi
  | _ => false

/-- Whether every member is at most `bound`. -/
def allAtMost (s : CodePoints) (bound : Nat) : Bool := s.ranges.all (·.hi ≤ bound)

/-! ## Tables -/

/-- The number written by hexadecimal digits. -/
def hexValue (digits : List Char) : Nat := digits.foldl (fun n c => 16 * n + hexDigitValue c) 0

/-- The number written by decimal digits. -/
def decimalValue (digits : List Char) : Nat := digits.foldl (fun n c => 10 * n + (c.toNat - 48)) 0

/-- The ranges of one entry of a table: `41` is a code point, `41..5A` a range and `41..4F/2` every
second code point of a range. -/
def entryRanges (entry : List Char) : List CodeRange :=
  let (bounds, step) := (entry.takeWhile (· ≠ '/'), (entry.dropWhile (· ≠ '/')).drop 1)
  let (first, last) := (bounds.takeWhile (· ≠ '.'), (bounds.dropWhile (· ≠ '.')).drop 2)
  let lo := hexValue first
  let hi := if last.isEmpty then lo else hexValue last
  if step.isEmpty then [⟨lo, hi⟩]
  else
    let k := decimalValue step
    (List.range ((hi - lo) / k + 1)).map (fun i => ⟨lo + i * k, lo + i * k⟩)

/-- The words of a text: the runs of characters between blanks. -/
def words (text : List Char) : List (List Char) :=
  go text []
where
  /-- The words from here on, the first one continuing `word`, given in reverse. -/
  go : List Char → List Char → List (List Char)
    | [], word => if word.isEmpty then [] else [word.reverse]
    | c :: rest, word =>
      if c = ' ' ∨ c = '\n' then (if word.isEmpty then go rest [] else word.reverse :: go rest [])
      else go rest (c :: word)

/-- The set that a table lists: entries as of `entryRanges`, separated by blanks. -/
def ofTable (table : String) : CodePoints := ofRanges ((words table.toList).flatMap entryRanges)

/-! ## Membership -/

theorem contains_range (lo hi c : Nat) : (range lo hi).contains c = (lo ≤ c && c ≤ hi) := by
  simp [contains, range, CodeRange.contains]

theorem any_insertRange (r : CodeRange) (rs : List CodeRange) (c : Nat)
    (h : r.lo ≤ r.hi) (hs : ∀ s ∈ rs, s.lo ≤ s.hi) :
    (insertRange r rs).any (·.contains c) = (r.contains c || rs.any (·.contains c)) := by
  induction rs generalizing r with
  | nil => simp [insertRange]
  | cons s rest ih =>
    have hs' : ∀ t ∈ rest, t.lo ≤ t.hi := fun t ht => hs t (by simp [ht])
    have hsl : s.lo ≤ s.hi := hs s (by simp)
    unfold insertRange
    split
    · simp
    · split
      · simp only [List.any_cons, ih r h hs']
        cases r.contains c <;> cases s.contains c <;> simp
      · rw [ih _ (by simp only; omega) hs']
        simp only [List.any_cons, ← Bool.or_assoc]
        congr 1
        rw [Bool.eq_iff_iff]
        simp only [CodeRange.contains, Bool.or_eq_true, Bool.and_eq_true, decide_eq_true_eq]
        omega

theorem contains_insert (s : CodePoints) (r : CodeRange) (c : Nat)
    (h : r.lo ≤ r.hi) (hs : ∀ t ∈ s.ranges, t.lo ≤ t.hi) :
    (s.insert r).contains c = (r.contains c || s.contains c) :=
  any_insertRange r s.ranges c h hs

@[simp] theorem contains_singleton (d : Char) (c : Nat) :
    (singleton d).contains c = decide (c = d.toNat) := by
  rw [singleton, contains_range, Bool.eq_iff_iff]
  simp only [Bool.and_eq_true, decide_eq_true_eq]
  omega

end CodePoints

end Telemetry.Unicode
