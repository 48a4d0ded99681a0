/-!
# The shortest decimal of a binary number

A double is `m · 2 ^ q`. Every decimal nearer to it than to its neighbours reads back as it, and of
those `shortest` finds one with the fewest digits, and of these the nearest. The search is exact: it
goes through the grids of one, two and more digits and tests on each the two points next to the
number.
-/

namespace Telemetry.Decimal

/-- A finite positive double: `mantissa · 2 ^ exponent`. -/
structure Binary where
  /-- The integral significand. -/
  mantissa : Nat
  /-- The power of two. -/
  exponent : Int
  /-- Whether the next smaller double is only half as far away as the next greater one. -/
  narrowBelow : Bool
  deriving DecidableEq, Repr

/-- The magnitude of the double with the given bits, the sign left out; none for infinities and what
is no number. -/
def Binary.ofBits? (bits : UInt64) : Option Binary :=
  let biased := ((bits >>> 52) &&& 0x7FF).toNat
  let fraction := (bits &&& 0xFFFFFFFFFFFFF).toNat
  if biased = 0x7FF then none
  else if biased = 0 then some ⟨fraction, -1074, false⟩
  else some ⟨fraction + 0x10000000000000, (biased : Int) - 1075, fraction = 0 ∧ 1 < biased⟩

/-- A decimal: `digits · 10 ^ exponent`. -/
structure Scaled where
  /-- The significant digits as a number. -/
  digits : Nat
  /-- The power of ten. -/
  exponent : Int
  deriving DecidableEq, Repr

/-- A fraction of natural numbers. -/
structure Ratio where
  /-- The numerator. -/
  num : Nat
  /-- The denominator. -/
  den : Nat

namespace Ratio

/-- `base ^ e` times the fraction. -/
def scale (r : Ratio) (base : Nat) (e : Int) : Ratio :=
  match e with
  | .ofNat k => ⟨r.num * base.pow k, r.den⟩
  | .negSucc k => ⟨r.num, r.den * base.pow (k + 1)⟩

/-- Whether the first fraction is smaller. -/
def lt (r s : Ratio) : Bool := r.num * s.den < s.num * r.den

/-- Whether the first fraction is smaller or the same. -/
def le (r s : Ratio) : Bool := r.num * s.den ≤ s.num * r.den

/-- The distance of two fractions. -/
def distance (r s : Ratio) : Ratio :=
  let a := r.num * s.den
  let b := s.num * r.den
  ⟨max a b - min a b, r.den * s.den⟩

end Ratio

namespace Binary

/-- The value as a fraction. -/
def value (b : Binary) : Ratio := Ratio.scale ⟨b.mantissa, 1⟩ 2 b.exponent

/-- Half way to the next smaller double. -/
def lower (b : Binary) : Ratio :=
  Ratio.scale ⟨4 * b.mantissa - (if b.narrowBelow then 1 else 2), 4⟩ 2 b.exponent

/-- Half way to the next greater double. -/
def upper (b : Binary) : Ratio := Ratio.scale ⟨4 * b.mantissa + 2, 4⟩ 2 b.exponent

/-- Whether a decimal reads back as the double: it lies nearer to it than to its neighbours, or half
way if the significand is even. -/
def readsBack (b : Binary) (d : Scaled) : Bool :=
  let x := Ratio.scale ⟨d.digits, 1⟩ 10 d.exponent
  if b.mantissa % 2 = 0 then b.lower.le x && x.le b.upper else b.lower.lt x && x.lt b.upper

end Binary

/-- The power of ten of the first digit of a positive fraction, searched upwards from `e`. -/
def leadingExponent (r : Ratio) : Nat → Int → Int
  | 0, e => e
  | n + 1, e => if r.lt (Ratio.scale ⟨1, 1⟩ 10 (e + 1)) then e else leadingExponent r n (e + 1)

/-- The candidate of the grid with step `10 ^ step` that reads back, the nearer of two. -/
def onGrid? (b : Binary) (step : Int) : Option Scaled :=
  let v := b.value.scale 10 (-step)
  let below : Scaled := ⟨v.num / v.den, step⟩
  let above : Scaled := ⟨v.num / v.den + 1, step⟩
  match b.readsBack below, b.readsBack above with
  | true, true =>
    let far := Ratio.distance v ⟨above.digits, 1⟩
    let near := Ratio.distance v ⟨below.digits, 1⟩
    if near.lt far || (near.le far && below.digits % 2 = 0) then some below else some above
  | true, false => some below
  | false, true => some above
  | false, false => none

/-- The first grid with a candidate, from `step` downwards. -/
def firstGrid (b : Binary) : Nat → Int → Scaled
  | 0, step => ⟨0, step⟩
  | n + 1, step => (onGrid? b step).getD (firstGrid b n (step - 1))

/-- The same decimal without up to so many zeros at its end. -/
def Scaled.trim : Nat → Scaled → Scaled
  | 0, d => d
  | n + 1, d =>
    if d.digits ≠ 0 ∧ d.digits % 10 = 0 then trim n ⟨d.digits / 10, d.exponent + 1⟩ else d

/-- The shortest decimal that reads back as the double, its digits without zeros at the end. -/
def shortest (b : Binary) : Scaled :=
  (firstGrid b 18 (leadingExponent b.value 700 (-330))).trim 18

/-! ## Writing -/

/-- How a decimal is written. -/
structure Notation where
  /-- The least power of ten of the first digit that is written without an exponent. -/
  minPositional : Int
  /-- The greatest such power. -/
  maxPositional : Int
  /-- What stands before a positive exponent. -/
  plus : String

/-- The digits of a decimal with its point and, where the notation asks for it, an exponent. -/
def Notation.write (style : Notation) (d : Scaled) : String :=
  let digits := Nat.toDigits 10 d.digits
  let count := digits.length
  let leading : Int := d.exponent + count - 1
  if d.digits = 0 then "0.0"
  else if style.minPositional ≤ leading ∧ leading ≤ style.maxPositional then
    if 0 ≤ d.exponent then
      String.ofList (digits ++ List.replicate d.exponent.toNat '0') ++ ".0"
    else if 0 ≤ leading then
      let whole := leading.toNat + 1
      String.ofList (digits.take whole ++ '.' :: digits.drop whole)
    else String.ofList (['0', '.'] ++ List.replicate (-leading - 1).toNat '0' ++ digits)
  else
    let mantissa := match digits with
      | [] => []
      | [c] => [c]
      | c :: rest => c :: '.' :: rest
    String.ofList mantissa ++ "e" ++ (if 0 ≤ leading then style.plus else "") ++ toString leading

end Telemetry.Decimal
