set_option autoImplicit false

namespace Winternitz

structure Decimal where
  digits : Nat
  exponent : Int
deriving DecidableEq, Repr

namespace Decimal

-- The bit of a mantissa that binary64 does not store, `2 ^ 52`.
def hiddenBit : Nat := 4503599627370496

/-- The numbers that round to one binary value, and that value itself, all over one `unit`. -/
structure Interval where
  low : Nat
  value : Nat
  high : Nat
  unit : Nat
  closed : Bool

-- Surround `mantissa * 2 ^ exponent` by its rounding interval. The ends belong to it if the
-- mantissa is even, and the gap below a power of two is half as wide as the one above.
def Interval.ofBinary (mantissa : Nat) (exponent : Int) : Interval :=
  let powerOfTwo := mantissa = hiddenBit ∧ exponent > -1074
  let up := 1 <<< (exponent - 2).toNat
  { low := (4 * mantissa - if powerOfTwo then 1 else 2) * up
    value := 4 * mantissa * up
    high := (4 * mantissa + 2) * up
    unit := 1 <<< (2 - exponent).toNat
    closed := mantissa % 2 = 0 }

-- Measure an interval in units of `10 ^ power`.
def Interval.scale (interval : Interval) (power : Int) : Interval :=
  let up := Nat.pow 10 (-power).toNat
  { interval with
    low := interval.low * up
    value := interval.value * up
    high := interval.high * up
    unit := interval.unit * Nat.pow 10 power.toNat }

def Interval.contains (interval : Interval) (n : Nat) : Bool :=
  let point := n * interval.unit
  if interval.closed then interval.low ≤ point && point ≤ interval.high
  else interval.low < point && point < interval.high

-- Take the whole number in the interval that is nearest to the value, the even one of two.
def Interval.nearest? (interval : Interval) : Option Nat :=
  let below := interval.value / interval.unit
  let above := below + 1
  match interval.contains below, interval.contains above with
  | false, false => none
  | true, false => some below
  | false, true => some above
  | true, true =>
    match compare (2 * interval.value) ((below + above) * interval.unit) with
    | .lt => some below
    | .gt => some above
    | .eq => some (if below % 2 = 0 then below else above)

private def digitCount (n : Nat) : Nat :=
  (Nat.toDigits 10 n).length

-- Find the power of ten of the leading digit of a value above zero.
def Interval.magnitude (interval : Interval) : Int :=
  let guess : Int := digitCount interval.value - digitCount interval.unit
  let scaled := interval.scale guess
  if scaled.unit ≤ scaled.value then guess else guess - 1

-- Write `mantissa * 2 ^ exponent` with the fewest digits that read back as it. Seventeen always
-- do, so the search ends.
def shortest (mantissa : Nat) (exponent : Int) : Decimal :=
  if mantissa = 0 then ⟨0, 0⟩
  else
    let interval := Interval.ofBinary mantissa exponent
    let last := interval.magnitude
    let found := (List.range 17).findSome? fun (more : Nat) =>
      (interval.scale (last - more)).nearest?.map fun digits => (⟨digits, last - more⟩ : Decimal)
    found.getD ⟨mantissa, 0⟩

-- Split the bits of a finite binary64 number into its sign, mantissa and power of two.
def binary64Parts (bits : Nat) : Bool × Nat × Int :=
  let fraction := bits % hiddenBit
  let biased : Nat := bits / hiddenBit % 2048
  let negative := bits / hiddenBit / 2048 = 1
  -- Numbers near zero have no hidden bit and share the least exponent.
  if biased = 0 then (negative, fraction, -1074)
  else (negative, hiddenBit + fraction, biased - 1075)

end Decimal

end Winternitz
