import Winternitz.Decimal.Shortest

set_option autoImplicit false

namespace Winternitz.Decimal

/-- The leading powers of ten of the numbers that are written without an exponent. -/
structure Layout where
  lowest : Int
  highest : Int

private def zeros (count : Int) : List Char :=
  List.replicate count.toNat '0'

private def positional (digits : List Char) (leading : Int) : List Char :=
  if leading < 0 then '0' :: '.' :: (zeros (-leading - 1) ++ digits)
  else
    let whole := (leading + 1).toNat
    let fraction := if digits.length ≤ whole then ['0'] else digits.drop whole
    digits.take whole ++ zeros (whole - digits.length) ++ '.' :: fraction

private def scientific (digits : List Char) (leading : Int) : List Char :=
  let fraction := if digits.length ≤ 1 then [] else '.' :: digits.drop 1
  digits.take 1 ++ fraction ++ ['e', if leading < 0 then '-' else '+'] ++
    Nat.toDigits 10 leading.natAbs

-- Write the digits of a number without the zeros that end them.
private def significant (digits : Nat) : List Char :=
  match ((Nat.toDigits 10 digits).reverse.dropWhile (· == '0')).reverse with
  | [] => ['0']
  | kept => kept

def Layout.render (layout : Layout) (negative : Bool) (decimal : Decimal) : String :=
  let written := Nat.toDigits 10 decimal.digits
  let leading := decimal.exponent + written.length - 1
  let digits := significant decimal.digits
  let text :=
    if layout.lowest ≤ leading ∧ leading ≤ layout.highest then positional digits leading
    else scientific digits leading
  String.ofList (if negative then '-' :: text else text)

-- Write a finite binary64 number, given by its bits, with the fewest digits that read back.
def Layout.renderBinary64 (layout : Layout) (bits : UInt64) : String :=
  let (negative, mantissa, exponent) := binary64Parts bits.toNat
  layout.render negative (shortest mantissa exponent)

end Winternitz.Decimal
