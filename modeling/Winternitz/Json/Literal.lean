import Winternitz.Json.Reading

set_option autoImplicit false

namespace Winternitz.Json

/-- The digits of a number after its sign; a number without a point has no fraction. -/
structure Literal where
  whole : List Char
  fraction : List Char
  exponent : Option (Bool × List Char)

namespace Literal

def digits (text : List Char) : List Char := text.takeWhile Char.isDigit

def afterDigits (text : List Char) : List Char := text.dropWhile Char.isDigit

-- A zero is the only digit in front of it.
def readWhole : List Char → Result (List Char × List Char)
  | [] => .error (.here (.endOfText .value) [])
  | c :: rest =>
    if c = '0' then
      match rest with
      | d :: _ => if d.isDigit then .error (.peek .invalidNumber rest) else .ok (['0'], rest)
      | [] => .ok (['0'], rest)
    else if c.isDigit then .ok (c :: digits rest, afterDigits rest)
    else .error (.peek .invalidNumber (c :: rest))

def readFraction : List Char → Result (List Char × List Char)
  | '.' :: rest =>
    match digits rest, afterDigits rest with
    | [], [] => .error (.peek (.endOfText .value) [])
    | [], c :: after => .error (.peek .invalidNumber (c :: after))
    | found, after => .ok (found, after)
  | text => .ok ([], text)

-- The flag tells whether the exponent is negative.
def readSign : List Char → Bool × List Char
  | '+' :: rest => (false, rest)
  | '-' :: rest => (true, rest)
  | text => (false, text)

def readExponent : List Char → Result (Option (Bool × List Char) × List Char)
  | c :: rest =>
    if c = 'e' ∨ c = 'E' then
      let (negative, signed) := readSign rest
      match signed with
      | [] => .error (.here (.endOfText .value) [])
      | d :: after =>
        if d.isDigit then .ok (some (negative, d :: digits after), afterDigits after)
        else .error (.peek .invalidNumber signed)
    else .ok (none, c :: rest)
  | [] => .ok (none, [])

def read (text : List Char) : Result (Literal × List Char) := do
  let (whole, text) ← readWhole text
  let (fraction, text) ← readFraction text
  let (exponent, text) ← readExponent text
  return (⟨whole, fraction, exponent⟩, text)

def digitValue (c : Char) : Nat := c.toNat - '0'.toNat

-- Append digits to a number while it stays below `bound`; the digits from the first that does
-- not fit are left over.
def append (bound : Nat) (n : Nat) : List Char → Nat × List Char
  | [] => (n, [])
  | d :: rest =>
    if 10 * n + digitValue d < bound then append bound (10 * n + digitValue d) rest
    else (n, d :: rest)

-- Multiply by a power of ten, in steps within the range of binary64. There is no answer past
-- that range.
def scale (x : Float) (power : Int) : Option Float :=
  if power.natAbs ≤ 308 then
    if 0 ≤ power then
      let scaled := x * Float.ofScientific 1 false power.natAbs
      if scaled.isInf then none else some scaled
    else some (x / Float.ofScientific 1 false power.natAbs)
  else if x == 0 then some x
  else if 0 ≤ power then none
  else scale (x / Float.ofScientific 1 false 308) (power + 308)
termination_by power.natAbs

def toFloat (negative : Bool) (significand : Nat) (power : Int) : Option Float :=
  (scale (UInt64.ofNat significand).toFloat power).map fun x => if negative then -x else x

-- Exponents stay below `2 ^ 31`.
def exponentBound : Nat := 2147483648

-- Whole numbers go down to the negative of `2 ^ 63`.
def lowestNegative : Nat := 9223372036854775808

-- Value a literal. Out of range, the answer is the number of digits after the one that is found
-- to be too many.
def value (negative : Bool) (literal : Literal) : Except Nat Number :=
  -- Digits of the whole part that do not fit shift the point. Those of the fraction get a try of
  -- their own, and only the ones that fit count as places.
  let (whole, dropped) := append UInt64.size 0 literal.whole
  let (significand, ignored) := append UInt64.size whole literal.fraction
  let power : Int := dropped.length - (literal.fraction.length - ignored.length : Nat)
  let floating (power : Int) : Except Nat Number :=
    match toFloat negative significand power with
    | some x => .ok (.floating x.toBits)
    | none => .error 0
  match literal.exponent with
  | some (down, exponent) =>
    match append exponentBound 0 exponent with
    | (_, _ :: unread) =>
      if significand ≠ 0 ∧ !down then .error unread.length
      else .ok (.floating (if negative then -0.0 else 0.0 : Float).toBits)
    | (exponent, []) => floating (if down then power - exponent else power + exponent)
  | none =>
    if !literal.fraction.isEmpty || !dropped.isEmpty then floating power
    else if !negative then .ok (.natural (UInt64.ofNat significand))
    else if 0 < significand ∧ significand ≤ lowestNegative then .ok (.negative significand)
    else floating power

end Literal

def readNumber (negative : Bool) (text : List Char) : Result (Number × List Char) := do
  let (literal, rest) ← Literal.read text
  match literal.value negative with
  | .ok number => return (number, rest)
  | .error unread => throw ⟨.numberOutOfRange, unread + byteLength rest⟩

def startsNumber (c : Char) : Bool := c == '-' || c.isDigit

def readSigned (c : Char) (rest : List Char) : Result (Number × List Char) :=
  if c = '-' then readNumber true rest else readNumber false (c :: rest)

-- Pass over a number whose sign has been read. Its size does not matter, and a number that the
-- text cuts off is as invalid as any other.
def skipNumber (text : List Char) : Result (List Char) :=
  match Literal.read text with
  | .ok (_, rest) => .ok rest
  | .error failure => .error { failure with cause := .invalidNumber }

theorem Literal.length_afterDigits_le (text : List Char) :
    (afterDigits text).length ≤ text.length :=
  (List.dropWhile_suffix Char.isDigit).length_le

theorem Literal.length_readWhole_lt {text rest whole : List Char}
    (done : readWhole text = .ok (whole, rest)) : rest.length < text.length := by
  cases text with
  | nil => simp [readWhole] at done
  | cons c tail =>
    have := length_afterDigits_le tail
    unfold readWhole at done
    grind

theorem Literal.length_readFraction_le {text rest fraction : List Char}
    (read : readFraction text = .ok (fraction, rest)) : rest.length ≤ text.length := by
  unfold readFraction at read
  split at read
  next tail =>
    have := length_afterDigits_le tail
    split at read
    next => cases read
    next => cases read
    next => cases read; simp; omega
  next => cases read; exact Nat.le_refl _

theorem Literal.length_readSign_le (text : List Char) : (readSign text).2.length ≤ text.length := by
  unfold readSign
  split <;> simp

theorem Literal.length_readExponent_le {text rest : List Char} {exponent : Option (Bool × List Char)}
    (read : readExponent text = .ok (exponent, rest)) : rest.length ≤ text.length := by
  unfold readExponent at read
  split at read
  next c tail =>
    have bound := length_readSign_le tail
    generalize readSign tail = sign at *
    split at read
    next =>
      obtain ⟨negative, signed⟩ := sign
      cases signed with
      | nil => simp at read
      | cons d after =>
        have := length_afterDigits_le after
        simp only at read
        split at read <;> simp_all
        omega
    next => simp_all
  next => simp_all

theorem Literal.length_read_lt {text rest : List Char} {literal : Literal}
    (done : read text = .ok (literal, rest)) : rest.length < text.length := by
  obtain ⟨⟨whole, afterWhole⟩, first, done⟩ := bind_eq_ok.1 done
  obtain ⟨⟨fraction, afterFraction⟩, second, done⟩ := bind_eq_ok.1 done
  obtain ⟨⟨exponent, afterExponent⟩, third, done⟩ := bind_eq_ok.1 done
  cases done
  have := length_readWhole_lt first
  have := length_readFraction_le second
  have := length_readExponent_le third
  omega

theorem length_readNumber_lt {negative : Bool} {text rest : List Char} {number : Number}
    (done : readNumber negative text = .ok (number, rest)) : rest.length < text.length := by
  obtain ⟨⟨literal, after⟩, first, done⟩ := bind_eq_ok.1 done
  have := Literal.length_read_lt first
  dsimp only at done
  split at done
  next => cases done; exact this
  next => cases done

theorem length_readSigned_le {c : Char} {text rest : List Char} {number : Number}
    (done : readSigned c text = .ok (number, rest)) : rest.length ≤ text.length := by
  unfold readSigned at done
  split at done
  next => exact Nat.le_of_lt (length_readNumber_lt done)
  next => exact Nat.le_of_lt_succ (length_readNumber_lt done)

theorem length_skipNumber_lt {text rest : List Char} (done : skipNumber text = .ok rest) :
    rest.length < text.length := by
  unfold skipNumber at done
  split at done
  next literal after first =>
    cases done
    exact Literal.length_read_lt first
  next => cases done

end Winternitz.Json
