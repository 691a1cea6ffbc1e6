import Winternitz.Size
import Winternitz.Text.Quoted

set_option autoImplicit false

namespace Winternitz.Hex

def digit (value : Nat) : Char :=
  if value < 10 then Char.ofNat ('0'.toNat + value) else Char.ofNat ('a'.toNat + (value - 10))

def value? (c : Char) : Option Nat :=
  if '0' ≤ c ∧ c ≤ '9' then some (c.toNat - '0'.toNat)
  else if 'a' ≤ c ∧ c ≤ 'f' then some (c.toNat - 'a'.toNat + 10)
  else if 'A' ≤ c ∧ c ≤ 'F' then some (c.toNat - 'A'.toNat + 10)
  else none

def encodeByte (byte : UInt8) : List Char :=
  [digit (byte.toNat / 16), digit (byte.toNat % 16)]

def encode (bytes : Bytes) : String :=
  String.ofList (bytes.flatMap encodeByte)

inductive DecodeError
  | oddLength
  | invalidCharacter (byte : UInt8) (index : Nat)
deriving DecidableEq, Repr

def DecodeError.shownByte (byte : UInt8) : String :=
  Text.quoteChar (Char.ofNat byte.toNat)

def DecodeError.message : DecodeError → String
  | .oddLength => "Odd number of digits"
  | .invalidCharacter byte index =>
    "Invalid character " ++ shownByte byte ++ " at position " ++ toString index

def DecodeError.detail : DecodeError → String
  | .oddLength => "OddLength"
  | .invalidCharacter byte index =>
    "InvalidHexCharacter \x7b c: " ++ shownByte byte ++ ", index: " ++ toString index ++ " \x7d"

def byteValue? (byte : UInt8) : Option Nat :=
  value? (Char.ofNat byte.toNat)

def decodePairs (index : Nat) : Bytes → Except DecodeError Bytes
  | high :: low :: rest =>
    match byteValue? high, byteValue? low with
    | none, _ => .error (.invalidCharacter high index)
    | some _, none => .error (.invalidCharacter low (index + 1))
    | some upper, some lower => do
      let bytes ← decodePairs (index + 2) rest
      return UInt8.ofNat (16 * upper + lower) :: bytes
  | _ => .ok []

def decode (digits : Bytes) : Except DecodeError Bytes :=
  if digits.length % 2 = 1 then .error .oddLength else decodePairs 0 digits

end Winternitz.Hex
