import Winternitz.Text.Unprintable

set_option autoImplicit false

namespace Winternitz.Text

def hexadecimal (n : Nat) : String :=
  String.ofList (Nat.toDigits 16 n)

-- Show one character of a text that stands between two `delimiter`s.
def shown (delimiter c : Char) : String :=
  if c = delimiter ∨ c = '\\' then String.ofList ['\\', c]
  else if c = '\x00' then "\\0"
  else if c = '\t' then "\\t"
  else if c = '\n' then "\\n"
  else if c = '\r' then "\\r"
  else if unprintable c then "\\u\x7b" ++ hexadecimal c.toNat ++ "\x7d"
  else c.toString

def quote (text : String) : String :=
  "\"" ++ String.join (text.toList.map (shown '"')) ++ "\""

def quoteChar (c : Char) : String :=
  "'" ++ shown '\'' c ++ "'"

end Winternitz.Text
