import Winternitz.Hex

set_option autoImplicit false

namespace Winternitz.Json

inductive Value
  | null
  | natural (n : Nat)
  | string (text : String)
  | list (items : List Value)
  | object (members : List (String × Value))

def escape (c : Char) : List Char :=
  if c = '"' then ['\\', '"']
  else if c = '\\' then ['\\', '\\']
  else if c = '\x08' then ['\\', 'b']
  else if c = '\x0c' then ['\\', 'f']
  else if c = '\n' then ['\\', 'n']
  else if c = '\r' then ['\\', 'r']
  else if c = '\t' then ['\\', 't']
  else if c.toNat < 0x20 then
    ['\\', 'u', '0', '0', Hex.digit (c.toNat / 16), Hex.digit (c.toNat % 16)]
  else [c]

def writeString (text : String) : List Char :=
  '"' :: (text.toList.flatMap escape ++ ['"'])

/-- What stands between tokens: in front of an item at some depth, and after a key. -/
structure Spacing where
  line : Nat → List Char
  colon : List Char

def Spacing.compact : Spacing := ⟨fun _ => [], [':']⟩

-- Every item stands on a line of its own, two blanks deeper than its list or object.
def Spacing.pretty : Spacing :=
  ⟨fun depth => '\n' :: List.replicate (2 * depth) ' ', [':', ' ']⟩

namespace Value

mutual

def write (spacing : Spacing) (depth : Nat) : Value → List Char
  | null => ['n', 'u', 'l', 'l']
  | natural n => Nat.toDigits 10 n
  | string text => writeString text
  | list [] => ['[', ']']
  | list (item :: rest) =>
    '[' :: writeItems spacing (depth + 1) (item :: rest) ++ spacing.line depth ++ [']']
  | object [] => ['\x7b', '\x7d']
  | object (member :: rest) =>
    '\x7b' :: writeMembers spacing (depth + 1) (member :: rest) ++ spacing.line depth ++ ['\x7d']

def writeItems (spacing : Spacing) (depth : Nat) : List Value → List Char
  | [] => []
  | [item] => spacing.line depth ++ write spacing depth item
  | item :: rest =>
    spacing.line depth ++ write spacing depth item ++ ',' :: writeItems spacing depth rest

def writeMembers (spacing : Spacing) (depth : Nat) : List (String × Value) → List Char
  | [] => []
  | [(key, value)] =>
    spacing.line depth ++ writeString key ++ spacing.colon ++ write spacing depth value
  | (key, value) :: rest =>
    spacing.line depth ++ writeString key ++ spacing.colon ++ write spacing depth value ++
      ',' :: writeMembers spacing depth rest

end

def pretty (value : Value) : String :=
  String.ofList (value.write .pretty 0)

def compact (value : Value) : String :=
  String.ofList (value.write .compact 0)

end Value

end Winternitz.Json
