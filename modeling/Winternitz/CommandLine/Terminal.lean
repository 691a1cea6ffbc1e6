set_option autoImplicit false

namespace Winternitz.CommandLine

inductive Mode
  | text
  | escape
  | intermediate
  | control
  | device
  | string
  | command
deriving DecidableEq, Repr

namespace Mode

def afterEscape (c : Char) : Mode :=
  if c = '[' then control
  else if c = ']' then command
  else if c = 'P' then device
  else if c = 'X' ∨ c = '^' ∨ c = '_' then string
  else if ' ' ≤ c ∧ c < '0' then intermediate
  else if '0' ≤ c ∧ c ≤ '~' then text
  else escape

def next (mode : Mode) (c : Char) : Mode :=
  if c = '\x1b' then escape
  -- Cancel and substitute break off any sequence.
  else if c = '\x18' ∨ c = '\x1a' then text
  else
    match mode with
    | text => text
    | escape => afterEscape c
    | intermediate => if '0' ≤ c ∧ c ≤ '~' then text else intermediate
    | control => if '@' ≤ c ∧ c ≤ '~' then text else control
    | device => if '@' ≤ c ∧ c ≤ '~' then string else device
    -- The byte of a string terminator counts inside a longer character too.
    | string => if (String.utf8EncodeChar c).contains 0x9c then text else string
    | command => if c = '\x07' then text else command

def isLayout (c : Char) : Bool :=
  c == '\t' || c == '\n' || c == '\x0c' || c == '\r'

def shows (mode : Mode) (c : Char) : Bool :=
  match mode with
  | text => isLayout c || (' ' ≤ c && c != '\x7f')
  | escape | intermediate | control => isLayout c
  | device | string | command => false

end Mode

-- Drop control sequences. Layout inside one is shown with all that follows it up to the next
-- control character, where the sequence goes on unless a longer character has ended it.
def dropSequences (mode : Mode) (showing : Bool) : List Char → List Char
  | [] => []
  | c :: rest =>
    if showing && Mode.text.shows c then
      c :: dropSequences (if c.toNat < 0x80 then mode else .text) true rest
    else if !showing && mode.shows c then
      c :: dropSequences (mode.next c) true rest
    else
      dropSequences (mode.next c) false rest

def plain (text : String) : String :=
  String.ofList (dropSequences .text true text.toList)

end Winternitz.CommandLine
