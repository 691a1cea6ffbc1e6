import Winternitz.Json.Literal
import Winternitz.Json.StringLiteral

set_option autoImplicit false

namespace Winternitz.Json

def skipScalar : List Char → Result (List Char)
  | [] => .error (.peek (.endOfText .value) [])
  | c :: rest =>
    if c = '"' then skipString rest
    else if c = 'n' then readWord ['u', 'l', 'l'] rest
    else if c = 't' then readWord ['r', 'u', 'e'] rest
    else if c = 'f' then readWord ['a', 'l', 's', 'e'] rest
    else if c = '-' then skipNumber rest
    else if c.isDigit then skipNumber (c :: rest)
    else .error (.peek .expectedValue (c :: rest))

inductive Stage
  | value
  | key
  | more
deriving DecidableEq, Repr

def Bracket.item : Bracket → Stage
  | list => .value
  | object => .key

def openedBracket? : Char → Option Bracket
  | '[' => some .list
  | '\x7b' => some .object
  | _ => none

theorem length_skipScalar_lt {text rest : List Char} (done : skipScalar text = .ok rest) :
    rest.length < text.length := by
  cases text with
  | nil => cases done
  | cons c tail =>
    simp only [skipScalar] at done
    split at done
    next => have := length_skipString_lt done; grind
    next =>
      split at done
      next => have := length_readWord_le done; grind
      next =>
        split at done
        next => have := length_readWord_le done; grind
        next =>
          split at done
          next => have := length_readWord_le done; grind
          next =>
            split at done
            next => have := length_skipNumber_lt done; grind
            next =>
              split at done
              next => exact length_skipNumber_lt done
              next => cases done

-- Pass over a value, or over what is left of one whose brackets are still open. Brackets nest to
-- any depth, so they are kept in a list.
def skip (stage : Stage) (opened : List Bracket) (text : List Char) : Result (List Char) :=
  match stage, opened with
  | .more, [] => .ok text
  | .more, bracket :: outer =>
    match _start : dropBlank text with
    | [] => .error (.peek (.endOfText (.inside bracket)) [])
    | c :: rest =>
      if c = ',' then skip bracket.item (bracket :: outer) rest
      else if c = bracket.closer then skip .more outer rest
      else .error (.peek (.expectedCommaOr bracket) (c :: rest))
  | .key, opened =>
    match _start : dropBlank text with
    | [] => .error (.peek (.endOfText (.inside .object)) [])
    | c :: rest =>
      if c = '"' then
        match _key : skipString rest with
        | .error failure => .error failure
        | .ok afterKey =>
          match _colon : readColon afterKey with
          | .error failure => .error failure
          | .ok afterColon => skip .value opened afterColon
      else .error (.peek .keyNotString (c :: rest))
  | .value, opened =>
    match _start : dropBlank text with
    | [] => .error (.peek (.endOfText .value) [])
    | c :: rest =>
      match openedBracket? c with
      | none =>
        match _scalar : skipScalar (c :: rest) with
        | .error failure => .error failure
        | .ok after => skip .more opened after
      | some bracket =>
        match _next : dropBlank rest with
        | [] => .error (.peek (.endOfText (.inside bracket)) [])
        | d :: after =>
          if d = bracket.closer then skip .more opened after
          else skip bracket.item (bracket :: opened) rest
termination_by text.length
decreasing_by
  · exact length_lt_of_dropBlank _start
  · exact length_lt_of_dropBlank _start
  · have := length_lt_of_dropBlank _start
    have := length_skipString_lt _key
    have := length_readColon_lt _colon
    omega
  · have := length_dropBlank_le text
    have := length_skipScalar_lt _scalar
    grind
  · have := length_lt_of_dropBlank _start
    have := length_lt_of_dropBlank _next
    omega
  · exact length_lt_of_dropBlank _start

def skipValue (text : List Char) : Result (List Char) :=
  skip .value [] text

private theorem length_skip {stage : Stage} {opened : List Bracket} {text rest : List Char}
    (done : skip stage opened text = .ok rest) :
    rest.length ≤ text.length ∧ (stage = .value → rest.length < text.length) := by
  fun_induction skip stage opened text with
  | case1 => cases done; simp
  | case2 | case5 | case6 | case7 | case8 | case10 | case11 | case12 | case14 => cases done
  | case3 text _ _ after start ih | case4 text _ _ after start _ ih =>
    have := length_lt_of_dropBlank start
    have := (ih done).1
    simp
    omega
  | case9 text _ after afterKey key afterColon colon start ih =>
    have := length_lt_of_dropBlank start
    have := length_skipString_lt key
    have := length_readColon_lt colon
    have := (ih done).1
    simp
    omega
  | case13 text _ c after start _ afterScalar scalar ih =>
    have bound := length_dropBlank_le text
    rw [start] at bound
    have := length_skipScalar_lt scalar
    have := (ih done).1
    omega
  | case15 text _ c tail start bracket _ after next ih =>
    have := length_lt_of_dropBlank start
    have := length_lt_of_dropBlank next
    have := (ih done).1
    omega
  | case16 text _ c tail start _ _ _ _ _ _ ih =>
    have := length_lt_of_dropBlank start
    have := (ih done).1
    omega

theorem length_skipValue_lt {text rest : List Char} (done : skipValue text = .ok rest) :
    rest.length < text.length :=
  (length_skip done).2 rfl

end Winternitz.Json
