import Winternitz.Hex
import Winternitz.Json.Reading

set_option autoImplicit false

namespace Winternitz.Json

def refuseUnit (text : List Char) : Failure :=
  let left := byteLength text
  if left < 4 then ⟨.endOfText .string, 0⟩ else ⟨.invalidEscape, left - 4⟩

def readUnit (text : List Char) : Result (Nat × List Char) :=
  match text with
  | a :: b :: c :: d :: rest =>
    match Hex.value? a, Hex.value? b, Hex.value? c, Hex.value? d with
    | some a, some b, some c, some d => .ok (((a * 16 + b) * 16 + c) * 16 + d, rest)
    | _, _, _, _ => .error (refuseUnit text)
  | _ => .error (refuseUnit text)

def isHighSurrogate (unit : Nat) : Bool := 0xd800 ≤ unit && unit ≤ 0xdbff

def isLowSurrogate (unit : Nat) : Bool := 0xdc00 ≤ unit && unit ≤ 0xdfff

-- Read `\u` and the low surrogate that has to follow a high one.
def readLowSurrogate : List Char → Result (Nat × List Char)
  | '\\' :: 'u' :: rest => do
    let (unit, after) ← readUnit rest
    if isLowSurrogate unit then return (unit, after) else throw (.here .loneSurrogate after)
  | [] | ['\\'] => .error (.here (.endOfText .string) [])
  | '\\' :: rest => .error (.peek .unfinishedSurrogatePair rest)
  | rest => .error (.peek .unfinishedSurrogatePair rest)

def readUnicodeEscape (text : List Char) : Result (Char × List Char) := do
  let (unit, rest) ← readUnit text
  if isLowSurrogate unit then
    throw (.here .loneSurrogate rest)
  else if isHighSurrogate unit then
    let (low, after) ← readLowSurrogate rest
    return (Char.ofNat (0x10000 + (unit - 0xd800) * 0x400 + (low - 0xdc00)), after)
  else
    return (Char.ofNat unit, rest)

def shortEscape? : Char → Option Char
  | '"' => some '"'
  | '\\' => some '\\'
  | '/' => some '/'
  | 'b' => some '\x08'
  | 'f' => some '\x0c'
  | 'n' => some '\n'
  | 'r' => some '\r'
  | 't' => some '\t'
  | _ => none

def readEscape : List Char → Result (Char × List Char)
  | [] => .error (.here (.endOfText .string) [])
  | c :: rest =>
    match shortEscape? c with
    | some meant => .ok (meant, rest)
    | none => if c = 'u' then readUnicodeEscape rest else .error (.peek .invalidEscape (c :: rest))

-- Pass over what follows a backslash; a surrogate may stand alone there.
def skipEscape : List Char → Result (List Char)
  | [] => .error (.here (.endOfText .string) [])
  | c :: rest =>
    match shortEscape? c with
    | some _ => .ok rest
    | none =>
      if c = 'u' then do
        let (_, after) ← readUnit rest
        return after
      else .error (.peek .invalidEscape (c :: rest))

theorem length_readUnit_lt {text rest : List Char} {unit : Nat}
    (done : readUnit text = .ok (unit, rest)) : rest.length < text.length := by
  unfold readUnit at done
  split at done
  next =>
    split at done
    next => cases done; grind
    next => cases done
  next => cases done

theorem length_readLowSurrogate_lt {text rest : List Char} {unit : Nat}
    (done : readLowSurrogate text = .ok (unit, rest)) : rest.length < text.length := by
  unfold readLowSurrogate at done
  split at done
  next tail =>
    obtain ⟨⟨low, after⟩, first, done⟩ := bind_eq_ok.1 done
    have := length_readUnit_lt first
    dsimp only at done
    split at done
    next => cases done; grind
    next => cases done
  all_goals cases done

theorem length_readUnicodeEscape_lt {text rest : List Char} {c : Char}
    (done : readUnicodeEscape text = .ok (c, rest)) : rest.length < text.length := by
  obtain ⟨⟨unit, afterUnit⟩, first, done⟩ := bind_eq_ok.1 done
  have := length_readUnit_lt first
  dsimp only at done
  split at done
  next => cases done
  next =>
    split at done
    next =>
      obtain ⟨⟨low, afterLow⟩, second, done⟩ := bind_eq_ok.1 done
      have := length_readLowSurrogate_lt second
      obtain ⟨-, rfl⟩ := pure_eq_ok.1 done
      dsimp only
      omega
    next => cases done; assumption

theorem length_readEscape_lt {text rest : List Char} {c : Char}
    (done : readEscape text = .ok (c, rest)) : rest.length < text.length := by
  unfold readEscape at done
  split at done
  next => cases done
  next head tail =>
    split at done
    next => cases done; simp
    next =>
      split at done
      next =>
        have := length_readUnicodeEscape_lt done
        grind
      next => cases done

theorem length_skipEscape_lt {text rest : List Char} (done : skipEscape text = .ok rest) :
    rest.length < text.length := by
  unfold skipEscape at done
  split at done
  next => cases done
  next head tail =>
    split at done
    next => cases done; simp
    next =>
      split at done
      next =>
        obtain ⟨⟨unit, after⟩, first, done⟩ := bind_eq_ok.1 done
        have := length_readUnit_lt first
        cases done
        grind
      next => cases done

-- Read a string up to its closing quote, after the characters `before` in reverse order.
def readString (before text : List Char) : Result (String × List Char) :=
  match text with
  | [] => .error (.here (.endOfText .string) [])
  | c :: rest =>
    if c = '"' then .ok (String.ofList before.reverse, rest)
    else if c = '\\' then
      match _read : readEscape rest with
      | .ok (meant, after) => readString (meant :: before) after
      | .error failure => .error failure
    else if c.toNat < 0x20 then .error (.here .controlCharacter rest)
    else readString (c :: before) rest
termination_by text.length
decreasing_by
  · have := length_readEscape_lt _read
    grind
  · simp

def skipString (text : List Char) : Result (List Char) :=
  match text with
  | [] => .error (.here (.endOfText .string) [])
  | c :: rest =>
    if c = '"' then .ok rest
    else if c = '\\' then
      match _read : skipEscape rest with
      | .ok after => skipString after
      | .error failure => .error failure
    -- The place is in front of the character here, and after it where a value is read.
    else if c.toNat < 0x20 then .error (.here .controlCharacter (c :: rest))
    else skipString rest
termination_by text.length
decreasing_by
  · have := length_skipEscape_lt _read
    grind
  · simp

theorem length_readString_lt {before text rest : List Char} {value : String}
    (done : readString before text = .ok (value, rest)) : rest.length < text.length := by
  fun_induction readString before text with
  | case1 | case4 | case5 => cases done
  | case2 => cases done; simp
  | case3 before rest meant after read _ ih =>
    have := length_readEscape_lt read
    have := ih done
    grind
  | case6 before c rest _ _ _ ih =>
    have := ih done
    grind

theorem length_skipString_lt {text rest : List Char} (done : skipString text = .ok rest) :
    rest.length < text.length := by
  fun_induction skipString text with
  | case1 | case4 | case5 => cases done
  | case2 => cases done; simp
  | case3 rest after read _ ih =>
    have := length_skipEscape_lt read
    have := ih done
    grind
  | case6 c rest _ _ _ ih =>
    have := ih done
    grind

end Winternitz.Json
