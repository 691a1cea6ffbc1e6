import Winternitz.Json.Skip

set_option autoImplicit false

namespace Winternitz.Json

-- Read whatever value comes next. Lists and objects are recognised, not entered.
def readAny : List Char → Result (Found × List Char)
  | [] => .error (.peek (.endOfText .value) [])
  | c :: rest =>
    if c = '"' then do
      let (value, after) ← readString [] rest
      return (.string value, after)
    else if c = 'n' then return (.null, ← readWord ['u', 'l', 'l'] rest)
    else if c = 't' then return (.boolean true, ← readWord ['r', 'u', 'e'] rest)
    else if c = 'f' then return (.boolean false, ← readWord ['a', 'l', 's', 'e'] rest)
    else if startsNumber c then do
      let (number, after) ← readSigned c rest
      return (.number number, after)
    else if c = '[' then .ok (.list, c :: rest)
    else if c = '\x7b' then .ok (.object, c :: rest)
    else .error (.peek .expectedValue (c :: rest))

-- Refuse the next value for its type, unless it is no value at all.
def refuse (expected : String) (text : List Char) : Failure :=
  match readAny text with
  | .ok (found, rest) => .here (.wrongType found expected) rest
  | .error failure => failure

structure Reader (α : Type) where
  run : List Char → Result (α × List Char)
  shrinks {text rest : List Char} {value : α} :
    run text = .ok (value, rest) → rest.length < text.length

namespace Reader

variable {α β : Type}

def map (f : α → β) (reader : Reader α) : Reader β where
  run text := do
    let (value, rest) ← reader.run text
    return (f value, rest)
  shrinks done := by
    obtain ⟨⟨value, after⟩, first, done⟩ := bind_eq_ok.1 done
    obtain ⟨-, rfl⟩ := pure_eq_ok.1 done
    exact reader.shrinks first

def read (reader : Reader α) (text : String) : Except Error α :=
  let result : Result α := do
    let (value, rest) ← reader.run text.toList
    match dropBlank rest with
    | [] => return value
    | left => throw (.peek .trailingCharacters left)
  result.mapError fun failure => failure.toError text.toList

def runStarting (expected : String) (starts : Char → Bool)
    (value : Char → List Char → Result (α × List Char)) (text : List Char) :
    Result (α × List Char) :=
  match dropBlank text with
  | [] => .error (.peek (.endOfText .value) [])
  | c :: rest => if starts c then value c rest else .error (refuse expected (c :: rest))

theorem length_runStarting_lt {expected : String} {starts : Char → Bool}
    {value : Char → List Char → Result (α × List Char)}
    (bound : ∀ {c : Char} {tail rest : List Char} {a : α},
      value c tail = .ok (a, rest) → rest.length ≤ tail.length)
    {text rest : List Char} {a : α}
    (done : runStarting expected starts value text = .ok (a, rest)) :
    rest.length < text.length := by
  unfold runStarting at done
  split at done
  next => cases done
  next c tail start =>
    have := length_lt_of_dropBlank start
    split at done
    next => have := bound done; omega
    next => cases done

def starting (expected : String) (starts : Char → Bool)
    (value : Char → List Char → Result (α × List Char))
    (bound : ∀ {c : Char} {tail rest : List Char} {a : α},
      value c tail = .ok (a, rest) → rest.length ≤ tail.length) : Reader α where
  run := runStarting expected starts value
  shrinks := length_runStarting_lt bound

def string : Reader String :=
  starting "a string" (· == '"') (fun _ rest => readString [] rest)
    fun done => Nat.le_of_lt (length_readString_lt done)

def null : Reader Unit :=
  starting "unit" (· == 'n') (fun _ rest => return ((), ← readWord ['u', 'l', 'l'] rest))
    fun done => by
      obtain ⟨after, first, done⟩ := bind_eq_ok.1 done
      obtain ⟨-, rfl⟩ := pure_eq_ok.1 done
      exact length_readWord_le first

def sizeOf (number : Number) (rest : List Char) : Result UInt64 :=
  match number with
  | .natural n => .ok n
  | .negative _ => .error (.here (.wrongValue (.number number) "usize") rest)
  | .floating _ => .error (.here (.wrongType (.number number) "usize") rest)

def readSize (c : Char) (tail : List Char) : Result (UInt64 × List Char) := do
  let (number, rest) ← readSigned c tail
  return (← sizeOf number rest, rest)

def size : Reader UInt64 :=
  starting "usize" startsNumber readSize
    fun done => by
      obtain ⟨⟨number, after⟩, first, done⟩ := bind_eq_ok.1 done
      obtain ⟨n, -, done⟩ := bind_eq_ok.1 done
      obtain ⟨-, rfl⟩ := pure_eq_ok.1 done
      exact length_readSigned_le first

def optional (reader : Reader α) : Reader (Option α) where
  run text :=
    match dropBlank text with
    | 'n' :: rest => return (none, ← readWord ['u', 'l', 'l'] rest)
    | _ => (reader.map some).run text
  shrinks {text rest a} done := by
    split at done
    next tail start =>
      have := length_lt_of_dropBlank start
      obtain ⟨after, first, done⟩ := bind_eq_ok.1 done
      obtain ⟨-, rfl⟩ := pure_eq_ok.1 done
      have := length_readWord_le first
      omega
    next => exact (reader.map some).shrinks done

-- Go to the next element of a list, or past its closing bracket; the flag tells which.
def nextElement (first : Bool) (text : List Char) : Result (Bool × List Char) :=
  match dropBlank text with
  | [] => .error (.peek (.endOfText (.inside .list)) [])
  | c :: rest =>
    if c = ']' then .ok (false, rest)
    else if first then .ok (true, c :: rest)
    else if c = ',' then
      match dropBlank rest with
      | [] => .error (.peek (.endOfText .value) [])
      | d :: after =>
        if d = ']' then .error (.peek .trailingComma (d :: after)) else .ok (true, d :: after)
    else .error (.peek (.expectedCommaOr .list) (c :: rest))

theorem length_nextElement_le {first more : Bool} {text rest : List Char}
    (done : nextElement first text = .ok (more, rest)) : rest.length ≤ text.length := by
  unfold nextElement at done
  split at done
  next => cases done
  next c tail start =>
    have bound := length_dropBlank_le text
    rw [start, List.length_cons] at bound
    split at done
    next => cases done; omega
    next =>
      split at done
      next => cases done; simpa using bound
      next =>
        split at done
        next =>
          split at done
          next => cases done
          next d after next =>
            have inner := length_dropBlank_le tail
            rw [next, List.length_cons] at inner
            split at done
            next => cases done
            next => cases done; simp; omega
        next => cases done

def readElements (element : Reader α) (before : List α) (text : List Char) :
    Result (List α × List Char) :=
  match _turn : nextElement before.isEmpty text with
  | .error failure => .error failure
  | .ok (false, rest) => .ok (before.reverse, rest)
  | .ok (true, rest) =>
    match _item : element.run rest with
    | .error failure => .error failure
    | .ok (value, after) => readElements element (value :: before) after
termination_by text.length
decreasing_by
  have := length_nextElement_le _turn
  have := element.shrinks _item
  omega

theorem length_readElements_le {element : Reader α} {before values : List α}
    {text rest : List Char} (done : readElements element before text = .ok (values, rest)) :
    rest.length ≤ text.length := by
  fun_induction readElements element before text with
  | case1 | case3 => cases done
  | case2 before text after turn =>
    cases done
    exact length_nextElement_le turn
  | case4 before text start turn value after item ih =>
    have := length_nextElement_le turn
    have := element.shrinks item
    have := ih done
    omega

def list (element : Reader α) : Reader (List α) :=
  starting "a sequence" (· == '[') (fun _ rest => readElements element [] rest)
    fun done => length_readElements_le done

end Reader

end Winternitz.Json
