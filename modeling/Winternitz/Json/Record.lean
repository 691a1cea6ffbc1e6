import Winternitz.Json.Reader

set_option autoImplicit false

namespace Winternitz.Json

structure Field (α : Type) where
  name : String
  reader : Reader α
  fallback : Option α

/-- A record of two fields, written as an object or as the list of its fields in order. -/
structure Record (α β : Type) where
  title : String
  first : Field α
  second : Field β

variable {α β : Type}

def Field.readMember (field : Field α) (text : List Char) : Result (α × List Char) := do
  field.reader.run (← readColon text)

-- Go to the next member of an object and read its key, or go past the closing bracket.
def nextKey (first : Bool) (text : List Char) : Result (Option String × List Char) :=
  let key (rest : List Char) : Result (Option String × List Char) := do
    let (name, after) ← readString [] rest
    return (some name, after)
  match dropBlank text with
  | [] => .error (.peek (.endOfText (.inside .object)) [])
  | c :: rest =>
    if c = '\x7d' then .ok (none, rest)
    else if first then
      if c = '"' then key rest else .error (.peek .keyNotString (c :: rest))
    else if c = ',' then
      match dropBlank rest with
      | [] => .error (.peek (.endOfText .value) [])
      | d :: after =>
        if d = '\x7d' then .error (.peek .trailingComma (d :: after))
        else if d = '"' then key after
        else .error (.peek .keyNotString (d :: after))
    else .error (.peek (.expectedCommaOr .object) (c :: rest))

-- Go past the closing bracket of an object if it comes next.
def closeObject (text : List Char) : List Char :=
  match dropBlank text with
  | [] => []
  | c :: rest => if c = '\x7d' then rest else c :: rest

def closeList (text : List Char) : Result (List Char) :=
  match dropBlank text with
  | [] => .error (.peek (.endOfText (.inside .list)) [])
  | c :: rest =>
    if c = ']' then .ok rest
    else if c = ',' then
      match dropBlank rest with
      | ']' :: after => .error (.peek .trailingComma (']' :: after))
      | left => .error (.peek .trailingCharacters left)
    else .error (.peek .trailingCharacters (c :: rest))

theorem length_readMember_lt {field : Field α} {text rest : List Char} {value : α}
    (done : field.readMember text = .ok (value, rest)) : rest.length < text.length := by
  obtain ⟨after, colon, done⟩ := bind_eq_ok.1 done
  have := length_readColon_lt colon
  have := field.reader.shrinks done
  omega

theorem length_nextKey_lt {first : Bool} {name : Option String} {text rest : List Char}
    (done : nextKey first text = .ok (name, rest)) : rest.length < text.length := by
  have key {start : List Char} (read : (do
      let (found, after) ← readString [] start
      return (some found, after) : Result (Option String × List Char)) = .ok (name, rest)) :
      rest.length < start.length := by
    obtain ⟨⟨found, after⟩, string, last⟩ := bind_eq_ok.1 read
    obtain ⟨-, rfl⟩ := pure_eq_ok.1 last
    exact length_readString_lt string
  unfold nextKey at done
  split at done
  next => cases done
  next c tail start =>
    have := length_lt_of_dropBlank start
    split at done
    next => cases done; omega
    next =>
      split at done
      next =>
        split at done
        next => have := key done; omega
        next => cases done
      next =>
        split at done
        next =>
          split at done
          next => cases done
          next d after next =>
            have := length_lt_of_dropBlank next
            split at done
            next => cases done
            next =>
              split at done
              next => have := key done; omega
              next => cases done
        next => cases done

theorem length_closeList_lt {text rest : List Char} (done : closeList text = .ok rest) :
    rest.length < text.length := by
  unfold closeList at done
  split at done
  next => cases done
  next c tail start =>
    have := length_lt_of_dropBlank start
    split at done
    next => cases done; assumption
    next =>
      split at done
      next => split at done <;> cases done
      next => cases done

namespace Record

-- Fill in the fields that were left out, or tell the position of one that has to be there.
def fill (record : Record α β) (a : Option α) (b : Option β) : Except Nat (α × β) :=
  match a <|> record.first.fallback, b <|> record.second.fallback with
  | some a, some b => .ok (a, b)
  | none, _ => .error 0
  | some _, none => .error 1

def nameAt (record : Record α β) (position : Nat) : String :=
  if position = 0 then record.first.name else record.second.name

-- Read the members of an object, of whose fields `a` and `b` have been found. Members of other
-- names are passed over.
def readMembers (record : Record α β) (start : Bool) (a : Option α) (b : Option β)
    (text : List Char) : Result ((α × β) × List Char) :=
  match _turn : nextKey start text with
  | .error failure => .error failure
  | .ok (none, rest) =>
    match record.fill a b with
    | .ok fields => .ok (fields, rest)
    | .error position => .error (.here (.missingField (record.nameAt position)) rest)
  | .ok (some name, rest) =>
    if name = record.first.name then
      -- A repeated field is placed behind the closing bracket if that is all that follows its name.
      if a.isSome then .error (.here (.duplicateField name) (closeObject rest))
      else
        match _member : record.first.readMember rest with
        | .error failure => .error failure
        | .ok (value, after) => record.readMembers false (some value) b after
    else if name = record.second.name then
      if b.isSome then .error (.here (.duplicateField name) (closeObject rest))
      else
        match _member : record.second.readMember rest with
        | .error failure => .error failure
        | .ok (value, after) => record.readMembers false a (some value) after
    else
      match _colon : readColon rest with
      | .error failure => .error failure
      | .ok valueStart =>
        match _value : skipValue valueStart with
        | .error failure => .error failure
        | .ok after => record.readMembers false a b after
termination_by text.length
decreasing_by
  · have := length_nextKey_lt _turn
    have := length_readMember_lt _member
    omega
  · have := length_nextKey_lt _turn
    have := length_readMember_lt _member
    omega
  · have := length_nextKey_lt _turn
    have := length_readColon_lt _colon
    have := length_skipValue_lt _value
    omega

def fillList (record : Record α β) (a : Option α) (rest : List Char) :
    Result ((α × β) × List Char) :=
  match record.fill a none with
  | .ok fields => .ok (fields, rest)
  | .error position =>
    .error (.here (.wrongLength position (record.title ++ " with 2 elements")) rest)

def readFields (record : Record α β) (text : List Char) : Result ((α × β) × List Char) := do
  let (more, text) ← Reader.nextElement true text
  if !more then record.fillList none text
  else
    let (a, text) ← record.first.reader.run text
    let (more, text) ← Reader.nextElement false text
    if !more then record.fillList (some a) text
    else
      let (b, text) ← record.second.reader.run text
      return ((a, b), ← closeList text)

theorem length_readMembers_lt {record : Record α β} {start : Bool} {a : Option α} {b : Option β}
    {text rest : List Char} {fields : α × β}
    (done : record.readMembers start a b text = .ok (fields, rest)) :
    rest.length < text.length := by
  fun_induction readMembers record start a b text with
  | case1 | case3 | case4 | case5 | case7 | case8 | case10 | case11 => cases done
  | case2 _ _ _ _ _ turn =>
    cases done
    exact length_nextKey_lt turn
  | case6 _ _ _ _ _ _ _ _ member turn ih =>
    have := length_nextKey_lt turn
    have := length_readMember_lt member
    have := ih done
    omega
  | case9 _ _ _ _ _ _ _ _ member turn _ ih =>
    have := length_nextKey_lt turn
    have := length_readMember_lt member
    have := ih done
    omega
  | case12 _ _ _ _ _ _ turn _ _ _ colon _ value ih =>
    have := length_nextKey_lt turn
    have := length_readColon_lt colon
    have := length_skipValue_lt value
    have := ih done
    omega

theorem eq_of_fillList {record : Record α β} {a : Option α} {text rest : List Char}
    {fields : α × β} (done : record.fillList a text = .ok (fields, rest)) : rest = text := by
  unfold fillList at done
  split at done
  next => cases done; rfl
  next => cases done

theorem length_readFields_le {record : Record α β} {text rest : List Char} {fields : α × β}
    (done : record.readFields text = .ok (fields, rest)) : rest.length ≤ text.length := by
  obtain ⟨⟨more, afterTurn⟩, turn, done⟩ := bind_eq_ok.1 done
  have := Reader.length_nextElement_le turn
  dsimp only at done
  split at done
  next => rw [eq_of_fillList done]; assumption
  next =>
    obtain ⟨⟨a, afterFirst⟩, first, done⟩ := bind_eq_ok.1 done
    have := record.first.reader.shrinks first
    obtain ⟨⟨more, afterTurn⟩, turn, done⟩ := bind_eq_ok.1 done
    dsimp only at turn done
    have := Reader.length_nextElement_le turn
    split at done
    next => rw [eq_of_fillList done]; omega
    next =>
      obtain ⟨⟨b, afterSecond⟩, second, done⟩ := bind_eq_ok.1 done
      have := record.second.reader.shrinks second
      obtain ⟨last, closed, done⟩ := bind_eq_ok.1 done
      dsimp only at closed
      have := length_closeList_lt closed
      obtain ⟨-, rfl⟩ := pure_eq_ok.1 done
      omega

def reader (record : Record α β) : Reader (α × β) :=
  Reader.starting record.title (fun c => c == '\x7b' || c == '[')
    (fun c rest =>
      if c = '\x7b' then record.readMembers true none none rest else record.readFields rest)
    fun done => by
      split at done
      next => exact Nat.le_of_lt (length_readMembers_lt done)
      next => exact length_readFields_le done

end Record

end Winternitz.Json
