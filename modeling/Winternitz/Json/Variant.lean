import Winternitz.Json.Reader

set_option autoImplicit false

namespace Winternitz.Json

variable {α : Type}

-- Read the name of one of the `known` values, of which the opening quote has been read.
def readVariant (known : List (String × α)) (text : List Char) : Result (α × List Char) := do
  let (name, rest) ← readString [] text
  match known.lookup name with
  | some value => return (value, rest)
  | none => throw (.here (.unknownVariant name (known.map Prod.fst)) rest)

-- Read the only member of an object: the name of a value, with `null` beside it.
def readVariantObject (known : List (String × α)) (text : List Char) :
    Result (α × List Char) :=
  match dropBlank text with
  | [] => .error (.peek (.endOfText (.inside .object)) [])
  | c :: rest =>
    if c = '"' then do
      let (value, rest) ← readVariant known rest
      let ((), rest) ← Reader.null.run (← readColon rest)
      match dropBlank rest with
      | [] => throw (.here (.endOfText (.inside .object)) [])
      | d :: after =>
        if d = '\x7d' then return (value, after)
        else throw (.here .expectedValue (d :: after))
    else if c = '\x7d' then .error (.peek .expectedValue (c :: rest))
    else .error (.peek .keyNotString (c :: rest))

theorem length_readVariant_lt {known : List (String × α)} {text rest : List Char} {value : α}
    (done : readVariant known text = .ok (value, rest)) : rest.length < text.length := by
  obtain ⟨⟨name, after⟩, first, done⟩ := bind_eq_ok.1 done
  have := length_readString_lt first
  dsimp only at done
  split at done
  next => cases done; assumption
  next => cases done

theorem length_readVariantObject_lt {known : List (String × α)} {text rest : List Char}
    {value : α} (done : readVariantObject known text = .ok (value, rest)) :
    rest.length < text.length := by
  unfold readVariantObject at done
  split at done
  next => cases done
  next c tail start =>
    have := length_lt_of_dropBlank start
    split at done
    next =>
      obtain ⟨⟨found, afterName⟩, name, done⟩ := bind_eq_ok.1 done
      obtain ⟨afterColon, colon, done⟩ := bind_eq_ok.1 done
      obtain ⟨⟨_, afterNull⟩, null, done⟩ := bind_eq_ok.1 done
      dsimp only at colon done
      have := length_readVariant_lt name
      have := length_readColon_lt colon
      have := Reader.null.shrinks null
      split at done
      next => cases done
      next d after next =>
        have := length_lt_of_dropBlank next
        split at done
        next => cases done; omega
        next => cases done
    next => split at done <;> cases done

-- Read one of some named values, as its name or as an object with that one key.
def runVariant (known : List (String × α)) (text : List Char) : Result (α × List Char) :=
  match dropBlank text with
  | [] => .error (.peek (.endOfText .value) [])
  | c :: rest =>
    if c = '"' then readVariant known rest
    else if c = '\x7b' then readVariantObject known rest
    else .error (.peek .expectedValue (c :: rest))

theorem length_runVariant_lt {known : List (String × α)} {text rest : List Char} {value : α}
    (done : runVariant known text = .ok (value, rest)) : rest.length < text.length := by
  unfold runVariant at done
  split at done
  next => cases done
  next c tail start =>
    have := length_lt_of_dropBlank start
    split at done
    next => have := length_readVariant_lt done; omega
    next =>
      split at done
      next => have := length_readVariantObject_lt done; omega
      next => cases done

def Reader.variant (known : List (String × α)) : Reader α where
  run := runVariant known
  shrinks := length_runVariant_lt

end Winternitz.Json
