import Winternitz.Json.Error
import Winternitz.PublicKey

set_option autoImplicit false

namespace Winternitz

/-- A key as JSON text carries it: chains are hex digits, and any part may be absent. -/
structure Document where
  parameters : Option Parameters
  chains : Option (List (Option String))
deriving DecidableEq, Repr

inductive DocumentError
  | json (error : Json.Error)
  | hex (index : Nat) (source : Hex.DecodeError)
  | key (error : KeyError)
deriving DecidableEq, Repr

def DocumentError.message : DocumentError → String
  | json error => "JSON error: " ++ error.message
  | hex index source => "Chain " ++ toString index ++ " is not valid hex: " ++ source.message
  | key error => error.message

def DocumentError.detail : DocumentError → String
  | json error => "Json(" ++ error.detail ++ ")"
  | hex index source =>
    "Hex \x7b index: " ++ toString index ++ ", source: " ++ source.detail ++ " \x7d"
  | key error => "Key(" ++ error.detail ++ ")"

namespace Document

def empty : Document := ⟨none, none⟩

-- Drop one mark from the front.
def stripMark : List Char → List Char
  | '0' :: 'x' :: digits => digits
  | digits => digits

def decodeChain (text : String) : Except Hex.DecodeError Bytes :=
  Hex.decode ((stripMark text.toList).flatMap String.utf8EncodeChar)

-- Decode chains, the first of which has this index, up to the first that is no hex.
def decodeChains (index : Nat) : List String → Except DocumentError (List Bytes)
  | [] => .ok []
  | text :: rest =>
    match decodeChain text with
    | .error source => .error (.hex index source)
    | .ok bytes => (decodeChains (index + 1) rest).map (bytes :: ·)

abbrev Verdict := Logged (Except DocumentError PublicKey)

def verdictOnChains (verdict : PublicKey.Verdict) : Verdict :=
  verdict.map fun result => result.mapError .key

def decodingEvent (document : Document) : Event :=
  .decoding (document.chains.map List.length)

def toKeyWith (document : Document) (params : Option Parameters) : Checked Verdict :=
  -- Absence and bad hex are refused without a report of their own.
  let absent (error : KeyError) : Checked Verdict := .ok (.silent (.error (.key error)))
  let verdict : Checked Verdict :=
    match params, document.chains with
    | none, _ => absent .paramsAbsent
    | some _, none => absent .keyAbsent
    | some params, some chains =>
      match PublicKey.allPresent chains with
      | none => absent .elementAbsent
      | some texts =>
        match decodeChains 0 texts with
        | .error error => .ok (.silent (.error error))
        | .ok decoded => return verdictOnChains (← PublicKey.new params decoded)
  verdict.map fun verdict => verdict.after document.decodingEvent

def toKey (document : Document) : Checked Verdict :=
  document.toKeyWith document.parameters

-- The list of texts takes as much room as a list of the chains would.
def ofKey (key : PublicKey) : Checked Document := do
  let chains ← key.toChains
  return ⟨some key.parameters, some (chains.map fun chain => some (Hex.encode chain))⟩

end Document

end Winternitz
