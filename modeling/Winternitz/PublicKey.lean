import Winternitz.Event
import Winternitz.Hex

set_option autoImplicit false

namespace Winternitz

/-- The end values of all chains in one run of bytes, chain after chain. -/
structure PublicKey where
  bytes : Bytes
  chainCount : UInt64
  digestSize : UInt64
deriving DecidableEq, Repr

namespace PublicKey

def Valid (key : PublicKey) : Prop :=
  key.chainCount.toNat * key.digestSize.toNat = key.bytes.length ∧ key.bytes.length < UInt64.size

def parameters (key : PublicKey) : Parameters :=
  ⟨key.chainCount, key.digestSize⟩

abbrev Verdict := Logged (Except KeyError PublicKey)

def reject (error : KeyError) (params : Parameters) : Verdict :=
  ⟨.error error, [.rejected error params]⟩

def accept (key : PublicKey) : Verdict :=
  ⟨.ok key, [.constructed key.parameters]⟩

def fromChains (params : Parameters) (chains : List Bytes) : Checked Verdict :=
  if chains.length ≠ params.chainCount.toNat then
    .ok (reject .wrongSize params)
  else if chains.any fun chain => chain.length ≠ params.digestSize.toNat then
    .ok (reject .wrongFormat params)
  else do
    -- The buffer is laid out at its full size before the chains are copied into it.
    let size ← params.byteSize
    Size.reserve size 1
    return accept ⟨chains.flatten, params.chainCount, params.digestSize⟩

def new (params : Parameters) (chains : List Bytes) : Checked Verdict :=
  fromChains params chains

def allPresent {α : Type} : List (Option α) → Option (List α)
  | [] => some []
  | none :: _ => none
  | some value :: rest => (allPresent rest).map (value :: ·)

def create (params : Option Parameters) (chains : Option (List (Option Bytes))) :
    Checked Verdict :=
  match params, chains with
  | none, _ => .ok (reject .paramsAbsent ⟨0, 0⟩)
  | some params, none => .ok (reject .keyAbsent params)
  | some params, some chains =>
    match allPresent chains with
    | none => .ok (reject .elementAbsent params)
    | some present => fromChains params present

def fromFlat (params : Parameters) (bytes : Bytes) : Verdict :=
  match Size.mul? params.chainCount params.digestSize with
  | none => reject .wrongSize params
  | some size =>
    -- Bytes that fit are taken as they are, and nothing is reported.
    if size.toNat = bytes.length then .silent (.ok ⟨bytes, params.chainCount, params.digestSize⟩)
    else reject .wrongSize params

/-- Cut out a chain, given that there is one of this index. -/
def chainAt (key : PublicKey) (index : UInt64) : Checked Bytes := do
  let start ← Size.mul index key.digestSize
  let stop ← Size.add start key.digestSize
  Size.slice key.bytes start stop

def chain? (key : PublicKey) (index : UInt64) : Checked (Option Bytes) :=
  if index ≥ key.chainCount then .ok none else some <$> key.chainAt index

def window (key : PublicKey) (skip take : Nat) : Checked (List Bytes) :=
  (List.range' skip (min take (key.chainCount.toNat - skip))).mapM fun index =>
    key.chainAt (UInt64.ofNat index)

/-- How much room a list needs for each chain or text in it, whatever the chain's own bytes. -/
def handleSize : Nat := 24

-- A list of all chains is laid out at its full length first, even where the chains are empty.
def toChains (key : PublicKey) : Checked (List Bytes) := do
  Size.reserve key.chainCount handleSize
  key.window 0 key.chainCount.toNat

def describe (key : PublicKey) : Checked String := do
  let chains ← key.toChains
  return "WotsPlusPublicKey \x7b chain_count: " ++ toString key.chainCount ++
    ", digest_size: " ++ toString key.digestSize ++ ", chains: [" ++
    String.intercalate ", " (chains.map fun chain => Text.quote (Hex.encode chain)) ++ "] \x7d"

def describeInFull (key : PublicKey) : Checked String := do
  let chains ← key.toChains
  let lines := chains.map fun chain => "        " ++ Text.quote (Hex.encode chain) ++ ",\n"
  let list := if lines.isEmpty then "[]" else "[\n" ++ String.join lines ++ "    ]"
  return "WotsPlusPublicKey \x7b\n    chain_count: " ++ toString key.chainCount ++
    ",\n    digest_size: " ++ toString key.digestSize ++ ",\n    chains: " ++ list ++ ",\n\x7d"

end PublicKey

end Winternitz
