import Winternitz.CommandLine.Arguments
import Winternitz.Document.Text

set_option autoImplicit false

namespace Winternitz.CommandLine

structure LogLine where
  level : Level
  message : String
deriving DecidableEq, Repr

def LogLine.render (line : LogLine) : String :=
  line.level.name ++ " wots_pk: " ++ line.message

structure Report where
  exitCode : Nat
  log : List LogLine
  output : String
  complaint : String
deriving DecidableEq, Repr

namespace Report

def succeeded (log : List LogLine) (output : String) : Report := ⟨0, log, output, ""⟩

def failed (log : List LogLine) (detail : String) : Report :=
  ⟨1, log, "", "Error: " ++ detail ++ "\n"⟩

def misused (error : UsageError) : Report := ⟨2, [], "", error.complaint⟩

end Report

def padIndex (index : Nat) : String :=
  let digits := Nat.toDigits 10 index
  String.ofList (List.replicate (3 - digits.length) ' ' ++ digits)

def chainLine (index : Nat) (chain : Bytes) : String :=
  "  [" ++ padIndex index ++ "] " ++ Hex.encode chain ++ "\n"

def summary (key : PublicKey) (set : Option ParameterSet) (withChains : Bool) : Checked String := do
  let setLine := set.elim "" fun set => "Parameter Set: " ++ set.name ++ "\n"
  let heading := "\nWOTS+ Public Key:\n=================\n" ++ setLine ++
    "Chains: " ++ toString key.chainCount ++ "\n" ++
    "Digest Size: " ++ toString key.digestSize ++ " bytes\n" ++
    "Total Size: " ++ toString key.bytes.length ++ " bytes\n" ++
    "Flat: " ++ Hex.encode key.bytes ++ "\n"
  if withChains then
    -- Each chain is printed as it comes, and no list of them is laid out.
    let chains ← key.window 0 key.chainCount.toNat
    return heading ++ String.join (chains.mapIdx chainLine)
  else
    return heading

def inspectDocument (input : String) (document : Document) (set : Option ParameterSet)
    (withChains : Bool) : Checked Report := do
  let against := set.elim "its recorded parameters" ParameterSet.name
  let opening : LogLine := ⟨.info, "Validating " ++ input ++ " against " ++ against⟩
  let verdict ←
    match set with
    | some set => document.toKeyWith (some set.parameters)
    | none => document.toKey
  match verdict.result with
  | .ok key => return .succeeded [opening] (← summary key set withChains)
  | .error error =>
    return .failed [opening, ⟨.error, "Public key rejected: " ++ error.message⟩] error.detail

def inspect (input text : String) (set : Option ParameterSet) (withChains : Bool) :
    Checked Report :=
  match Document.ofText text with
  | .ok document => inspectDocument input document set withChains
  | .error error => .ok (.failed [] error.detail)

def listSets : Checked Report := do
  let summaries ← ParameterSet.all.mapM ParameterSet.summary
  return .succeeded [] ((Json.Value.list summaries).pretty ++ "\n")

end Winternitz.CommandLine
