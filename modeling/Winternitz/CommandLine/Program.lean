import Winternitz.CommandLine.Report

set_option autoImplicit false

namespace Winternitz.CommandLine

inductive ReadError
  | notFound
  | permissionDenied
  | notADirectory
  | isADirectory
  | nameTooLong
  | notText
deriving DecidableEq, Repr

private def osError (code : Nat) (kind message : String) : String :=
  "Os \x7b code: " ++ toString code ++ ", kind: " ++ kind ++ ", message: " ++
    Text.quote message ++ " \x7d"

def ReadError.detail : ReadError → String
  | notFound => osError 2 "NotFound" "No such file or directory"
  | permissionDenied => osError 13 "PermissionDenied" "Permission denied"
  | notADirectory => osError 20 "NotADirectory" "Not a directory"
  | isADirectory => osError 21 "IsADirectory" "Is a directory"
  | nameTooLong => osError 36 "InvalidFilename" "File name too long"
  | notText => "Error \x7b kind: InvalidData, message: \"stream did not contain valid UTF-8\" \x7d"

inductive Source
  | standardInput
  | file (path : String)
deriving DecidableEq, Repr

def Source.ofOperand (input : String) : Source :=
  if input = "-" then .standardInput else .file input

def inspectContent (input : String) (set : Option ParameterSet) (withChains : Bool) :
    Except ReadError ByteArray → Checked Report
  | .error error => .ok (.failed [] error.detail)
  | .ok bytes =>
    match String.fromUTF8? bytes with
    | some text => inspect input text set withChains
    | none => .ok (.failed [] ReadError.notText.detail)

/-- The whole program, up to how a source is read. Only an inspection reads one. -/
def program {m : Type → Type} [Monad m] (read : Source → m (Except ReadError ByteArray))
    (arguments : List String) : m (Checked Report) :=
  match Request.ofArguments arguments with
  | .error error => return .ok (.misused error)
  | .ok .listSets => return listSets
  | .ok (.help topic) => return .ok (.succeeded [] topic.page)
  | .ok (.inspect input set withChains) => do
    let content ← read (.ofOperand input)
    return inspectContent input set withChains content

end Winternitz.CommandLine
