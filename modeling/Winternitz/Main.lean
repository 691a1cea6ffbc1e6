import Winternitz.CommandLine.Program

set_option autoImplicit false

namespace Winternitz.CommandLine

-- Opening a file reports the negative of an error number, and reading it the number itself.
def errorNumber (code : UInt32) : UInt32 :=
  if code < 0x80000000 then code else 0 - code

def readError : IO.Error → ReadError
  | .permissionDenied .. => .permissionDenied
  | .inappropriateType _ code _ => if errorNumber code = 20 then .notADirectory else .isADirectory
  | .invalidArgument _ code _ => if errorNumber code = 36 then .nameTooLong else .notFound
  | _ => .notFound

def attempt (read : IO ByteArray) : IO (Except ReadError ByteArray) := do
  try
    return .ok (← read)
  catch error =>
    return .error (readError error)

def readSource : Source → IO (Except ReadError ByteArray)
  | .standardInput => attempt do (← IO.getStdin).readBinToEnd
  | .file path => attempt (IO.FS.readBinFile path)

-- Log lines come before the output, on the same stream.
def deliver (report : Report) : IO UInt32 := do
  for line in report.log do
    IO.println line.render
  IO.print report.output
  IO.eprint report.complaint
  return UInt32.ofNat report.exitCode

end Winternitz.CommandLine

open Winternitz.CommandLine in
def main (arguments : List String) : IO UInt32 := do
  match ← program readSource arguments with
  | .ok report => deliver report
  | .error fault =>
    IO.eprintln fault.message
    return 101
