set_option autoImplicit false

namespace Winternitz

inductive KeyError
  | paramsAbsent
  | keyAbsent
  | elementAbsent
  | wrongSize
  | wrongFormat
deriving DecidableEq, Repr

namespace KeyError

inductive Kind
  | invalidArgument
  | invalidFormat
deriving DecidableEq, Repr

def Kind.name : Kind → String
  | .invalidArgument => "InvalidArgument"
  | .invalidFormat => "InvalidFormat"

def kind : KeyError → Kind
  | paramsAbsent | keyAbsent | elementAbsent => .invalidArgument
  | wrongSize | wrongFormat => .invalidFormat

def reason : KeyError → String
  | paramsAbsent => "params"
  | keyAbsent => "publicKey"
  | elementAbsent => "publicKey element"
  | wrongSize => "wrong publicKey size"
  | wrongFormat => "wrong publicKey format"

def message (error : KeyError) : String :=
  match error.kind with
  | .invalidArgument => "Invalid argument: " ++ error.reason ++ " is absent"
  | .invalidFormat => "Invalid format: " ++ error.reason

def detail (error : KeyError) : String :=
  error.kind.name ++ "(\"" ++ error.reason ++ "\")"

end KeyError

end Winternitz
