import Winternitz.Decimal.Layout
import Winternitz.Text.Quoted

set_option autoImplicit false

namespace Winternitz.Json

/-- A number as a reader takes it in: whole if it fits 64 bits, otherwise the bits of a binary64. -/
inductive Number
  | natural (n : UInt64)
  | negative (magnitude : Nat)
  | floating (bits : UInt64)
deriving DecidableEq, Repr

-- Numbers are written positionally from `0.00001` up to sixteen digits before the point.
def Number.layout : Decimal.Layout := ⟨-5, 15⟩

/-- A value that stands where another kind of value belongs. -/
inductive Found
  | null
  | boolean (value : Bool)
  | number (value : Number)
  | string (value : String)
  | list
  | object
deriving DecidableEq, Repr

def Found.describe : Found → String
  | null => "null"
  | boolean value => "boolean `" ++ toString value ++ "`"
  | number (.natural n) => "integer `" ++ toString n ++ "`"
  | number (.negative magnitude) => "integer `-" ++ toString magnitude ++ "`"
  | number (.floating bits) =>
    "floating point `" ++ Number.layout.renderBinary64 bits ++ "`"
  | string value => "string " ++ Text.quote value
  | list => "sequence"
  | object => "map"

inductive Bracket
  | list
  | object
deriving DecidableEq, Repr

def Bracket.closer : Bracket → Char
  | list => ']'
  | object => '\x7d'

inductive Context
  | value
  | string
  | inside (bracket : Bracket)
deriving DecidableEq, Repr

def Context.describe : Context → String
  | value => "a value"
  | string => "a string"
  | inside .list => "a list"
  | inside .object => "an object"

inductive Category
  | syntactic
  | data
  | endOfText
deriving DecidableEq, Repr

inductive Cause
  | endOfText (context : Context)
  | expectedColon
  | expectedCommaOr (bracket : Bracket)
  | expectedIdentifier
  | expectedValue
  | keyNotString
  | trailingComma
  | trailingCharacters
  | invalidNumber
  | numberOutOfRange
  | invalidEscape
  | controlCharacter
  | loneSurrogate
  | unfinishedSurrogatePair
  | wrongType (found : Found) (expected : String)
  | wrongValue (found : Found) (expected : String)
  | wrongLength (length : Nat) (expected : String)
  | unknownVariant (name : String) (known : List String)
  | missingField (name : String)
  | duplicateField (name : String)
deriving DecidableEq, Repr

namespace Cause

def category : Cause → Category
  | endOfText _ => .endOfText
  | wrongType .. | wrongValue .. | wrongLength .. | unknownVariant .. | missingField _
  | duplicateField _ => .data
  | _ => .syntactic

private def ticked (name : String) : String := "`" ++ name ++ "`"

def message : Cause → String
  | endOfText context => "EOF while parsing " ++ context.describe
  | expectedColon => "expected `:`"
  | expectedCommaOr bracket => "expected `,` or " ++ ticked bracket.closer.toString
  | expectedIdentifier => "expected ident"
  | expectedValue => "expected value"
  | keyNotString => "key must be a string"
  | trailingComma => "trailing comma"
  | trailingCharacters => "trailing characters"
  | invalidNumber => "invalid number"
  | numberOutOfRange => "number out of range"
  | invalidEscape => "invalid escape"
  | controlCharacter => "control character (\\u0000-\\u001F) found while parsing a string"
  | loneSurrogate => "lone leading surrogate in hex escape"
  | unfinishedSurrogatePair => "unexpected end of hex escape"
  | wrongType found expected => "invalid type: " ++ found.describe ++ ", expected " ++ expected
  | wrongValue found expected => "invalid value: " ++ found.describe ++ ", expected " ++ expected
  | wrongLength length expected =>
    "invalid length " ++ toString length ++ ", expected " ++ expected
  | unknownVariant name known =>
    "unknown variant " ++ ticked name ++ ", expected one of " ++
      String.intercalate ", " (known.map ticked)
  | missingField name => "missing field " ++ ticked name
  | duplicateField name => "duplicate field " ++ ticked name

end Cause

/-- A cause with its place: the line counts from one, the column counts bytes from zero. -/
structure Error where
  cause : Cause
  line : Nat
  column : Nat
deriving DecidableEq, Repr

namespace Error

def category (error : Error) : Category := error.cause.category

def message (error : Error) : String :=
  error.cause.message ++ " at line " ++ toString error.line ++ " column " ++ toString error.column

def detail (error : Error) : String :=
  "Error(" ++ Text.quote error.cause.message ++ ", line: " ++ toString error.line ++
    ", column: " ++ toString error.column ++ ")"

end Error

end Winternitz.Json
