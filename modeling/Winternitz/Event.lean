import Winternitz.KeyError
import Winternitz.Parameters

set_option autoImplicit false

namespace Winternitz

inductive Level
  | error
  | info
  | debug
  | trace
deriving DecidableEq, Repr

def Level.name : Level → String
  | error => "ERROR"
  | info => "INFO"
  | debug => "DEBUG"
  | trace => "TRACE"

inductive FieldValue
  | text (value : String)
  | number (value : Nat)
deriving DecidableEq, Repr

inductive Event
  | rejected (error : KeyError) (params : Parameters)
  | constructed (params : Parameters)
  | decoding (chains : Option Nat)
deriving DecidableEq, Repr

def Parameters.fields (params : Parameters) : List (String × FieldValue) :=
  [("chain_count", .number params.chainCount.toNat),
    ("digest_size", .number params.digestSize.toNat)]

namespace Event

def level : Event → Level
  | rejected .. | decoding _ => .debug
  | constructed _ => .trace

def message : Event → String
  | rejected .. => "rejected WOTS+ public key"
  | constructed _ => "constructed WOTS+ public key"
  | decoding _ => "decoding WOTS+ public key document"

def fields : Event → List (String × FieldValue)
  | rejected error params => ("reason", .text error.reason) :: params.fields
  | constructed params => params.fields
  | decoding chains => (chains.map fun count => ("chains", .number count)).toList

end Event

structure Logged (α : Type) where
  result : α
  events : List Event
deriving DecidableEq, Repr

namespace Logged

variable {α β : Type}

def silent (result : α) : Logged α := ⟨result, []⟩

def map (f : α → β) (logged : Logged α) : Logged β :=
  ⟨f logged.result, logged.events⟩

def after (event : Event) (logged : Logged α) : Logged α :=
  ⟨logged.result, event :: logged.events⟩

end Logged

end Winternitz
