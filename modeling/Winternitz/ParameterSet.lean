import Winternitz.Parameters
import Winternitz.Text.Blank

set_option autoImplicit false

namespace Winternitz

/-- The registered parameter sets, all with Winternitz parameter 16. -/
inductive ParameterSet
  | sha2_256
  | sha2_512
  | shake_256
  | shake_512
  | sha2_192
  | shake256_256
  | shake256_192
deriving DecidableEq, Repr

structure UnknownParameterSet where
  name : String
deriving DecidableEq, Repr

def UnknownParameterSet.message (unknown : UnknownParameterSet) : String :=
  "Unknown WOTS+ parameter set: " ++ unknown.name

namespace ParameterSet

def all : List ParameterSet :=
  [sha2_256, sha2_512, shake_256, shake_512, sha2_192, shake256_256, shake256_192]

theorem mem_all (set : ParameterSet) : set ∈ all := by
  cases set <;> decide

def name : ParameterSet → String
  | sha2_256 => "WOTSP-SHA2_256"
  | sha2_512 => "WOTSP-SHA2_512"
  | shake_256 => "WOTSP-SHAKE_256"
  | shake_512 => "WOTSP-SHAKE_512"
  | sha2_192 => "WOTSP-SHA2_192"
  | shake256_256 => "WOTSP-SHAKE256_256"
  | shake256_192 => "WOTSP-SHAKE256_192"

/-- Name a set as JSON text does. -/
def label : ParameterSet → String
  | sha2_256 => "WOTSP_SHA2_256"
  | sha2_512 => "WOTSP_SHA2_512"
  | shake_256 => "WOTSP_SHAKE_256"
  | shake_512 => "WOTSP_SHAKE_512"
  | sha2_192 => "WOTSP_SHA2_192"
  | shake256_256 => "WOTSP_SHAKE256_256"
  | shake256_192 => "WOTSP_SHAKE256_192"

def parameters : ParameterSet → Parameters
  | sha2_256 | shake_256 | shake256_256 => ⟨67, 32⟩
  | sha2_512 | shake_512 => ⟨131, 64⟩
  | sha2_192 | shake256_192 => ⟨51, 24⟩

def fold (c : Char) : Char :=
  if c = '-' then '_' else c.toUpper

def normalize (text : String) : List Char :=
  (Text.trim text.toList).map fold

def parse (text : String) : Except UnknownParameterSet ParameterSet :=
  match all.find? fun set => normalize set.name == normalize text with
  | some set => .ok set
  | none => .error ⟨text⟩

end ParameterSet

end Winternitz
