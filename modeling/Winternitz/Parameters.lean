import Winternitz.Size

set_option autoImplicit false

namespace Winternitz

/-- The two dimensions of a public key: how many chains, and how many bytes each. -/
structure Parameters where
  chainCount : UInt64
  digestSize : UInt64
deriving DecidableEq, Repr

def Parameters.byteSize (params : Parameters) : Checked UInt64 :=
  Size.mul params.chainCount params.digestSize

def Parameters.describe (params : Parameters) : String :=
  "WotsParameters \x7b chain_count: " ++ toString params.chainCount ++
    ", digest_size: " ++ toString params.digestSize ++ " \x7d"

end Winternitz
