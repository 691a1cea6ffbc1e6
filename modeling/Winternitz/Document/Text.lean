import Winternitz.Document
import Winternitz.Json.Record
import Winternitz.Json.Value
import Winternitz.Json.Variant
import Winternitz.ParameterSet

set_option autoImplicit false

namespace Winternitz

def Parameters.record : Json.Record UInt64 UInt64 where
  title := "struct WotsParameters"
  first := ⟨"chain_count", .size, none⟩
  second := ⟨"digest_size", .size, none⟩

def Parameters.reader : Json.Reader Parameters :=
  record.reader.map fun (chainCount, digestSize) => ⟨chainCount, digestSize⟩

def Parameters.ofText (text : String) : Except Json.Error Parameters :=
  reader.read text

def Parameters.toValue (params : Parameters) : Json.Value :=
  .object [("chain_count", .natural params.chainCount.toNat),
    ("digest_size", .natural params.digestSize.toNat)]

def ParameterSet.ofText (text : String) : Except Json.Error ParameterSet :=
  (Json.Reader.variant (all.map fun set => (set.label, set))).read text

def ParameterSet.toValue (set : ParameterSet) : Json.Value :=
  .string set.label

def ParameterSet.summary (set : ParameterSet) : Checked Json.Value := do
  let params := set.parameters
  let size ← params.byteSize
  return .object [("chain_count", .natural params.chainCount.toNat),
    ("digest_size", .natural params.digestSize.toNat), ("name", .string set.name),
    ("public_key_size_bytes", .natural size.toNat)]

namespace Document

def record : Json.Record (Option Parameters) (Option (List (Option String))) where
  title := "struct PublicKeyDocument"
  first := ⟨"parameters", Parameters.reader.optional, some none⟩
  second := ⟨"chains", Json.Reader.string.optional.list.optional, some none⟩

def reader : Json.Reader Document :=
  record.reader.map fun (parameters, chains) => ⟨parameters, chains⟩

def ofText (text : String) : Except DocumentError Document :=
  (reader.read text).mapError .json

def toValue (document : Document) : Json.Value :=
  let parameters :=
    match document.parameters with
    | some params => params.toValue
    | none => .null
  let chains :=
    match document.chains with
    | some chains => .list (chains.map fun chain => chain.elim .null .string)
    | none => .null
  .object [("parameters", parameters), ("chains", chains)]

def toText (document : Document) : String :=
  document.toValue.pretty

end Document

end Winternitz
