import Winternitz.Document.Text
import Winternitz.Proofs.HexText
import Winternitz.Proofs.Json.Measure
import Winternitz.Proofs.Views

set_option autoImplicit false

namespace Winternitz

theorem Json.Reader.length_le_of_read {α : Type} {reader : Reader α} {letters : α → List Char}
    (bounds : reader.Bounds letters) {text : String} {value : α}
    (read : reader.read text = .ok value) : (letters value).length ≤ text.length := by
  obtain ⟨⟨found, rest⟩, first, last⟩ := bind_eq_ok.1 (mapError_eq_ok.mp read)
  have := bounds first
  rw [String.length_toList] at this
  dsimp only at last
  split at last
  next =>
    cases last
    omega
  next => cases last

namespace Document

def chainLetters (chains : List (Option String)) : List Char :=
  chains.flatMap fun chain => chain.elim [] String.toList

def letters (document : Document) : List Char :=
  document.chains.elim [] chainLetters

/-- How many bytes the chains of a document can spell. Two letters spell a byte. -/
def weight (document : Document) : Nat :=
  document.letters.length / 2

/-- One buffer has room for all that the chains spell, as it has for any document in memory. -/
def Fits (document : Document) : Prop :=
  document.weight < Size.bufferLimit

theorem record_holds :
    record.Holds (fun _ => []) fun chains => chains.elim [] chainLetters where
  first := Json.Reader.bounds_nil _
  second := Json.Reader.bounds_string.optional.list.optional
  noFirst _ _ := rfl
  noSecond := by
    rintro _ ⟨⟩
    rfl

theorem bounds_reader : reader.Bounds letters := by
  refine Json.Reader.bounds_map ?_
  simpa [letters] using record.bounds_reader record_holds

theorem letters_le_of_ofText {text : String} {document : Document}
    (read : ofText text = .ok document) : document.letters.length ≤ text.length :=
  Json.Reader.length_le_of_read bounds_reader (Json.mapError_eq_ok.mp read)

theorem length_flatten_of_decodeChains {index : Nat} {texts : List String} {decoded : List Bytes}
    (read : decodeChains index texts = .ok decoded) :
    2 * decoded.flatten.length ≤ (chainLetters (texts.map some)).length := by
  induction texts generalizing index decoded with
  | nil =>
    cases read
    exact Nat.le_refl _
  | cons text rest ih =>
    simp only [decodeChains] at read
    split at read
    next => cases read
    next bytes head =>
      cases tail : decodeChains (index + 1) rest with
      | error => simp [tail, Except.map] at read
      | ok others =>
        simp only [tail, Except.map, Except.ok.injEq] at read
        subst read
        have first := length_decodeChain_le head
        have later := ih tail
        simp only [chainLetters, List.map_cons, List.flatMap_cons, Option.elim_some,
          List.flatten_cons, List.length_append, String.length_toList] at later ⊢
        omega

theorem length_le_weight {document : Document} {texts : List String} {decoded : List Bytes}
    (given : document.chains = some (texts.map some)) (read : decodeChains 0 texts = .ok decoded) :
    decoded.flatten.length ≤ document.weight := by
  have letters := length_flatten_of_decodeChains read
  rw [weight, Document.letters, given, Option.elim_some]
  omega

theorem letters_of_encoded (parameters : Option Parameters) (chains : List Bytes) :
    (⟨parameters, some (chains.map fun chain => some (Hex.encode chain))⟩ : Document).letters.length =
      2 * chains.flatten.length := by
  simp only [letters, Option.elim_some]
  induction chains with
  | nil => rfl
  | cons chain rest ih =>
    simp only [chainLetters, List.map_cons, List.flatMap_cons, Option.elim_some, List.flatten_cons,
      List.length_append, String.length_toList, Hex.length_encode] at ih ⊢
    omega

def written (key : PublicKey) : Document :=
  ⟨some key.parameters, some ((key.blocks.map Hex.encode).map some)⟩

theorem ofKey_of_not_listable {key : PublicKey} (full : ¬ key.Listable) :
    ofKey key = .error .capacityOverflow :=
  PublicKey.listing_of_not_listable _ full

theorem ofKey_eq_ok_iff {key : PublicKey} (valid : key.Valid) (document : Document) :
    ofKey key = .ok document ↔ key.Listable ∧ document = written key := by
  rw [written, List.map_map]
  exact valid.listing_eq_ok_iff _ document

theorem weight_written {key : PublicKey} (valid : key.Valid) :
    (written key).weight = key.bytes.length := by
  have letters := letters_of_encoded (some key.parameters) key.blocks
  rw [valid.flatten_blocks] at letters
  rw [weight, written, List.map_map]
  exact Nat.div_eq_of_eq_mul_right Nat.zero_lt_two letters

end Document

end Winternitz
