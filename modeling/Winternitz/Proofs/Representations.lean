import Winternitz.Proofs.Construction
import Winternitz.Proofs.Views

set_option autoImplicit false

namespace Winternitz.PublicKey

open Blocks

theorem blocks_of_fromChains {params : Parameters} {chains : List Bytes} {key : PublicKey}
    (made : Makes (fromChains params chains) key) : key.blocks = chains := by
  obtain ⟨shape, -, rfl⟩ := (fromChains_makes_iff params chains key).mp made
  exact (eq_blocks shape.count shape.widths rfl).symm

theorem toChains_of_fromChains {params : Parameters} {chains : List Bytes} {key : PublicKey}
    (made : Makes (fromChains params chains) key) (listable : key.Listable) :
    key.toChains = .ok chains := by
  rw [(valid_of_fromChains made).1.toChains_eq listable, blocks_of_fromChains made]

theorem window_of_fromChains {params : Parameters} {chains : List Bytes} {key : PublicKey}
    (made : Makes (fromChains params chains) key) :
    key.window 0 key.chainCount.toNat = .ok chains := by
  rw [(valid_of_fromChains made).1.window_all, blocks_of_fromChains made]

theorem fromFlat_of_fromChains {params : Parameters} {chains : List Bytes} {key : PublicKey}
    (made : Makes (fromChains params chains) key) :
    Makes (.ok (fromFlat params chains.flatten)) key := by
  have held := (valid_of_fromChains made).1.2
  obtain ⟨shape, -, rfl⟩ := (fromChains_makes_iff params chains key).mp made
  exact (fromFlat_makes_iff params _ _).mpr ⟨shape.length_flatten.symm, held, rfl⟩

theorem Valid.matches {key : PublicKey} (valid : key.Valid) : Matches key.parameters key.blocks :=
  ⟨key.length_blocks, valid.blocks_uniform⟩

theorem fromChains_blocks {key : PublicKey} (valid : key.Valid) (held : key.Held) :
    Makes (fromChains key.parameters key.blocks) key := by
  refine (fromChains_makes_iff _ _ _).mpr ⟨valid.matches, ?_, ?_⟩
  · exact Nat.lt_of_le_of_lt (Nat.le_of_eq valid.1) held
  · rw [valid.flatten_blocks, ofBytes_parameters]

theorem fromFlat_bytes {key : PublicKey} (valid : key.Valid) :
    Makes (.ok (fromFlat key.parameters key.bytes)) key :=
  (fromFlat_makes_iff _ _ _).mpr ⟨valid.1, valid.2, rfl⟩

theorem blocks_unique {key : PublicKey} (valid : key.Valid) (chains : List Bytes) :
    (Matches key.parameters chains ∧ chains.flatten = key.bytes) ↔ chains = key.blocks := by
  constructor
  · rintro ⟨shape, flat⟩
    exact eq_blocks shape.count shape.widths flat
  · rintro rfl
    exact ⟨valid.matches, valid.flatten_blocks⟩

theorem exists_fromChains_iff (params : Parameters) (key : PublicKey) :
    (∃ chains, Makes (fromChains params chains) key) ↔
      key.Valid ∧ key.Held ∧ key.parameters = params := by
  constructor
  · rintro ⟨chains, made⟩
    have ⟨valid, held⟩ := valid_of_fromChains made
    obtain ⟨-, -, same⟩ := (fromChains_makes_iff params chains key).mp made
    exact ⟨valid, held, same ▸ rfl⟩
  · rintro ⟨valid, held, rfl⟩
    exact ⟨key.blocks, fromChains_blocks valid held⟩

theorem exists_fromFlat_iff (params : Parameters) (key : PublicKey) :
    (∃ bytes : Bytes, bytes.length < Size.bufferLimit ∧ Makes (.ok (fromFlat params bytes)) key) ↔
      key.Valid ∧ key.Held ∧ key.parameters = params := by
  constructor
  · rintro ⟨bytes, held, made⟩
    have valid := valid_of_fromFlat made
    obtain ⟨-, -, rfl⟩ := (fromFlat_makes_iff params bytes key).mp made
    exact ⟨valid, held, rfl⟩
  · rintro ⟨valid, held, rfl⟩
    exact ⟨key.bytes, held, fromFlat_bytes valid⟩

/-- A key of as many empty chains as there are sizes. -/
def widestKey : PublicKey := ⟨[], 18446744073709551615, 0⟩

end Winternitz.PublicKey
