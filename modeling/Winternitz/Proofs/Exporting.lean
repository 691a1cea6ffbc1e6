import Winternitz.Proofs.Attempts
import Winternitz.Proofs.Canonical

set_option autoImplicit false

namespace Winternitz

open PublicKey

theorem built_widestKey : Built widestKey :=
  ⟨.fromFlat ⟨18446744073709551615, 0⟩ [], _, by decide, rfl, rfl⟩

namespace Document

variable {key : PublicKey} {params : Parameters}

theorem toKeyWith_written_eq_iff (valid : key.Valid) (held : key.Held) :
    outcome ((written key).toKeyWith (some params)) = .ok (.ok key) ↔ params = key.parameters := by
  rw [toKeyWith_written, keyOutcome_eq_ok_iff]
  constructor
  · intro made
    obtain ⟨-, -, same⟩ := (fromChains_makes_iff _ _ _).mp made
    rw [same]
    rfl
  · rintro rfl
    exact fromChains_blocks valid held

theorem toKeyWith_written_count (count : params.chainCount ≠ key.chainCount) :
    outcome ((written key).toKeyWith (some params)) = .ok (.error (.key .wrongSize)) := by
  have wrong : key.blocks.length ≠ params.chainCount.toNat := by
    rw [length_blocks, ne_eq, UInt64.toNat_inj]
    exact count.symm
  rw [toKeyWith_written, fromChains_of_count wrong]
  rfl

theorem toKeyWith_written_width (valid : key.Valid) (count : params.chainCount = key.chainCount)
    (positive : 0 < key.chainCount) (width : params.digestSize ≠ key.digestSize) :
    outcome ((written key).toKeyWith (some params)) = .ok (.error (.key .wrongFormat)) := by
  have counted : key.blocks.length = params.chainCount.toNat := by rw [length_blocks, count]
  have wrong : ¬ Blocks.Uniform params.digestSize.toNat key.blocks := by
    intro uniform
    have inhabited : 0 < key.blocks.length := by
      rw [length_blocks]
      exact UInt64.lt_iff_toNat_lt.mp positive
    have member := List.getElem_mem inhabited
    have same := (uniform _ member).symm.trans (valid.blocks_uniform _ member)
    exact width (UInt64.toNat_inj.mp same)
  rw [toKeyWith_written, fromChains_of_width counted wrong]
  rfl

-- No chain is there to tell one width from another.
theorem toKeyWith_written_empty (empty : key.chainCount = 0) (count : params.chainCount = 0) :
    outcome ((written key).toKeyWith (some params)) = .ok (.ok ⟨[], 0, params.digestSize⟩) := by
  have none : key.blocks = [] := by
    rw [← List.length_eq_zero_iff, length_blocks, empty]
    rfl
  have shape : Matches params [] := ⟨by rw [count]; rfl, by simp [Blocks.Uniform]⟩
  have made := fromChains_of_matches shape (by simp [Parameters.product, count, Size.bufferLimit])
  rw [toKeyWith_written, none, made, ofBytes, count]
  rfl

end Document

end Winternitz
