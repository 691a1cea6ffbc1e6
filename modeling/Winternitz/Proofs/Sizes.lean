import Winternitz.Proofs.Attempts

set_option autoImplicit false

namespace Winternitz

open PublicKey (Makes Matches)

namespace Parameters

theorem byteSize_of_small {params : Parameters} (small : params.product < UInt64.size) :
    ∃ size, params.byteSize = .ok size ∧ size.toNat = params.product :=
  ⟨_, Size.mul_eq_ok small, Size.toNat_mul small⟩

theorem byteSize_of_large {params : Parameters} (large : UInt64.size ≤ params.product) :
    params.byteSize = .error .multiplyOverflow := by
  have none := (Size.mul?_eq_none_iff params.chainCount params.digestSize).mpr large
  rw [byteSize, Size.mul, none]

theorem byteSize_eq_error_iff (params : Parameters) (fault : Fault) :
    params.byteSize = .error fault ↔ fault = .multiplyOverflow ∧ UInt64.size ≤ params.product := by
  by_cases small : params.product < UInt64.size
  · obtain ⟨size, computed, -⟩ := byteSize_of_small small
    rw [computed]
    constructor
    · exact nofun
    · intro faulty
      exact absurd small (Nat.not_lt_of_le faulty.2)
  · have large := Nat.le_of_not_lt small
    rw [byteSize_of_large large, Except.error.injEq]
    exact ⟨fun same => ⟨same.symm, large⟩, fun faulty => faulty.1.symm⟩

theorem byteSize_eq_ok_iff (params : Parameters) (size : UInt64) :
    params.byteSize = .ok size ↔ size.toNat = params.product := by
  by_cases small : params.product < UInt64.size
  · obtain ⟨found, computed, exact⟩ := byteSize_of_small small
    rw [computed, Except.ok.injEq, ← exact, UInt64.toNat_inj]
    exact eq_comm
  · rw [byteSize_of_large (Nat.le_of_not_lt small)]
    constructor
    · exact nofun
    · intro exact
      exact absurd (exact ▸ size.toNat_lt) small

end Parameters

namespace PublicKey

theorem Valid.byteSize {key : PublicKey} (valid : key.Valid) :
    ∃ size, key.parameters.byteSize = .ok size ∧ size.toNat = key.bytes.length := by
  have small : key.parameters.product < UInt64.size := by
    rw [Parameters.product, parameters, valid.1]
    exact valid.2
  obtain ⟨size, computed, exact⟩ := Parameters.byteSize_of_small small
  exact ⟨size, computed, exact.trans valid.1⟩

theorem fromFlat_makes_iff_product (params : Parameters) {bytes : Bytes}
    (fits : bytes.length < UInt64.size) :
    (∃ key, Makes (.ok (fromFlat params bytes)) key) ↔ params.product = bytes.length := by
  constructor
  · rintro ⟨key, made⟩
    exact ((fromFlat_makes_iff params bytes key).mp made).1
  · intro size
    exact ⟨_, (fromFlat_makes_iff params bytes _).mpr ⟨size, fits, rfl⟩⟩

theorem fromFlat_of_large {params : Parameters} (large : UInt64.size ≤ params.product)
    (bytes : Bytes) : fromFlat params bytes = reject .wrongSize params :=
  fromFlat_of_wrong fun small => absurd small (Nat.not_lt_of_le large)

end PublicKey

namespace Attempt

theorem no_overflow_of_weight {attempt : Attempt} (handed : attempt.weight < UInt64.size) :
    attempt.verdict ≠ .error .multiplyOverflow := by
  intro stopped
  rcases full_of_error stopped with ⟨-, large⟩ | ⟨other, -⟩
  · exact absurd handed (Nat.not_lt_of_le large)
  · cases other

/-- Sizes are exact whatever the dimensions. Chains are joined only when they have the shape that
the dimensions say, and then the product of the dimensions is the number of bytes there are, so that
it is a size unless more bytes were handed over than sizes count, and one buffer has room for it
unless more were handed over than a buffer holds. Bytes make a key exactly when the product as a
natural number is their number; a product past the sizes is refused even when, cut down to a word,
it would be that number. The size of the dimensions faults exactly at such a product, and is the
number of the bytes of every key that was made under them. -/
theorem sizes_are_exact :
    (∀ attempt : Attempt, attempt.Fits → ∃ verdict, attempt.verdict = .ok verdict) ∧
    (∀ attempt : Attempt, attempt.weight < UInt64.size →
      attempt.verdict ≠ .error .multiplyOverflow) ∧
    (∀ (attempt : Attempt) (fault : Fault), attempt.verdict = .error fault ↔
      ∃ params chains, attempt.params = some params ∧ attempt.chains? = some chains ∧
        Matches params chains ∧ Size.Stops chains.flatten.length fault) ∧
    (∀ (params : Parameters) (chains : List Bytes), Matches params chains →
      chains.flatten.length = params.product) ∧
    (∀ (params : Parameters) (bytes : Bytes), bytes.length < UInt64.size →
      ((∃ key, Makes (.ok (PublicKey.fromFlat params bytes)) key) ↔
        params.product = bytes.length)) ∧
    (∀ (params : Parameters) (bytes : Bytes),
      params.product ≠ bytes.length ∨ UInt64.size ≤ params.product →
      PublicKey.fromFlat params bytes = PublicKey.reject .wrongSize params) ∧
    (∀ (params : Parameters) (fault : Fault), params.byteSize = .error fault ↔
      fault = .multiplyOverflow ∧ UInt64.size ≤ params.product) ∧
    (∀ (params : Parameters) (size : UInt64), params.byteSize = .ok size ↔
      size.toNat = params.product) ∧
    (∀ (attempt : Attempt) (verdict : Document.Verdict) (key : PublicKey),
      attempt.verdict = .ok verdict → verdict.result = .ok key →
      ∃ params size, attempt.params = some params ∧ params.byteSize = .ok size ∧
        size.toNat = key.bytes.length) := by
  refine ⟨fun _ => answers_of_fits, fun _ => no_overflow_of_weight, verdict_eq_error_iff,
    fun _ _ shape => shape.length_flatten,
    fun params _ fits => PublicKey.fromFlat_makes_iff_product params fits, ?refused,
    Parameters.byteSize_eq_error_iff, Parameters.byteSize_eq_ok_iff, ?made⟩
  case refused =>
    rintro params bytes (wrong | large)
    · exact PublicKey.fromFlat_of_wrong fun _ => wrong
    · exact PublicKey.fromFlat_of_large large bytes
  case made =>
    intro attempt verdict key answered made
    obtain ⟨given, valid, -⟩ := key_of_verdict answered made
    obtain ⟨size, computed, exact⟩ := valid.byteSize
    exact ⟨key.parameters, size, given, computed, exact⟩

theorem sizes_of_wrapping_product :
    let params : Parameters := ⟨9223372036854775809, 2⟩
    params.chainCount * params.digestSize = 2 ∧
    PublicKey.fromFlat params [7, 7] = PublicKey.reject .wrongSize params ∧
    params.byteSize = .error .multiplyOverflow ∧
    (∃ verdict, (toKeyWith ⟨none, some [some "0707"]⟩ (some params)).verdict = .ok verdict) ∧
    (∃ key, Makes (.ok (PublicKey.fromFlat ⟨1, 2⟩ [7, 7])) key) := by
  obtain ⟨answers, -, -, -, makes, refused, faults, -, -⟩ := sizes_are_exact
  refine ⟨rfl, refused _ _ (.inr (by decide)), (faults _ _).mpr ⟨rfl, by decide⟩, ?_, ?_⟩
  · apply answers
    simp [Fits, weight, Document.weight, Document.letters, Document.chainLetters, Size.bufferLimit]
  · apply (makes ⟨1, 2⟩ [7, 7] (by decide)).mpr
    decide

end Attempt

end Winternitz
