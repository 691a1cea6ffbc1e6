import Winternitz.PublicKey
import Winternitz.Proofs.Blocks

set_option autoImplicit false

namespace Winternitz

-- This may be more than a size can say.
def Parameters.product (params : Parameters) : Nat :=
  params.chainCount.toNat * params.digestSize.toNat

/-- The fault at which laying out a buffer of so many bytes stops. -/
def Size.Stops (bytes : Nat) (fault : Fault) : Prop :=
  fault = .multiplyOverflow ∧ UInt64.size ≤ bytes ∨
    fault = .capacityOverflow ∧ bufferLimit ≤ bytes ∧ bytes < UInt64.size

theorem Size.exists_stops {bytes : Nat} (full : bufferLimit ≤ bytes) :
    ∃ fault, Stops bytes fault := by
  by_cases small : bytes < UInt64.size
  next => exact ⟨_, .inr ⟨rfl, full, small⟩⟩
  next => exact ⟨_, .inl ⟨rfl, Nat.le_of_not_lt small⟩⟩

theorem Size.Stops.full {bytes : Nat} {fault : Fault} (stops : Stops bytes fault) :
    bufferLimit ≤ bytes := by
  rcases stops with ⟨-, large⟩ | ⟨-, full, -⟩
  · exact Nat.le_trans (Nat.le_of_lt bufferLimit_lt) large
  · exact full

namespace PublicKey

open Blocks

structure Matches (params : Parameters) (chains : List Bytes) : Prop where
  count : chains.length = params.chainCount.toNat
  widths : Uniform params.digestSize.toNat chains

theorem Matches.length_flatten {params : Parameters} {chains : List Bytes}
    (shape : Matches params chains) : chains.flatten.length = params.product := by
  rw [Blocks.length_flatten shape.widths, shape.count, Parameters.product]

def ofBytes (params : Parameters) (bytes : Bytes) : PublicKey :=
  ⟨bytes, params.chainCount, params.digestSize⟩

theorem ofBytes_parameters (key : PublicKey) : ofBytes key.parameters key.bytes = key := rfl

theorem ofBytes_valid {params : Parameters} {bytes : Bytes}
    (size : params.product = bytes.length) (fits : bytes.length < UInt64.size) :
    (ofBytes params bytes).Valid :=
  ⟨size, fits⟩

def Makes (verdict : Checked Verdict) (key : PublicKey) : Prop :=
  ∃ events, verdict = .ok ⟨.ok key, events⟩

@[simp] theorem not_makes_reject (error : KeyError) (params : Parameters) (key : PublicKey) :
    ¬ Makes (.ok (reject error params)) key := by
  rintro ⟨events, same⟩
  simp [reject] at same

@[simp] theorem makes_accept_iff (made key : PublicKey) :
    Makes (.ok (accept made)) key ↔ key = made := by
  simp [Makes, accept, eq_comm]

theorem fromChains_of_count {params : Parameters} {chains : List Bytes}
    (wrong : chains.length ≠ params.chainCount.toNat) :
    fromChains params chains = .ok (reject .wrongSize params) := by
  simp [fromChains, wrong]

theorem fromChains_of_width {params : Parameters} {chains : List Bytes}
    (count : chains.length = params.chainCount.toNat)
    (wrong : ¬ Uniform params.digestSize.toNat chains) :
    fromChains params chains = .ok (reject .wrongFormat params) := by
  have found : ∃ chain ∈ chains, chain.length ≠ params.digestSize.toNat := by
    simpa [Uniform] using wrong
  simp [fromChains, count, found]

theorem fromChains_of_shape {params : Parameters} {chains : List Bytes}
    (shape : Matches params chains) :
    fromChains params chains = (do
      let size ← params.byteSize
      Size.reserve size 1
      return accept (ofBytes params chains.flatten)) := by
  have widths : ¬ ∃ chain ∈ chains, chain.length ≠ params.digestSize.toNat := by
    simpa [Uniform] using shape.widths
  simp only [fromChains, shape.count, ne_eq, not_true_eq_false, if_false, List.any_eq_true,
    decide_eq_true_eq, widths]
  rfl

theorem fromChains_of_matches {params : Parameters} {chains : List Bytes}
    (shape : Matches params chains) (room : params.product < Size.bufferLimit) :
    fromChains params chains = .ok (accept (ofBytes params chains.flatten)) := by
  have small : params.product < UInt64.size := Nat.lt_trans room Size.bufferLimit_lt
  have size : (params.chainCount * params.digestSize).toNat * 1 < Size.bufferLimit := by
    rwa [Nat.mul_one, Size.toNat_mul small]
  rw [fromChains_of_shape shape, Parameters.byteSize, Size.mul_eq_ok small]
  simp only [bind, Except.bind, Size.reserve_eq_ok size]
  rfl

theorem fromChains_of_stops {params : Parameters} {chains : List Bytes}
    (shape : Matches params chains) {fault : Fault} (stops : Size.Stops params.product fault) :
    fromChains params chains = .error fault := by
  rw [fromChains_of_shape shape, Parameters.byteSize]
  rcases stops with ⟨rfl, large⟩ | ⟨rfl, full, small⟩
  · have none := (Size.mul?_eq_none_iff _ _).mpr large
    rw [Size.mul, none]
    rfl
  · have size : Size.bufferLimit ≤ (params.chainCount * params.digestSize).toNat * 1 := by
      rwa [Nat.mul_one, Size.toNat_mul small]
    rw [Size.mul_eq_ok small]
    simp only [bind, Except.bind, Size.reserve_eq_error size]

-- A list of another shape is refused, and one of this shape is laid out if there is room for it.
theorem fromChains_cases (params : Parameters) (chains : List Bytes) :
    (¬ Matches params chains ∧ ∃ error : KeyError, error.kind = .invalidFormat ∧
      fromChains params chains = .ok (reject error params)) ∨
    (Matches params chains ∧ params.product < Size.bufferLimit ∧
      fromChains params chains = .ok (accept (ofBytes params chains.flatten))) ∨
    ∃ fault, Matches params chains ∧ Size.Stops params.product fault ∧
      fromChains params chains = .error fault := by
  by_cases count : chains.length = params.chainCount.toNat
  · by_cases widths : Uniform params.digestSize.toNat chains
    · have shape : Matches params chains := ⟨count, widths⟩
      by_cases room : params.product < Size.bufferLimit
      · exact .inr (.inl ⟨shape, room, fromChains_of_matches shape room⟩)
      · obtain ⟨fault, stops⟩ := Size.exists_stops (Nat.le_of_not_lt room)
        exact .inr (.inr ⟨fault, shape, stops, fromChains_of_stops shape stops⟩)
    · exact .inl ⟨fun shape => widths shape.widths, _, rfl, fromChains_of_width count widths⟩
  · exact .inl ⟨fun shape => count shape.count, _, rfl, fromChains_of_count count⟩

theorem fromChains_makes_iff (params : Parameters) (chains : List Bytes) (key : PublicKey) :
    Makes (fromChains params chains) key ↔
      Matches params chains ∧ params.product < Size.bufferLimit ∧
        key = ofBytes params chains.flatten := by
  rcases fromChains_cases params chains with
    ⟨other, error, -, rejected⟩ | ⟨shape, room, accepted⟩ | ⟨fault, -, stops, stopped⟩
  · rw [rejected]
    simp [other]
  · rw [accepted, makes_accept_iff]
    exact ⟨fun same => ⟨shape, room, same⟩, fun made => made.2.2⟩
  · have full : ¬ params.product < Size.bufferLimit := Nat.not_lt_of_le stops.full
    rw [stopped]
    simp [Makes, full]

theorem fromChains_eq_error_iff (params : Parameters) (chains : List Bytes) (fault : Fault) :
    fromChains params chains = .error fault ↔
      Matches params chains ∧ Size.Stops chains.flatten.length fault := by
  constructor
  · intro faulty
    rcases fromChains_cases params chains with
      ⟨-, error, -, rejected⟩ | ⟨-, -, accepted⟩ | ⟨found, shape, stops, stopped⟩
    · cases rejected.symm.trans faulty
    · cases accepted.symm.trans faulty
    · cases stopped.symm.trans faulty
      exact ⟨shape, shape.length_flatten ▸ stops⟩
  · rintro ⟨shape, stops⟩
    exact fromChains_of_stops shape (shape.length_flatten ▸ stops)

def Held (key : PublicKey) : Prop :=
  key.bytes.length < Size.bufferLimit

theorem valid_of_fromChains {params : Parameters} {chains : List Bytes} {key : PublicKey}
    (made : Makes (fromChains params chains) key) : key.Valid ∧ key.Held := by
  obtain ⟨shape, room, rfl⟩ := (fromChains_makes_iff params chains key).mp made
  have size := shape.length_flatten
  have held : chains.flatten.length < Size.bufferLimit := size ▸ room
  exact ⟨ofBytes_valid size.symm (Nat.lt_trans held Size.bufferLimit_lt), held⟩

theorem fromFlat_of_length {params : Parameters} {bytes : Bytes}
    (size : params.product = bytes.length)
    (fits : bytes.length < UInt64.size) :
    fromFlat params bytes = .silent (.ok (ofBytes params bytes)) := by
  have small : params.product < UInt64.size := size ▸ fits
  have product := (Size.toNat_mul small).trans size
  have found := (Size.mul?_eq_some_iff _ _ _).mpr (Size.toNat_mul small)
  simp only [fromFlat, found, product, if_true]
  rfl

theorem fromFlat_of_wrong {params : Parameters} {bytes : Bytes}
    (wrong : params.product < UInt64.size → params.product ≠ bytes.length) :
    fromFlat params bytes = reject .wrongSize params := by
  by_cases small : params.product < UInt64.size
  · have found := (Size.mul?_eq_some_iff _ _ _).mpr (Size.toNat_mul small)
    have other : (params.chainCount * params.digestSize).toNat ≠ bytes.length := by
      rw [Size.toNat_mul small]
      exact wrong small
    simp only [fromFlat, found, other, if_false]
  · have none := (Size.mul?_eq_none_iff _ _).mpr (Nat.le_of_not_lt small)
    simp only [fromFlat, none]

theorem fromFlat_makes_iff (params : Parameters) (bytes : Bytes) (key : PublicKey) :
    Makes (.ok (fromFlat params bytes)) key ↔
      params.product = bytes.length ∧ bytes.length < UInt64.size ∧
        key = ofBytes params bytes := by
  by_cases size : params.product = bytes.length ∧ bytes.length < UInt64.size
  · rw [fromFlat_of_length size.1 size.2]
    simp [Makes, Logged.silent, size, eq_comm]
  · rw [fromFlat_of_wrong fun product same => size ⟨same, same ▸ product⟩]
    simp only [not_makes_reject, false_iff]
    exact fun made => size ⟨made.1, made.2.1⟩

theorem valid_of_fromFlat {params : Parameters} {bytes : Bytes} {key : PublicKey}
    (made : Makes (.ok (fromFlat params bytes)) key) : key.Valid := by
  obtain ⟨size, fits, rfl⟩ := (fromFlat_makes_iff params bytes key).mp made
  exact ofBytes_valid size fits

section Presence

variable {α : Type}

@[simp] theorem allPresent_map_some (values : List α) :
    allPresent (values.map some) = some values := by
  induction values with
  | nil => rfl
  | cons value rest ih => simp [allPresent, ih]

theorem allPresent_eq_some_iff (list : List (Option α)) (values : List α) :
    allPresent list = some values ↔ list = values.map some := by
  constructor
  · intro found
    induction list generalizing values with
    | nil => cases found; rfl
    | cons head rest ih =>
      cases head with
      | none => cases found
      | some value =>
        obtain ⟨others, tail, rfl⟩ := Option.map_eq_some_iff.mp found
        rw [ih others tail, List.map_cons]
  · rintro rfl
    exact allPresent_map_some values

theorem allPresent_eq_none_iff (list : List (Option α)) : allPresent list = none ↔ none ∈ list := by
  induction list with
  | nil => simp [allPresent]
  | cons head rest ih => cases head <;> simp [allPresent, ih]

end Presence

def weight (chains : Option (List (Option Bytes))) : Nat :=
  ((chains.getD []).filterMap id).flatten.length

@[simp] theorem weight_map_some (chains : List Bytes) :
    weight (some (chains.map some)) = chains.flatten.length := by
  simp [weight]

theorem create_of_all_present (params : Parameters) (chains : List Bytes) :
    create (some params) (some (chains.map some)) = fromChains params chains := by
  simp [create]

end PublicKey

end Winternitz
