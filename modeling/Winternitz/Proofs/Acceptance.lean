import Winternitz.Proofs.Representations

set_option autoImplicit false

namespace Winternitz.PublicKey

open Blocks

def checkOrder : List KeyError :=
  [.paramsAbsent, .keyAbsent, .elementAbsent, .wrongSize, .wrongFormat]

def Applies (params : Option Parameters) (chains : Option (List (Option Bytes))) : KeyError → Prop
  | .paramsAbsent => params = none
  | .keyAbsent => chains = none
  | .elementAbsent => ∃ list ∈ chains, none ∈ list
  | .wrongSize => ∃ given ∈ params, ∃ list ∈ chains, list.length ≠ given.chainCount.toNat
  | .wrongFormat =>
    ∃ given ∈ params, ∃ list ∈ chains, ∃ element ∈ list, ∃ chain ∈ element,
      chain.length ≠ given.digestSize.toNat

instance (params : Option Parameters) (chains : Option (List (Option Bytes))) :
    DecidablePred (Applies params chains)
  | .paramsAbsent => inferInstanceAs (Decidable (params = none))
  | .keyAbsent => inferInstanceAs (Decidable (chains = none))
  | .elementAbsent => inferInstanceAs (Decidable (∃ list ∈ chains, none ∈ list))
  | .wrongSize =>
    inferInstanceAs (Decidable
      (∃ given ∈ params, ∃ list ∈ chains, list.length ≠ given.chainCount.toNat))
  | .wrongFormat =>
    inferInstanceAs (Decidable
      (∃ given ∈ params, ∃ list ∈ chains, ∃ element ∈ list, ∃ chain ∈ element,
        chain.length ≠ given.digestSize.toNat))

def firstError? (params : Option Parameters) (chains : Option (List (Option Bytes))) :
    Option KeyError :=
  checkOrder.find? fun error => Applies params chains error

theorem firstError?_eq_none_iff (params : Option Parameters)
    (chains : Option (List (Option Bytes))) :
    firstError? params chains = none ↔ ∀ error, ¬ Applies params chains error := by
  have all (error : KeyError) : error ∈ checkOrder := by
    cases error <;> simp [checkOrder]
  rw [firstError?, List.find?_eq_none]
  constructor
  · intro none error
    simpa using none error (all error)
  · intro none error _
    simpa using none error

theorem firstError?_of_no_params (chains : Option (List (Option Bytes))) :
    firstError? none chains = some .paramsAbsent := rfl

theorem firstError?_of_no_list (params : Parameters) :
    firstError? (some params) none = some .keyAbsent := rfl

theorem firstError?_of_null (params : Parameters) {list : List (Option Bytes)}
    (null : none ∈ list) : firstError? (some params) (some list) = some .elementAbsent := by
  simp [firstError?, checkOrder, Applies, null]

section Shape

variable {params : Parameters} {chains : List Bytes}

theorem not_applies_absence (params : Parameters) (chains : List Bytes) :
    ¬ Applies (some params) (some (chains.map some)) .paramsAbsent ∧
      ¬ Applies (some params) (some (chains.map some)) .keyAbsent ∧
      ¬ Applies (some params) (some (chains.map some)) .elementAbsent := by
  simp [Applies]

theorem applies_wrongSize_iff (params : Parameters) (chains : List Bytes) :
    Applies (some params) (some (chains.map some)) .wrongSize ↔
      chains.length ≠ params.chainCount.toNat := by
  simp [Applies]

theorem applies_wrongFormat_iff (params : Parameters) (chains : List Bytes) :
    Applies (some params) (some (chains.map some)) .wrongFormat ↔
      ¬ Uniform params.digestSize.toNat chains := by
  constructor
  · rintro ⟨_, ⟨⟩, _, ⟨⟩, element, member, chain, rfl, wrong⟩ uniform
    exact wrong (uniform chain (by simpa using member))
  · intro wrong
    obtain ⟨chain, member, width⟩ :
        ∃ chain ∈ chains, chain.length ≠ params.digestSize.toNat := by
      simpa [Uniform] using wrong
    exact ⟨params, rfl, _, rfl, some chain, List.mem_map_of_mem member, chain, rfl, width⟩

theorem firstError?_of_count (wrong : chains.length ≠ params.chainCount.toNat) :
    firstError? (some params) (some (chains.map some)) = some .wrongSize := by
  obtain ⟨given, listed, full⟩ := not_applies_absence params chains
  have count := (applies_wrongSize_iff params chains).mpr wrong
  simp [firstError?, checkOrder, given, listed, full, count]

theorem firstError?_of_width (count : chains.length = params.chainCount.toNat)
    (wrong : ¬ Uniform params.digestSize.toNat chains) :
    firstError? (some params) (some (chains.map some)) = some .wrongFormat := by
  obtain ⟨given, listed, full⟩ := not_applies_absence params chains
  have counted : ¬ Applies (some params) (some (chains.map some)) .wrongSize := by
    simpa [applies_wrongSize_iff] using count
  have width := (applies_wrongFormat_iff params chains).mpr wrong
  simp [firstError?, checkOrder, given, listed, full, counted, width]

theorem firstError?_of_matches (shape : Matches params chains) :
    firstError? (some params) (some (chains.map some)) = none := by
  obtain ⟨given, listed, full⟩ := not_applies_absence params chains
  rw [firstError?_eq_none_iff]
  intro error applies
  cases error with
  | paramsAbsent => exact given applies
  | keyAbsent => exact listed applies
  | elementAbsent => exact full applies
  | wrongSize => exact (applies_wrongSize_iff params chains).mp applies shape.count
  | wrongFormat => exact (applies_wrongFormat_iff params chains).mp applies shape.widths

end Shape

def Refuses (verdict : Checked Verdict) (error : KeyError) : Prop :=
  ∃ events, verdict = .ok ⟨.error error, events⟩

@[simp] theorem refuses_reject_iff (found error : KeyError) (params : Parameters) :
    Refuses (.ok (reject found params)) error ↔ error = found := by
  simp [Refuses, reject, eq_comm]

@[simp] theorem not_refuses_accept (key : PublicKey) (error : KeyError) :
    ¬ Refuses (.ok (accept key)) error := by
  rintro ⟨events, same⟩
  simp [accept] at same

-- Either the first error that applies is reported under the given dimensions, or none applies.
theorem create_cases (params : Option Parameters) (chains : Option (List (Option Bytes))) :
    (∃ error, firstError? params chains = some error ∧
      create params chains = .ok (reject error (params.getD ⟨0, 0⟩))) ∨
    ∃ given list, params = some given ∧ chains = some (list.map some) ∧ Matches given list ∧
      firstError? params chains = none := by
  cases params with
  | none => exact .inl ⟨_, firstError?_of_no_params chains, rfl⟩
  | some params =>
    cases chains with
    | none => exact .inl ⟨_, firstError?_of_no_list params, rfl⟩
    | some list =>
      cases found : allPresent list with
      | none =>
        have null := (allPresent_eq_none_iff list).mp found
        refine .inl ⟨_, firstError?_of_null params null, ?_⟩
        simp [create, found]
      | some present =>
        obtain rfl := (allPresent_eq_some_iff list present).mp found
        rw [create_of_all_present]
        by_cases count : present.length = params.chainCount.toNat
        · by_cases widths : Uniform params.digestSize.toNat present
          · have shape : Matches params present := ⟨count, widths⟩
            exact .inr ⟨params, present, rfl, rfl, shape, firstError?_of_matches shape⟩
          · exact .inl ⟨_, firstError?_of_width count widths, fromChains_of_width count widths⟩
        · exact .inl ⟨_, firstError?_of_count count, fromChains_of_count count⟩

section Outcomes

variable (params : Option Parameters) (chains : Option (List (Option Bytes)))

theorem create_refuses_iff (error : KeyError) :
    Refuses (create params chains) error ↔ firstError? params chains = some error := by
  rcases create_cases params chains with
    ⟨found, first, rejected⟩ | ⟨given, list, rfl, rfl, shape, none⟩
  · rw [rejected, refuses_reject_iff, first, Option.some.injEq, eq_comm]
  · rw [create_of_all_present, none]
    rcases fromChains_cases given list with
      ⟨other, -⟩ | ⟨-, -, accepted⟩ | ⟨fault, -, -, stopped⟩
    · exact absurd shape other
    · simp [accepted]
    · simp [stopped, Refuses]

theorem create_makes_iff :
    (∃ key, Makes (create params chains) key) ↔
      firstError? params chains = none ∧ weight chains < Size.bufferLimit := by
  rcases create_cases params chains with
    ⟨found, first, rejected⟩ | ⟨given, list, rfl, rfl, shape, none⟩
  · simp [rejected, first]
  · rw [create_of_all_present, none, weight_map_some, shape.length_flatten]
    simp [fromChains_makes_iff, shape]

theorem create_eq_error_iff (fault : Fault) :
    create params chains = .error fault ↔
      firstError? params chains = none ∧ Size.Stops (weight chains) fault := by
  rcases create_cases params chains with
    ⟨found, first, rejected⟩ | ⟨given, list, rfl, rfl, shape, none⟩
  · simp [rejected, first]
  · rw [create_of_all_present, none, weight_map_some, fromChains_eq_error_iff]
    simp [shape]

theorem exists_chains_of_create {key : PublicKey} (made : Makes (create params chains) key) :
    ∃ list, chains = some (list.map some) ∧ params = some key.parameters ∧
      Makes (fromChains key.parameters list) key := by
  rcases create_cases params chains with
    ⟨found, -, rejected⟩ | ⟨given, list, rfl, rfl, -, -⟩
  · simp [rejected] at made
  · rw [create_of_all_present] at made
    obtain ⟨-, -, rfl⟩ := (fromChains_makes_iff given list key).mp made
    exact ⟨list, rfl, rfl, made⟩

end Outcomes

def threeDefects : List (Option Bytes) := [some [5, 6], none]

def overlongChain : Bytes := List.replicate 9223372036854775808 0

theorem matches_overlongChain : Matches ⟨1, 9223372036854775808⟩ [overlongChain] where
  count := rfl
  widths := by
    intro chain member
    rw [List.mem_singleton.mp member, overlongChain, List.length_replicate]
    rfl

theorem create_stops_at_overlongChain :
    (∀ error, ¬ Applies (some ⟨1, 9223372036854775808⟩) (some [some overlongChain]) error) ∧
      weight (some [some overlongChain]) < UInt64.size ∧
      create (some ⟨1, 9223372036854775808⟩) (some [some overlongChain]) =
        .error .capacityOverflow := by
  have shape := matches_overlongChain
  have weighs : weight (some ([overlongChain].map some)) = 9223372036854775808 := by
    rw [weight_map_some, shape.length_flatten]
    rfl
  have none := firstError?_of_matches shape
  have stops : Size.Stops (weight (some ([overlongChain].map some))) .capacityOverflow := by
    rw [weighs]
    exact .inr ⟨rfl, by decide, by decide⟩
  refine ⟨(firstError?_eq_none_iff _ _).mp none, ?_, (create_eq_error_iff _ _ _).mpr ⟨none, stops⟩⟩
  exact Nat.lt_of_le_of_lt (Nat.le_of_eq weighs) (by decide)

theorem create_of_empty_chains (count : UInt64) :
    Makes (create (some ⟨count, 0⟩) (some ((List.replicate count.toNat []).map some)))
      ⟨[], count, 0⟩ := by
  have shape : Matches ⟨count, 0⟩ (List.replicate count.toNat []) := by
    refine ⟨List.length_replicate, fun chain member => ?_⟩
    rw [List.eq_of_mem_replicate member]
    rfl
  have room : (⟨count, 0⟩ : Parameters).product < Size.bufferLimit := by
    simp [Parameters.product, Size.bufferLimit]
  rw [create_of_all_present, fromChains_of_matches shape room, makes_accept_iff, ofBytes]
  simp

end Winternitz.PublicKey
