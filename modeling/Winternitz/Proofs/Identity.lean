import Mathlib.Data.Finset.Card
import Mathlib.Data.List.TFAE
import Mathlib.Tactic.TFAE
import Winternitz.Proofs.Descriptions
import Winternitz.Proofs.Exporting
import Winternitz.Proofs.RoundTrip
import Winternitz.Workbench

set_option autoImplicit false

namespace Winternitz.PublicKey

def content (key : PublicKey) : UInt64 × UInt64 × Bytes :=
  (key.chainCount, key.digestSize, key.bytes)

theorem content_injective : Function.Injective content := by
  intro key other same
  simp only [content, Prod.mk.injEq] at same
  rw [PublicKey.mk.injEq]
  exact ⟨same.2.2, same.1, same.2.1⟩

structure Shown (key : PublicKey) (document : Document) (inline full : String) : Prop where
  document : Document.ofKey key = .ok document
  inline : key.describe = .ok inline
  full : key.describeInFull = .ok full

theorem Valid.exists_shown {key : PublicKey} (valid : key.Valid) (listable : key.Listable) :
    ∃ document inline full, Shown key document inline full :=
  ⟨_, _, _, (Document.ofKey_eq_ok_iff valid _).mpr ⟨listable, rfl⟩,
    (valid.describe_eq_ok_iff _).mpr ⟨listable, rfl⟩,
    (valid.describeInFull_eq_ok_iff _).mpr ⟨listable, rfl⟩⟩

theorem eq_of_chains {key other : PublicKey} (valid : key.Valid) (validOther : other.Valid)
    (counts : key.chainCount = other.chainCount) (sizes : key.digestSize = other.digestSize)
    (same : ∀ index, key.chain? index = other.chain? index) : key = other := by
  have each : ∀ index ∈ List.range key.chainCount.toNat, key.block index = other.block index := by
    intro index member
    have inside := List.mem_range.mp member
    have small : index < UInt64.size := Nat.lt_trans inside key.chainCount.toNat_lt
    have word : (UInt64.ofNat index).toNat = index := UInt64.toNat_ofNat_of_lt small
    have below : UInt64.ofNat index < key.chainCount := by rwa [UInt64.lt_iff_toNat_lt, word]
    have chains := same (UInt64.ofNat index)
    rw [valid.chain?_eq, validOther.chain?_eq, if_pos below, if_pos (counts ▸ below),
      word] at chains
    exact Option.some.inj (Except.ok.inj chains)
  apply eq_of_blocks valid validOther (by rw [parameters, parameters, counts, sizes])
  calc key.blocks
    _ = (List.range key.chainCount.toNat).map key.block := rfl
    _ = (List.range key.chainCount.toNat).map other.block := List.map_congr_left each
    _ = other.blocks := by rw [counts]; rfl

theorem eq_of_document {key other : PublicKey} (valid : key.Valid) (validOther : other.Valid)
    {document : Document} (shown : Document.ofKey key = .ok document)
    (shownOther : Document.ofKey other = .ok document) : key = other := by
  obtain ⟨-, rfl⟩ := (Document.ofKey_eq_ok_iff valid document).mp shown
  obtain ⟨-, same⟩ := (Document.ofKey_eq_ok_iff validOther _).mp shownOther
  obtain ⟨params, texts⟩ := Document.mk.inj same
  have encoded := List.map_injective_iff.mpr (Option.some_injective _) (Option.some.inj texts)
  exact eq_of_blocks valid validOther (Option.some.inj params)
    (List.map_injective_iff.mpr Hex.encode_injective encoded)

theorem tfae_of_valid {key other : PublicKey} (valid : key.Valid) (validOther : other.Valid) :
    [key = other,
      key.chainCount = other.chainCount ∧ key.digestSize = other.digestSize ∧
        key.bytes = other.bytes,
      key.chainCount = other.chainCount ∧ key.digestSize = other.digestSize ∧
        ∀ index, key.chain? index = other.chain? index].TFAE := by
  tfae_have 1 → 2
  | rfl => ⟨rfl, rfl, rfl⟩
  tfae_have 2 → 1
  | ⟨counts, sizes, bytes⟩ => by
    rw [PublicKey.mk.injEq]
    exact ⟨bytes, counts, sizes⟩
  tfae_have 1 → 3
  | rfl => ⟨rfl, rfl, fun _ => rfl⟩
  tfae_have 3 → 1
  | ⟨counts, sizes, chains⟩ => eq_of_chains valid validOther counts sizes chains
  tfae_finish

theorem tfae_of_shown {key other : PublicKey} (valid : key.Valid) (validOther : other.Valid)
    {document otherDocument : Document} {inline full otherInline otherFull : String}
    (shown : Shown key document inline full)
    (shownOther : Shown other otherDocument otherInline otherFull) :
    [key = other,
      key.chainCount = other.chainCount ∧ key.digestSize = other.digestSize ∧
        key.bytes = other.bytes,
      key.chainCount = other.chainCount ∧ key.digestSize = other.digestSize ∧
        ∀ index, key.chain? index = other.chain? index,
      document = otherDocument,
      document.toText = otherDocument.toText,
      inline = otherInline,
      full = otherFull].TFAE := by
  tfae_have 1 ↔ 2 := (tfae_of_valid valid validOther).out 0 1
  tfae_have 1 ↔ 3 := (tfae_of_valid valid validOther).out 0 2
  tfae_have 1 → 4
  | rfl => Except.ok.inj (shown.document.symm.trans shownOther.document)
  tfae_have 4 → 5
  | rfl => rfl
  tfae_have 5 → 4
  | texts => Document.toText_injective texts
  tfae_have 4 → 1
  | rfl => eq_of_document valid validOther shown.document shownOther.document
  tfae_have 1 → 6
  | rfl => Except.ok.inj (shown.inline.symm.trans shownOther.inline)
  tfae_have 6 → 1
  | rfl => describe_unique valid validOther shown.inline shownOther.inline
  tfae_have 1 → 7
  | rfl => Except.ok.inj (shown.full.symm.trans shownOther.full)
  tfae_have 7 → 1
  | rfl => describeInFull_unique valid validOther shown.full shownOther.full
  tfae_finish

section Distinct

variable {α β : Type} [DecidableEq α] [DecidableEq β]

theorem nodup_eraseDups (list : List α) : list.eraseDups.Nodup := by
  cases list with
  | nil => simp
  | cons head rest =>
    rw [List.eraseDups_cons, List.nodup_cons, List.mem_eraseDups]
    constructor
    · simp
    · exact nodup_eraseDups _
termination_by list.length
decreasing_by
  exact Nat.lt_succ_of_le (List.length_filter_le _ _)

theorem length_eraseDups (list : List α) : list.eraseDups.length = list.toFinset.card := by
  rw [← List.toFinset_card_of_nodup (nodup_eraseDups list)]
  congr 1
  ext value
  simp

theorem size_ofList [Hashable α] (list : List α) :
    (Std.HashSet.ofList list).size = list.toFinset.card := by
  have nodup : (Std.HashSet.ofList list).toList.Nodup :=
    Std.HashSet.distinct_toList.imp fun differ => by simpa using differ
  rw [← Std.HashSet.length_toList, ← List.toFinset_card_of_nodup nodup]
  congr 1
  ext value
  simp

theorem card_map {f : α → β} (injective : Function.Injective f) (list : List α) :
    (list.map f).toFinset.card = list.toFinset.card := by
  have image : (list.map f).toFinset = list.toFinset.image f := by
    ext value
    simp
  rw [image, Finset.card_image_of_injective _ injective]

end Distinct

def twoByFour : PublicKey := ⟨[1, 2, 3, 4, 5, 6, 7, 8], 2, 4⟩

def fourByTwo : PublicKey := ⟨[1, 2, 3, 4, 5, 6, 7, 8], 4, 2⟩

end Winternitz.PublicKey
