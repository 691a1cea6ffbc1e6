import Winternitz.PublicKey
import Winternitz.Proofs.Blocks

set_option autoImplicit false

namespace Winternitz.PublicKey

open Blocks

theorem mapM_eq_ok {α β : Type} {f : α → Checked β} {g : α → β} {items : List α}
    (each : ∀ item ∈ items, f item = .ok (g item)) : items.mapM f = .ok (items.map g) := by
  induction items with
  | nil => rfl
  | cons item rest ih =>
    have head := each item (by simp)
    have tail := ih fun other member => each other (by simp [member])
    rw [List.mapM_cons, head, tail]
    rfl

def block (key : PublicKey) (index : Nat) : Bytes :=
  Blocks.block key.digestSize.toNat key.bytes index

def blocks (key : PublicKey) : List Bytes :=
  Blocks.blocks key.digestSize.toNat key.chainCount.toNat key.bytes

theorem Valid.end_le {key : PublicKey} (valid : key.Valid) {index : Nat}
    (inside : index < key.chainCount.toNat) :
    index * key.digestSize.toNat + key.digestSize.toNat ≤ key.bytes.length := by
  rw [← valid.1]
  exact Blocks.end_le inside

theorem Valid.length_block {key : PublicKey} (valid : key.Valid) {index : Nat}
    (inside : index < key.chainCount.toNat) : (key.block index).length = key.digestSize.toNat :=
  Blocks.length_block valid.1 inside

@[simp] theorem length_blocks (key : PublicKey) : key.blocks.length = key.chainCount.toNat := by
  simp [blocks]

theorem Valid.flatten_blocks {key : PublicKey} (valid : key.Valid) :
    key.blocks.flatten = key.bytes :=
  Blocks.flatten_blocks valid.1

theorem Valid.blocks_uniform {key : PublicKey} (valid : key.Valid) :
    Uniform key.digestSize.toNat key.blocks :=
  Blocks.blocks_uniform valid.1

theorem Valid.chainAt_eq {key : PublicKey} (valid : key.Valid) {index : UInt64}
    (inside : index < key.chainCount) : key.chainAt index = .ok (key.block index.toNat) := by
  have stop := valid.end_le (UInt64.lt_iff_toNat_lt.mp inside)
  have room := valid.2
  have product : index.toNat * key.digestSize.toNat < UInt64.size := by omega
  have start := Size.toNat_mul product
  have sum : (index * key.digestSize).toNat + key.digestSize.toNat < UInt64.size := by omega
  have after := Size.toNat_add sum
  have order : index * key.digestSize ≤ index * key.digestSize + key.digestSize := by
    rw [UInt64.le_iff_toNat_le, after]
    exact Nat.le_add_right _ _
  simp only [chainAt, Size.mul_eq_ok product, Size.add_eq_ok sum, bind, Except.bind]
  rw [Size.slice_eq_ok order (by omega), after, start, Nat.add_sub_cancel_left]
  rfl

theorem Valid.chain?_eq {key : PublicKey} (valid : key.Valid) (index : UInt64) :
    key.chain? index =
      .ok (if index < key.chainCount then some (key.block index.toNat) else none) := by
  by_cases inside : index < key.chainCount
  · simp [chain?, UInt64.not_le.mpr inside, valid.chainAt_eq inside, inside, Functor.map, Except.map]
  · simp [chain?, UInt64.not_lt.mp inside, inside]

theorem Valid.window_eq {key : PublicKey} (valid : key.Valid) (skip take : Nat) :
    key.window skip take =
      .ok ((List.range' skip (min take (key.chainCount.toNat - skip))).map key.block) := by
  refine mapM_eq_ok fun index member => ?_
  have inside : index < key.chainCount.toNat := by
    have := List.mem_range'_1.mp member
    omega
  have small : index < UInt64.size := Nat.lt_trans inside key.chainCount.toNat_lt
  have same : (UInt64.ofNat index).toNat = index := UInt64.toNat_ofNat_of_lt small
  rw [valid.chainAt_eq (by rwa [UInt64.lt_iff_toNat_lt, same]), same]

theorem Valid.window_all {key : PublicKey} (valid : key.Valid) :
    key.window 0 key.chainCount.toNat = .ok key.blocks := by
  rw [valid.window_eq, Nat.sub_zero, Nat.min_self, ← List.range_eq_range']
  rfl

/-- There is room for a list of all chains. A key of empty chains may have more than that. -/
def Listable (key : PublicKey) : Prop :=
  key.chainCount.toNat * handleSize < Size.bufferLimit

instance (key : PublicKey) : Decidable key.Listable :=
  inferInstanceAs (Decidable (_ < _))

theorem Valid.toChains_eq {key : PublicKey} (valid : key.Valid) (listable : key.Listable) :
    key.toChains = .ok key.blocks := by
  rw [toChains, Size.reserve_eq_ok listable]
  exact valid.window_all

theorem toChains_of_not_listable {key : PublicKey} (full : ¬ key.Listable) :
    key.toChains = .error .capacityOverflow := by
  rw [toChains, Size.reserve_eq_error (Nat.le_of_not_lt full)]
  rfl

section Listing

variable {key : PublicKey} {α : Type} (view : List Bytes → α)

theorem listing_of_not_listable (full : ¬ key.Listable) :
    (key.toChains >>= fun chains => pure (view chains)) = .error .capacityOverflow := by
  rw [toChains_of_not_listable full]
  rfl

theorem Valid.listing_eq_ok_iff (valid : key.Valid) (shown : α) :
    (key.toChains >>= fun chains => pure (view chains)) = .ok shown ↔
      key.Listable ∧ shown = view key.blocks := by
  by_cases listable : key.Listable
  next => simp [valid.toChains_eq listable, listable, bind, Except.bind, pure, Except.pure, eq_comm]
  next => simp [listing_of_not_listable view listable, listable]

end Listing

end Winternitz.PublicKey
