import Winternitz.Workbench
import Winternitz.Proofs.Exporting

set_option autoImplicit false

namespace Winternitz

namespace PublicKey

variable {key : PublicKey}

theorem block_eq_extract (key : PublicKey) (index : Nat) :
    key.block index =
      key.bytes.extract (index * key.digestSize.toNat) ((index + 1) * key.digestSize.toNat) := by
  rw [List.extract_eq_take_drop, Nat.succ_mul, Nat.add_sub_cancel_left, block, Blocks.block]

theorem Valid.chain?_of_lt (valid : key.Valid) {index : UInt64} (inside : index < key.chainCount) :
    key.chain? index = .ok (some (key.block index.toNat)) := by
  rw [valid.chain?_eq, if_pos inside]

theorem Valid.chain?_of_le (valid : key.Valid) {index : UInt64} (outside : key.chainCount ≤ index) :
    key.chain? index = .ok none := by
  rw [valid.chain?_eq, if_neg (UInt64.not_lt.mpr outside)]

theorem Valid.chain?_eq_some_iff (valid : key.Valid) (index : UInt64) (chain : Bytes) :
    key.chain? index = .ok (some chain) ↔
      index < key.chainCount ∧ chain = key.block index.toNat := by
  by_cases inside : index < key.chainCount
  next => simp [valid.chain?_of_lt inside, inside, eq_comm]
  next => simp [valid.chain?_of_le (UInt64.not_lt.mp inside), inside]

theorem getElem?_blocks (key : PublicKey) (index : Nat) :
    key.blocks[index]? = if index < key.chainCount.toNat then some (key.block index) else none := by
  by_cases inside : index < key.chainCount.toNat
  next => simp [blocks, Blocks.blocks, block, inside]
  next => simp [blocks, Blocks.blocks, inside]

theorem Valid.chain?_eq_getElem? (valid : key.Valid) (index : UInt64) :
    key.chain? index = .ok key.blocks[index.toNat]? := by
  simp only [valid.chain?_eq, getElem?_blocks, UInt64.lt_iff_toNat_lt]

theorem Valid.window_eq_drop_take (valid : key.Valid) (skip take : Nat) :
    key.window skip take = .ok ((key.blocks.drop skip).take take) := by
  rw [valid.window_eq, Except.ok.injEq]
  apply List.ext_getElem?
  intro offset
  rw [List.getElem?_map, List.getElem?_take, List.getElem?_drop, getElem?_blocks]
  by_cases inside : offset < min take (key.chainCount.toNat - skip)
  next =>
    have taken : offset < take := by omega
    have counted : skip + offset < key.chainCount.toNat := by omega
    rw [List.getElem?_range' inside, if_pos taken, if_pos counted, Nat.one_mul, Option.map_some]
  next =>
    have none : (List.range' skip (min take (key.chainCount.toNat - skip)))[offset]? = none := by
      simpa using inside
    rw [none, Option.map_none]
    by_cases taken : offset < take
    next => rw [if_pos taken, if_neg (by omega)]
    next => rw [if_neg taken]

-- The sum is taken in the natural numbers, so an end past the sizes takes what there is.
theorem length_items (key : PublicKey) (skip take : Nat) :
    ((key.blocks.drop skip).take take).length =
      min (skip + take) key.chainCount.toNat - skip := by
  rw [List.length_take, List.length_drop, length_blocks]
  omega

theorem Valid.chain?_of_item (valid : key.Valid) {skip take : Nat} {index : UInt64}
    (first : skip ≤ index.toNat) (last : index.toNat < skip + take) :
    key.chain? index = .ok ((key.blocks.drop skip).take take)[index.toNat - skip]? := by
  have taken : index.toNat - skip < take := by omega
  have place : skip + (index.toNat - skip) = index.toNat := by omega
  rw [valid.chain?_eq_getElem?, List.getElem?_take, if_pos taken, List.getElem?_drop, place]

end PublicKey

theorem Workbench.step_window {bench : Workbench} {name : String} {key : PublicKey}
    (held : bench.key name = .ok key) {skip take : Nat} {items : List Bytes}
    (listed : key.window skip take = .ok items) :
    bench.step (.window name skip take) =
      .ok (bench, .silent (.ok (.window key.chainCount items))) := by
  simp only [step, view, withKey, held, listed, bind, Except.bind]
  rfl

namespace PublicKey

end PublicKey

end Winternitz
