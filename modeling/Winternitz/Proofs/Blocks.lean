import Winternitz.Size

set_option autoImplicit false

namespace Winternitz.Blocks

def block (width : Nat) (bytes : Bytes) (index : Nat) : Bytes :=
  (bytes.drop (index * width)).take width

def blocks (width count : Nat) (bytes : Bytes) : List Bytes :=
  (List.range count).map (block width bytes)

def Uniform (width : Nat) (chains : List Bytes) : Prop :=
  ∀ chain ∈ chains, chain.length = width

@[simp] theorem length_blocks (width count : Nat) (bytes : Bytes) :
    (blocks width count bytes).length = count := by
  simp [blocks]

theorem end_le {width count index : Nat} (inside : index < count) :
    index * width + width ≤ count * width := by
  rw [← Nat.succ_mul]
  exact Nat.mul_le_mul_right width inside

theorem length_block {width count index : Nat} {bytes : Bytes}
    (size : count * width = bytes.length) (inside : index < count) :
    (block width bytes index).length = width := by
  have stop : index * width + width ≤ count * width := end_le inside
  simp only [block, List.length_take, List.length_drop]
  omega

theorem blocks_uniform {width count : Nat} {bytes : Bytes}
    (size : count * width = bytes.length) : Uniform width (blocks width count bytes) := by
  intro chain member
  obtain ⟨index, inside, rfl⟩ := List.mem_map.mp member
  exact length_block size (List.mem_range.mp inside)

theorem blocks_succ (width count : Nat) (bytes : Bytes) :
    blocks width (count + 1) bytes = bytes.take width :: blocks width count (bytes.drop width) := by
  have shift (index : Nat) :
      block width bytes (index + 1) = block width (bytes.drop width) index := by
    simp only [block, List.drop_drop, Nat.succ_mul, Nat.add_comm]
  simp only [blocks, List.range_succ_eq_map, List.map_cons, List.map_map]
  congr 1
  · simp [block]
  · exact List.map_congr_left fun index _ => shift index

theorem length_flatten {width : Nat} {chains : List Bytes} (uniform : Uniform width chains) :
    chains.flatten.length = chains.length * width := by
  induction chains with
  | nil => simp
  | cons chain rest ih =>
    have head := uniform chain (by simp)
    have tail := ih fun other member => uniform other (by simp [member])
    simp only [List.flatten_cons, List.length_append, List.length_cons, Nat.succ_mul, head, tail]
    omega

theorem flatten_blocks {width count : Nat} {bytes : Bytes}
    (size : count * width = bytes.length) : (blocks width count bytes).flatten = bytes := by
  induction count generalizing bytes with
  | zero =>
    have empty : bytes = [] := List.eq_nil_of_length_eq_zero (by omega)
    simp [blocks, empty]
  | succ count ih =>
    have rest : count * width = (bytes.drop width).length := by
      rw [List.length_drop, ← size, Nat.succ_mul]
      omega
    rw [blocks_succ, List.flatten_cons, ih rest, List.take_append_drop]

theorem blocks_flatten {width : Nat} {chains : List Bytes} (uniform : Uniform width chains) :
    blocks width chains.length chains.flatten = chains := by
  induction chains with
  | nil => rfl
  | cons chain rest ih =>
    have head := uniform chain (by simp)
    have tail := ih fun other member => uniform other (by simp [member])
    rw [List.length_cons, blocks_succ, List.flatten_cons, ← head, List.take_left, List.drop_left,
      head, tail]

-- Without the count the empty blocks of a width of zero could not be told apart.
theorem eq_blocks {width count : Nat} {chains : List Bytes} {bytes : Bytes}
    (length : chains.length = count) (uniform : Uniform width chains)
    (flat : chains.flatten = bytes) : chains = blocks width count bytes := by
  rw [← length, ← flat, blocks_flatten uniform]

end Winternitz.Blocks
