import Winternitz.Proofs.HexText

set_option autoImplicit false

namespace Winternitz.Hex

def IsDigit (c : Char) : Prop :=
  ('0' ≤ c ∧ c ≤ '9') ∨ ('a' ≤ c ∧ c ≤ 'f') ∨ ('A' ≤ c ∧ c ≤ 'F')

instance (c : Char) : Decidable (IsDigit c) :=
  inferInstanceAs (Decidable (_ ∨ _ ∨ _))

theorem isDigit_iff (c : Char) : IsDigit c ↔ ∃ value, value? c = some value := by
  unfold IsDigit value?
  split
  next decimal => simp [decimal]
  next =>
    split
    next lower => simp [lower]
    next => split <;> simp_all

theorem ascii_of_value {c : Char} {value : Nat} (found : value? c = some value) :
    c.toNat < 128 := by
  refine Decidable.byContradiction fun large => ?_
  have after : 'f' < c := by
    rw [Char.lt_def, UInt32.lt_iff_toNat_lt]
    exact Nat.lt_of_lt_of_le (by decide) (Nat.le_of_not_lt large)
  rw [value?_of_after after] at found
  cases found

theorem ascii_of_toLower {c : Char} {value : Nat} (below : value < 16)
    (lower : c.toLower = digit value) : c.toNat < 128 := by
  have ascii : ∀ value < 16, (digit value).toNat < 128 := by decide
  by_cases upper : c.val ≥ 'A'.val ∧ c.val ≤ 'Z'.val
  · exact Nat.lt_of_le_of_lt (UInt32.le_iff_toNat_le.mp upper.2) (by decide)
  · have unchanged : c.toLower = c := dif_neg upper
    rw [← unchanged, lower]
    exact ascii value below

theorem value?_eq_some_iff (c : Char) (value : Nat) :
    value? c = some value ↔ value < 16 ∧ c.toLower = digit value := by
  have bound : ∀ code < 128, ∀ value ∈ value? (Char.ofNat code), value < 16 := by decide
  have same : ∀ code < 128, ∀ value < 16,
      value? (Char.ofNat code) = some value ↔ (Char.ofNat code).toLower = digit value := by
    decide
  constructor
  · intro found
    have ascii := ascii_of_value found
    have below : value < 16 := bound c.toNat ascii value (by rwa [Char.ofNat_toNat])
    have lower := same c.toNat ascii value below
    rw [Char.ofNat_toNat] at lower
    exact ⟨below, lower.mp found⟩
  · rintro ⟨below, lower⟩
    have found := same c.toNat (ascii_of_toLower below lower) value below
    rw [Char.ofNat_toNat] at found
    exact found.mpr lower

theorem toLower_digit : ∀ value < 16, (digit value).toLower = digit value := by
  decide

theorem isDigit_digit {value : Nat} (below : value < 16) : IsDigit (digit value) :=
  (isDigit_iff _).mpr ⟨value, (value?_eq_some_iff _ _).mpr ⟨below, toLower_digit value below⟩⟩

theorem utf8EncodeChar_of_ascii {c : Char} (ascii : c.toNat < 128) :
    String.utf8EncodeChar c = [UInt8.ofNat c.toNat] := by
  have small : c.val.toNat ≤ 127 := Nat.le_of_lt_succ ascii
  rw [String.utf8EncodeChar, if_pos small]
  rfl

theorem byteValue?_of_ascii {c : Char} (ascii : c.toNat < 128) :
    byteValue? (UInt8.ofNat c.toNat) = value? c := by
  have same : (UInt8.ofNat c.toNat).toNat = c.toNat :=
    UInt8.toNat_ofNat_of_lt' (Nat.lt_trans ascii (by decide))
  rw [byteValue?, same, Char.ofNat_toNat]

theorem isDigit_of_bytes {c : Char}
    (digits : ∀ byte ∈ String.utf8EncodeChar c, ∃ value, byteValue? byte = some value) :
    IsDigit c := by
  have single := length_utf8EncodeChar_of_digits digits
  have ascii : c.toNat < 128 := by
    revert single
    fun_cases String.utf8EncodeChar c with
    | case1 _ small => exact fun _ => Nat.lt_succ_of_le small
    | case2 | case3 | case4 => exact fun long => absurd long (by simp)
  obtain ⟨value, found⟩ := digits (UInt8.ofNat c.toNat) (by simp [utf8EncodeChar_of_ascii ascii])
  rw [byteValue?_of_ascii ascii] at found
  exact (isDigit_iff c).mpr ⟨value, found⟩

theorem flatMap_utf8_of_digits {digits : List Char} (all : ∀ c ∈ digits, IsDigit c) :
    digits.flatMap String.utf8EncodeChar = digits.map fun c => UInt8.ofNat c.toNat := by
  induction digits with
  | nil => rfl
  | cons c rest ih =>
    obtain ⟨value, found⟩ := (isDigit_iff c).mp (all c (by simp))
    rw [List.flatMap_cons, utf8EncodeChar_of_ascii (ascii_of_value found),
      ih fun other member => all other (by simp [member])]
    rfl

theorem encodeByte_ofNat {upper lower : Nat} (first : upper < 16) (second : lower < 16) :
    encodeByte (UInt8.ofNat (16 * upper + lower)) = [digit upper, digit lower] := by
  have same : (UInt8.ofNat (16 * upper + lower)).toNat = 16 * upper + lower :=
    UInt8.toNat_ofNat_of_lt' (show 16 * upper + lower < 256 by omega)
  rw [encodeByte, same, show (16 * upper + lower) / 16 = upper by omega,
    show (16 * upper + lower) % 16 = lower by omega]

theorem toLower_of_pairs {digits : List Char} {bytes : Bytes}
    (pairs : Pairs (digits.flatMap String.utf8EncodeChar) bytes) :
    digits.map Char.toLower = bytes.flatMap encodeByte := by
  have all : ∀ c ∈ digits, IsDigit c := fun c member => isDigit_of_bytes fun byte inside =>
    pairs.value (List.mem_flatMap.mpr ⟨c, member, inside⟩)
  rw [flatMap_utf8_of_digits all] at pairs
  generalize shown : (digits.map fun c => UInt8.ofNat c.toNat) = text at pairs
  induction pairs generalizing digits with
  | nil => rw [List.map_eq_nil_iff.mp shown]; rfl
  | pair first second _ ih =>
    obtain ⟨c, tail, rfl, rfl, after⟩ := List.map_eq_cons_iff.mp shown
    obtain ⟨d, rest, rfl, rfl, last⟩ := List.map_eq_cons_iff.mp after
    obtain ⟨_, foundFirst⟩ := (isDigit_iff c).mp (all c (by simp))
    obtain ⟨_, foundSecond⟩ := (isDigit_iff d).mp (all d (by simp))
    rw [byteValue?_of_ascii (ascii_of_value foundFirst)] at first
    rw [byteValue?_of_ascii (ascii_of_value foundSecond)] at second
    obtain ⟨below, upper⟩ := (value?_eq_some_iff _ _).mp first
    obtain ⟨belowToo, lower⟩ := (value?_eq_some_iff _ _).mp second
    rw [List.flatMap_cons, encodeByte_ofNat below belowToo, List.map_cons, List.map_cons, upper,
      lower, ih (fun other member => all other (by simp [member])) last]
    rfl

theorem pairs_of_toLower {digits : List Char} {bytes : Bytes}
    (lower : digits.map Char.toLower = bytes.flatMap encodeByte) :
    Pairs (digits.flatMap String.utf8EncodeChar) bytes := by
  induction bytes generalizing digits with
  | nil =>
    rw [List.map_eq_nil_iff.mp lower]
    exact .nil
  | cons byte others ih =>
    have small := byte.toNat_lt
    obtain ⟨c, tail, rfl, upper, after⟩ := List.map_eq_cons_iff.mp lower
    obtain ⟨d, rest, rfl, under, last⟩ := List.map_eq_cons_iff.mp after
    have first := (value?_eq_some_iff _ _).mpr ⟨show byte.toNat / 16 < 16 by omega, upper⟩
    have second := (value?_eq_some_iff _ _).mpr ⟨show byte.toNat % 16 < 16 by omega, under⟩
    have pair := Pairs.pair ((byteValue?_of_ascii (ascii_of_value first)).trans first)
      ((byteValue?_of_ascii (ascii_of_value second)).trans second) (ih last)
    rw [show 16 * (byte.toNat / 16) + byte.toNat % 16 = byte.toNat by omega,
      UInt8.ofNat_toNat] at pair
    rwa [List.flatMap_cons, List.flatMap_cons, utf8EncodeChar_of_ascii (ascii_of_value first),
      utf8EncodeChar_of_ascii (ascii_of_value second)]

theorem decode_utf8_eq_ok_iff (digits : List Char) (bytes : Bytes) :
    decode (digits.flatMap String.utf8EncodeChar) = .ok bytes ↔
      digits.map Char.toLower = (encode bytes).toList := by
  rw [decode_eq_ok_iff, encode, String.toList_ofList]
  exact ⟨toLower_of_pairs, pairs_of_toLower⟩

theorem digit_of_mem_encode {bytes : Bytes} {c : Char} (member : c ∈ (encode bytes).toList) :
    ∃ value < 16, c = digit value := by
  rw [encode, String.toList_ofList] at member
  obtain ⟨byte, -, inside⟩ := List.mem_flatMap.mp member
  have small := byte.toNat_lt
  simp only [encodeByte, List.mem_cons, List.not_mem_nil, or_false] at inside
  rcases inside with rfl | rfl
  · exact ⟨byte.toNat / 16, by omega, rfl⟩
  · exact ⟨byte.toNat % 16, by omega, rfl⟩

theorem isDigit_of_mem_encode {bytes : Bytes} {c : Char} (member : c ∈ (encode bytes).toList) :
    IsDigit c := by
  obtain ⟨value, below, rfl⟩ := digit_of_mem_encode member
  exact isDigit_digit below

theorem map_toLower_encode (bytes : Bytes) :
    (encode bytes).toList.map Char.toLower = (encode bytes).toList := by
  have unchanged : ∀ c ∈ (encode bytes).toList, c.toLower = id c := by
    intro c member
    obtain ⟨value, below, rfl⟩ := digit_of_mem_encode member
    exact toLower_digit value below
  rw [List.map_congr_left unchanged, List.map_id]

theorem decode_encode (bytes : Bytes) :
    decode ((encode bytes).toList.flatMap String.utf8EncodeChar) = .ok bytes :=
  (decode_utf8_eq_ok_iff _ bytes).mpr (map_toLower_encode bytes)

theorem encode_injective : Function.Injective encode := by
  intro first second same
  have decoded := decode_encode first
  rw [same, decode_encode second] at decoded
  exact (Except.ok.inj decoded).symm

theorem exists_encode_of_digits {digits : List Char} {width : Nat}
    (length : digits.length = 2 * width) (all : ∀ c ∈ digits, IsDigit c) :
    ∃ bytes : Bytes, bytes.length = width ∧ digits.map Char.toLower = (encode bytes).toList := by
  induction width generalizing digits with
  | zero => exact ⟨[], rfl, by simp [List.eq_nil_of_length_eq_zero length, encode]⟩
  | succ width ih =>
    rw [Nat.mul_succ] at length
    obtain ⟨c, others, rfl⟩ := List.exists_cons_of_length_eq_add_one length
    obtain ⟨d, rest, rfl⟩ := List.exists_cons_of_length_eq_add_one (Nat.succ.inj length)
    obtain ⟨upper, first⟩ := (isDigit_iff c).mp (all c (by simp))
    obtain ⟨lower, second⟩ := (isDigit_iff d).mp (all d (by simp))
    obtain ⟨below, high⟩ := (value?_eq_some_iff _ _).mp first
    obtain ⟨belowToo, low⟩ := (value?_eq_some_iff _ _).mp second
    obtain ⟨bytes, same, tail⟩ := ih (by simpa using length) fun other member =>
      all other (by simp [member])
    refine ⟨UInt8.ofNat (16 * upper + lower) :: bytes, by simp [same], ?_⟩
    rw [encode, String.toList_ofList] at tail ⊢
    rw [List.flatMap_cons, encodeByte_ofNat below belowToo, List.map_cons, List.map_cons, high, low,
      tail]
    rfl

theorem exists_encode_iff (digits : List Char) (width : Nat) :
    (∃ bytes : Bytes, bytes.length = width ∧
      digits.map Char.toLower = (encode bytes).toList) ↔
      digits.length = 2 * width ∧ ∀ c ∈ digits, IsDigit c := by
  constructor
  · rintro ⟨bytes, rfl, lower⟩
    constructor
    · rw [← length_encode bytes, ← String.length_toList, ← lower, List.length_map]
    · intro c member
      have inside : c.toLower ∈ (encode bytes).toList := lower ▸ List.mem_map_of_mem member
      obtain ⟨value, below, same⟩ := digit_of_mem_encode inside
      exact (isDigit_iff c).mpr ⟨value, (value?_eq_some_iff c value).mpr ⟨below, same⟩⟩
  · rintro ⟨length, all⟩
    exact exists_encode_of_digits length all

end Winternitz.Hex
