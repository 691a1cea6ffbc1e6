import Winternitz.Document

set_option autoImplicit false

namespace Winternitz.Hex

inductive Pairs : Bytes → Bytes → Prop
  | nil : Pairs [] []
  | pair {high low : UInt8} {upper lower : Nat} {digits bytes : Bytes}
      (first : byteValue? high = some upper) (second : byteValue? low = some lower)
      (rest : Pairs digits bytes) :
      Pairs (high :: low :: digits) (UInt8.ofNat (16 * upper + lower) :: bytes)

theorem Pairs.length {digits bytes : Bytes} (pairs : Pairs digits bytes) :
    digits.length = 2 * bytes.length := by
  induction pairs with
  | nil => rfl
  | pair _ _ _ ih => simp only [List.length_cons]; omega

theorem Pairs.value {digits bytes : Bytes} (pairs : Pairs digits bytes) {digit : UInt8}
    (member : digit ∈ digits) : ∃ value, byteValue? digit = some value := by
  induction pairs with
  | nil => cases member
  | pair first second _ ih =>
    rcases List.mem_cons.mp member with rfl | member
    · exact ⟨_, first⟩
    · rcases List.mem_cons.mp member with rfl | member
      · exact ⟨_, second⟩
      · exact ih member

theorem decodePairs_of_pairs {digits bytes : Bytes} (pairs : Pairs digits bytes) (index : Nat) :
    decodePairs index digits = .ok bytes := by
  induction pairs generalizing index with
  | nil => rfl
  | pair first second _ ih =>
    simp only [decodePairs, first, second, ih (index + 2)]
    rfl

theorem pairs_of_decodePairs {index : Nat} {digits bytes : Bytes} (even : digits.length % 2 = 0)
    (done : decodePairs index digits = .ok bytes) : Pairs digits bytes := by
  fun_induction decodePairs index digits generalizing bytes with
  | case1 | case2 => cases done
  | case3 index high low rest upper lower second first ih =>
    cases tail : decodePairs (index + 2) rest with
    | error => simp [tail, bind, Except.bind] at done
    | ok others =>
      simp only [tail, bind, Except.bind, pure, Except.pure, Except.ok.injEq] at done
      subst done
      simp only [List.length_cons] at even
      exact .pair first second (ih (by omega) tail)
  | case4 digits index short =>
    cases done
    rcases digits with _ | ⟨high, _ | ⟨low, rest⟩⟩
    · exact .nil
    · simp at even
    · exact absurd rfl (short high low rest)

theorem decode_eq_ok_iff (digits bytes : Bytes) :
    decode digits = .ok bytes ↔ Pairs digits bytes := by
  unfold decode
  constructor
  · intro done
    split at done
    next => cases done
    next even => exact pairs_of_decodePairs (by omega) done
  · intro pairs
    have even : ¬ digits.length % 2 = 1 := by
      rw [pairs.length]
      omega
    rw [if_neg even]
    exact decodePairs_of_pairs pairs 0

theorem length_encode (bytes : Bytes) : (encode bytes).length = 2 * bytes.length := by
  induction bytes with
  | nil => rfl
  | cons byte rest ih =>
    simp only [encode, String.length_ofList, List.flatMap_cons, List.length_append] at ih ⊢
    rw [ih]
    simp only [encodeByte, List.length_cons, List.length_nil]
    omega

theorem value?_of_after {c : Char} (after : 'f' < c) : value? c = none := by
  have late (bound : Char) (small : bound ≤ 'f') : ¬ c ≤ bound := by
    intro before
    exact absurd (Char.le_trans before small) (Char.not_le.mpr after)
  simp [value?, late '9' (by decide), late 'f' (by decide), late 'F' (by decide)]

theorem toNat_ofByte (byte : UInt8) : (Char.ofNat byte.toNat).toNat = byte.toNat := by
  have small := byte.toNat_lt
  have valid : byte.toNat.isValidChar := Or.inl (by omega)
  rw [Char.ofNat, dif_pos valid]
  rfl

theorem byteValue?_of_large {byte : UInt8} (large : 128 ≤ byte.toNat) : byteValue? byte = none := by
  apply value?_of_after
  have same : (Char.ofNat byte.toNat).val.toNat = byte.toNat := toNat_ofByte byte
  rw [Char.lt_def, UInt32.lt_iff_toNat_lt, same]
  exact Nat.lt_of_lt_of_le (by decide) large

theorem utf8EncodeChar_large {c : Char} (long : (String.utf8EncodeChar c).length ≠ 1) :
    ∃ byte ∈ String.utf8EncodeChar c, 128 ≤ byte.toNat := by
  -- The first byte of a character of several bytes says how many there are.
  have first {offset marker : Nat} (rest : Bytes) (large : 128 ≤ marker)
      (small : offset + marker < 256) :
      ∃ byte ∈ UInt8.ofNat (offset + marker) :: rest, 128 ≤ byte.toNat := by
    refine ⟨_, List.mem_cons_self, ?_⟩
    rw [UInt8.toNat_ofNat_of_lt' small]
    omega
  revert long
  fun_cases String.utf8EncodeChar c with
  | case1 => exact fun long => absurd rfl long
  | case2 | case3 | case4 => exact fun _ => first _ (by decide) (by omega)

theorem length_utf8EncodeChar_of_digits {c : Char}
    (digits : ∀ byte ∈ String.utf8EncodeChar c, ∃ value, byteValue? byte = some value) :
    (String.utf8EncodeChar c).length = 1 := by
  refine Decidable.byContradiction fun long => ?_
  obtain ⟨byte, member, large⟩ := utf8EncodeChar_large long
  obtain ⟨value, found⟩ := digits byte member
  rw [byteValue?_of_large large] at found
  cases found

theorem length_utf8_of_digits {text : List Char}
    (digits : ∀ byte ∈ text.flatMap String.utf8EncodeChar, ∃ value, byteValue? byte = some value) :
    (text.flatMap String.utf8EncodeChar).length = text.length := by
  induction text with
  | nil => rfl
  | cons c rest ih =>
    simp only [List.flatMap_cons, List.mem_append] at digits
    have head := length_utf8EncodeChar_of_digits fun byte member => digits byte (.inl member)
    have tail := ih fun byte member => digits byte (.inr member)
    rw [List.flatMap_cons, List.length_append, head, tail, List.length_cons, Nat.add_comm]

end Winternitz.Hex

namespace Winternitz.Document

theorem length_stripMark_le (text : List Char) : (stripMark text).length ≤ text.length := by
  fun_cases stripMark text with
  | case1 digits => simp only [List.length_cons]; omega
  | case2 => exact Nat.le_refl _

theorem length_decodeChain_le {text : String} {bytes : Bytes}
    (decodes : decodeChain text = .ok bytes) : 2 * bytes.length ≤ text.length := by
  have pairs := (Hex.decode_eq_ok_iff _ _).mp decodes
  have letters := Hex.length_utf8_of_digits fun byte member => pairs.value member
  have short := length_stripMark_le text.toList
  rw [String.length_toList] at short
  rw [← pairs.length, letters]
  exact short

end Winternitz.Document
