import Winternitz.Proofs.HexText

set_option autoImplicit false

namespace Winternitz.Hex

def DigitByte (byte : UInt8) (value : Nat) : Prop :=
  (value < 10 ∧ byte.toNat = 0x30 + value) ∨
    (10 ≤ value ∧ value < 16 ∧
      (byte.toNat = 0x61 + (value - 10) ∨ byte.toNat = 0x41 + (value - 10)))

def IsDigitByte (byte : UInt8) : Prop :=
  ∃ value, DigitByte byte value

theorem between_iff (byte : UInt8) (first last : Char) :
    (first ≤ Char.ofNat byte.toNat ∧ Char.ofNat byte.toNat ≤ last) ↔
      first.toNat ≤ byte.toNat ∧ byte.toNat ≤ last.toNat := by
  have le_iff (c d : Char) : c ≤ d ↔ c.toNat ≤ d.toNat := UInt32.le_iff_toNat_le
  rw [le_iff, le_iff, toNat_ofByte]

theorem byteValue?_eq_some_iff (byte : UInt8) (value : Nat) :
    byteValue? byte = some value ↔ DigitByte byte value := by
  simp only [byteValue?, value?, between_iff, toNat_ofByte, DigitByte, Char.reduceToNat]
  split
  next decimal =>
    simp only [Option.some.injEq]
    omega
  next =>
    split
    next lower =>
      simp only [Option.some.injEq]
      omega
    next =>
      split
      next upper =>
        simp only [Option.some.injEq]
        omega
      next =>
        simp only [reduceCtorEq, false_iff]
        omega

theorem isDigitByte_iff (byte : UInt8) :
    IsDigitByte byte ↔ ∃ value, byteValue? byte = some value := by
  simp only [IsDigitByte, byteValue?_eq_some_iff]

instance : DecidablePred IsDigitByte := fun byte =>
  decidable_of_iff _ (Option.isSome_iff_exists.trans (isDigitByte_iff byte).symm)

theorem not_isDigitByte_iff (byte : UInt8) : ¬ IsDigitByte byte ↔ byteValue? byte = none := by
  rw [isDigitByte_iff, ← Option.isSome_iff_exists, Option.not_isSome_iff_eq_none]

structure FirstWrong (digits : Bytes) (byte : UInt8) (index : Nat) : Prop where
  found : digits[index]? = some byte
  wrong : ¬ IsDigitByte byte
  before : ∀ earlier < index, ∀ other, digits[earlier]? = some other → IsDigitByte other

theorem firstWrong_zero {byte : UInt8} (wrong : ¬ IsDigitByte byte) (rest : Bytes) :
    FirstWrong (byte :: rest) byte 0 where
  found := rfl
  wrong := wrong
  before := by simp

theorem firstWrong_cons_iff {head : UInt8} (digit : IsDigitByte head) (rest : Bytes)
    (byte : UInt8) (index : Nat) :
    FirstWrong (head :: rest) byte index ↔
      ∃ before, index = before + 1 ∧ FirstWrong rest byte before := by
  constructor
  · intro first
    cases index with
    | zero =>
      have same : head = byte := by simpa using first.found
      exact absurd (same ▸ digit) first.wrong
    | succ before =>
      refine ⟨before, rfl, by simpa using first.found, first.wrong, fun earlier below => ?_⟩
      simpa using first.before (earlier + 1) (Nat.succ_lt_succ below)
  · rintro ⟨before, rfl, first⟩
    refine ⟨by simpa using first.found, first.wrong, fun earlier below other found => ?_⟩
    cases earlier with
    | zero =>
      have same : head = other := by simpa using found
      exact same ▸ digit
    | succ earlier =>
      exact first.before earlier (Nat.lt_of_succ_lt_succ below) other (by simpa using found)

theorem FirstWrong.head {head byte : UInt8} {rest : Bytes} {index : Nat}
    (wrong : ¬ IsDigitByte head) (first : FirstWrong (head :: rest) byte index) :
    index = 0 ∧ byte = head := by
  cases index with
  | zero => exact ⟨rfl, by simpa using first.found.symm⟩
  | succ index => exact absurd (first.before 0 (by omega) head rfl) wrong

theorem exists_firstWrong {digits : Bytes} (wrong : ∃ byte ∈ digits, ¬ IsDigitByte byte) :
    ∃ byte index, FirstWrong digits byte index := by
  induction digits with
  | nil => simp at wrong
  | cons head rest ih =>
    by_cases digit : IsDigitByte head
    next =>
      have later : ∃ byte ∈ rest, ¬ IsDigitByte byte := by
        simpa [digit] using wrong
      obtain ⟨byte, index, first⟩ := ih later
      exact ⟨byte, index + 1, (firstWrong_cons_iff digit rest byte _).mpr ⟨index, rfl, first⟩⟩
    next => exact ⟨head, 0, firstWrong_zero digit rest⟩

-- The digits are read in pairs, and the first byte of a pair is judged before the second.
theorem decodePairs_of_firstWrong {digits : Bytes} {byte : UInt8} {index : Nat} (offset : Nat)
    (even : digits.length % 2 = 0) (first : FirstWrong digits byte index) :
    decodePairs offset digits = .error (.invalidCharacter byte (offset + index)) := by
  fun_induction decodePairs offset digits generalizing index with
  | case1 offset high low rest wrong =>
    obtain ⟨rfl, rfl⟩ := first.head ((not_isDigitByte_iff high).mpr wrong)
    rfl
  | case2 offset high low rest upper wrong found =>
    have digit := (isDigitByte_iff high).mpr ⟨_, found⟩
    obtain ⟨before, rfl, second⟩ := (firstWrong_cons_iff digit _ byte index).mp first
    obtain ⟨rfl, rfl⟩ := second.head ((not_isDigitByte_iff low).mpr wrong)
    rfl
  | case3 offset high low rest upper lower foundLow foundHigh ih =>
    have digit := (isDigitByte_iff high).mpr ⟨_, foundHigh⟩
    have another := (isDigitByte_iff low).mpr ⟨_, foundLow⟩
    obtain ⟨_, rfl, second⟩ := (firstWrong_cons_iff digit _ byte index).mp first
    obtain ⟨before, rfl, later⟩ := (firstWrong_cons_iff another _ byte _).mp second
    simp only [List.length_cons] at even
    rw [ih (by omega) later, Nat.add_assoc, Nat.add_comm 2 before]
    rfl
  | case4 digits offset short =>
    rcases digits with _ | ⟨high, _ | ⟨low, rest⟩⟩
    · simpa using first.found
    · simp at even
    · exact absurd rfl (short high low rest)

/-- Two digits to a byte, the higher one first. -/
structure Paired (digits bytes : Bytes) : Prop where
  length : digits.length = 2 * bytes.length
  pair : ∀ index byte, bytes[index]? = some byte →
    ∃ high low upper lower, digits[2 * index]? = some high ∧ digits[2 * index + 1]? = some low ∧
      DigitByte high upper ∧ DigitByte low lower ∧ byte.toNat = 16 * upper + lower

theorem DigitByte.lt {byte : UInt8} {value : Nat} (digit : DigitByte byte value) : value < 16 := by
  unfold DigitByte at digit
  omega

theorem Pairs.paired {digits bytes : Bytes} (pairs : Pairs digits bytes) : Paired digits bytes where
  length := pairs.length
  pair := by
    intro index byte found
    induction pairs generalizing index with
    | nil => simp at found
    | @pair high low upper lower digits bytes first second _ ih =>
      cases index with
      | zero =>
        have high := (byteValue?_eq_some_iff _ _).mp first
        have low := (byteValue?_eq_some_iff _ _).mp second
        have small : 16 * upper + lower < 256 := by
          have := high.lt
          have := low.lt
          omega
        obtain rfl : UInt8.ofNat (16 * upper + lower) = byte := by simpa using found
        exact ⟨_, _, upper, lower, rfl, rfl, high, low, UInt8.toNat_ofNat_of_lt' small⟩
      | succ index => simpa [Nat.mul_succ] using ih index (by simpa using found)

theorem Paired.pairs {digits bytes : Bytes} (paired : Paired digits bytes) :
    Pairs digits bytes := by
  induction bytes generalizing digits with
  | nil =>
    have empty : digits = [] := List.eq_nil_of_length_eq_zero paired.length
    exact empty ▸ .nil
  | cons byte others ih =>
    obtain ⟨high, low, upper, lower, first, second, isHigh, isLow, value⟩ := paired.pair 0 byte rfl
    match digits, first, second with
    | _ :: _ :: rest, rfl, rfl =>
      have tail : Paired rest others := by
        refine ⟨by simpa [Nat.mul_succ] using paired.length, fun index other found => ?_⟩
        simpa [Nat.mul_succ] using paired.pair (index + 1) other (by simpa using found)
      have same : byte = UInt8.ofNat (16 * upper + lower) := by rw [← value, UInt8.ofNat_toNat]
      rw [same]
      exact .pair ((byteValue?_eq_some_iff _ _).mpr isHigh) ((byteValue?_eq_some_iff _ _).mpr isLow)
        (ih tail)

theorem exists_pairs {digits : Bytes} (even : digits.length % 2 = 0)
    (all : ∀ byte ∈ digits, IsDigitByte byte) : ∃ bytes, Pairs digits bytes := by
  match digits with
  | [] => exact ⟨[], .nil⟩
  | [_] => simp at even
  | high :: low :: rest =>
    have paired : rest.length % 2 = 0 := by
      simp only [List.length_cons] at even
      omega
    obtain ⟨upper, first⟩ := (isDigitByte_iff high).mp (all high (by simp))
    obtain ⟨lower, second⟩ := (isDigitByte_iff low).mp (all low (by simp))
    obtain ⟨bytes, pairs⟩ := exists_pairs paired fun other member => all other (by simp [member])
    exact ⟨_, .pair first second pairs⟩

/-- An odd number of bytes is wrong whatever the bytes are. Of an even number the first wrong byte
counts, and without one the digits spell a byte by each pair. -/
def Decoded (digits : Bytes) : Except DecodeError Bytes → Prop
  | .error .oddLength => digits.length % 2 = 1
  | .error (.invalidCharacter byte index) => digits.length % 2 = 0 ∧ FirstWrong digits byte index
  | .ok bytes => Paired digits bytes

theorem decode_of_decoded {digits : Bytes} {result : Except DecodeError Bytes}
    (decoded : Decoded digits result) : decode digits = result := by
  match result, decoded with
  | .error .oddLength, odd => exact if_pos odd
  | .error (.invalidCharacter byte index), ⟨even, first⟩ =>
    rw [decode, if_neg (by omega), decodePairs_of_firstWrong 0 even first, Nat.zero_add]
  | .ok bytes, paired => exact (decode_eq_ok_iff digits bytes).mpr paired.pairs

theorem exists_decoded (digits : Bytes) : ∃ result, Decoded digits result := by
  by_cases odd : digits.length % 2 = 1
  next => exact ⟨.error .oddLength, odd⟩
  next =>
    have even : digits.length % 2 = 0 := by omega
    by_cases all : ∀ byte ∈ digits, IsDigitByte byte
    next =>
      obtain ⟨bytes, pairs⟩ := exists_pairs even all
      exact ⟨.ok bytes, pairs.paired⟩
    next =>
      obtain ⟨byte, index, first⟩ := exists_firstWrong (by simpa using all)
      exact ⟨.error (.invalidCharacter byte index), even, first⟩

theorem decode_eq_iff (digits : Bytes) (result : Except DecodeError Bytes) :
    decode digits = result ↔ Decoded digits result := by
  constructor
  · rintro rfl
    obtain ⟨result, decoded⟩ := exists_decoded digits
    rwa [decode_of_decoded decoded]
  · exact decode_of_decoded

end Winternitz.Hex
