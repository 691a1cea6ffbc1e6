import Winternitz.Json.Literal

set_option autoImplicit false

namespace Winternitz.Json

def EndsDigits : List Char → Prop
  | [] => True
  | c :: _ => c.isDigit = false

/-- Texts that do not carry on a number in front of them. -/
def Ends : List Char → Prop
  | [] => True
  | c :: _ => c.isDigit = false ∧ c ≠ '.' ∧ c ≠ 'e' ∧ c ≠ 'E'

theorem Ends.digits {rest : List Char} (ends : Ends rest) : EndsDigits rest := by
  cases rest with
  | nil => trivial
  | cons c rest => exact ends.1

inductive Numeral : List Char → Prop
  | zero : Numeral ['0']
  | positive {d : Char} {ds : List Char} : d.isDigit = true → d ≠ '0' →
      (∀ c ∈ ds, c.isDigit = true) → Numeral (d :: ds)

theorem Numeral.head {digits : List Char} (numeral : Numeral digits) :
    ∃ d ds, digits = d :: ds ∧ d.isDigit = true := by
  cases numeral with
  | zero => exact ⟨'0', [], rfl, rfl⟩
  | positive digit _ _ => exact ⟨_, _, rfl, digit⟩

theorem Numeral.all {digits : List Char} (numeral : Numeral digits) :
    ∀ c ∈ digits, c.isDigit = true := by
  cases numeral with
  | zero => exact List.forall_mem_singleton.mpr rfl
  | positive digit _ all => exact List.forall_mem_cons.mpr ⟨digit, all⟩

theorem toDigits_positive {n : Nat} (positive : 0 < n) :
    ∃ d ds, Nat.toDigits 10 n = d :: ds ∧ d.isDigit = true ∧ d ≠ '0' ∧
      ∀ c ∈ ds, c.isDigit = true := by
  induction n using Nat.base_induction 10 (by decide) with
  | single m small =>
    have digit : ∀ m < 10, 0 < m → m.digitChar.isDigit = true ∧ m.digitChar ≠ '0' := by decide
    obtain ⟨isDigit, notZero⟩ := digit m small positive
    exact ⟨_, [], Nat.toDigits_of_lt_base small, isDigit, notZero, by simp⟩
  | digit m k small more ih =>
    obtain ⟨d, ds, leading, isDigit, notZero, digits⟩ := ih more
    have last : ∀ k < 10, k.digitChar.isDigit = true := by decide
    refine ⟨d, ds ++ [k.digitChar], ?_, isDigit, notZero, ?_⟩
    · rw [← Nat.toDigits_append_toDigits (by decide) more small, leading,
        Nat.toDigits_of_lt_base small, List.cons_append]
    · intro c member
      rcases List.mem_append.mp member with member | member
      · exact digits c member
      · rw [List.mem_singleton.mp member]
        exact last k small

theorem numeral_toDigits (n : Nat) : Numeral (Nat.toDigits 10 n) := by
  rcases Nat.eq_zero_or_pos n with rfl | positive
  · exact .zero
  · obtain ⟨d, ds, written, isDigit, notZero, digits⟩ := toDigits_positive positive
    rw [written]
    exact .positive isDigit notZero digits

namespace Literal

theorem digits_of_ends {rest : List Char} (ends : EndsDigits rest) :
    digits rest = [] ∧ afterDigits rest = rest := by
  cases rest with
  | nil => exact ⟨rfl, rfl⟩
  | cons c rest =>
    have notDigit : c.isDigit = false := ends
    simp [digits, afterDigits, notDigit]

theorem digits_append {ds rest : List Char} (all : ∀ c ∈ ds, c.isDigit = true)
    (ends : EndsDigits rest) : digits (ds ++ rest) = ds ∧ afterDigits (ds ++ rest) = rest := by
  obtain ⟨noDigits, unchanged⟩ := digits_of_ends ends
  constructor
  · rw [digits, List.takeWhile_append_of_pos all]
    exact (congrArg (ds ++ ·) noDigits).trans (List.append_nil ds)
  · rw [afterDigits, List.dropWhile_append_of_pos all]
    exact unchanged

theorem toDigits_unique {m n : Nat} {rest left : List Char}
    (same : Nat.toDigits 10 m ++ rest = Nat.toDigits 10 n ++ left) (ends : EndsDigits rest)
    (endsAfter : EndsDigits left) : m = n ∧ rest = left := by
  have first := digits_append (numeral_toDigits m).all ends
  have second := digits_append (numeral_toDigits n).all endsAfter
  rw [same, second.1, second.2] at first
  have value := congrArg (fun digits => Nat.ofDigitChars 10 digits 0) first.1
  simp only [Nat.ofDigitChars_ten_toDigits] at value
  exact ⟨value.symm, first.2.symm⟩

theorem readWhole_numeral {whole rest : List Char} (numeral : Numeral whole)
    (ends : EndsDigits rest) : readWhole (whole ++ rest) = .ok (whole, rest) := by
  cases numeral with
  | zero =>
    cases rest with
    | nil => rfl
    | cons c rest =>
      have notDigit : c.isDigit = false := ends
      simp [readWhole, notDigit]
  | positive digit notZero all =>
    obtain ⟨found, after⟩ := digits_append all ends
    simp [readWhole, digit, notZero, found, after]

theorem readFraction_of_ends {rest : List Char} (ends : Ends rest) :
    readFraction rest = .ok ([], rest) := by
  unfold readFraction
  split
  next => exact absurd rfl ends.2.1
  next => rfl

theorem readExponent_of_ends {rest : List Char} (ends : Ends rest) :
    readExponent rest = .ok (none, rest) := by
  cases rest with
  | nil => rfl
  | cons c rest => simp [readExponent, ends.2.2.1, ends.2.2.2]

theorem read_numeral {whole rest : List Char} (numeral : Numeral whole) (ends : Ends rest) :
    read (whole ++ rest) = .ok (⟨whole, [], none⟩, rest) := by
  simp [read, readWhole_numeral numeral ends.digits, readFraction_of_ends ends,
    readExponent_of_ends ends, bind, Except.bind, pure, Except.pure]

theorem le_ofDigitChars (n : Nat) (ds : List Char) : n ≤ Nat.ofDigitChars 10 ds n := by
  induction ds generalizing n with
  | nil => simp
  | cons d ds ih =>
    rw [Nat.ofDigitChars_cons]
    exact Nat.le_trans (by omega) (ih _)

theorem append_of_lt {bound n : Nat} {ds : List Char} (fits : Nat.ofDigitChars 10 ds n < bound) :
    append bound n ds = (Nat.ofDigitChars 10 ds n, []) := by
  induction ds generalizing n with
  | nil => rfl
  | cons d ds ih =>
    rw [Nat.ofDigitChars_cons] at fits ⊢
    have below : 10 * n + digitValue d < bound := Nat.lt_of_le_of_lt (le_ofDigitChars _ ds) fits
    simp only [append, below, if_true]
    exact ih fits

theorem value_numeral {whole : List Char} (fits : Nat.ofDigitChars 10 whole 0 < UInt64.size) :
    value false ⟨whole, [], none⟩ = .ok (.natural (UInt64.ofNat (Nat.ofDigitChars 10 whole 0))) := by
  have none (n : Nat) : append UInt64.size n [] = (n, []) := rfl
  simp [value, append_of_lt fits, none]

end Literal

theorem readNumber_numeral {whole rest : List Char} (numeral : Numeral whole)
    (fits : Nat.ofDigitChars 10 whole 0 < UInt64.size) (ends : Ends rest) :
    readNumber false (whole ++ rest) =
      .ok (.natural (UInt64.ofNat (Nat.ofDigitChars 10 whole 0)), rest) := by
  simp [readNumber, Literal.read_numeral numeral ends, Literal.value_numeral fits, bind, Except.bind,
    pure, Except.pure]

theorem readSigned_numeral {d : Char} {ds rest : List Char} (numeral : Numeral (d :: ds))
    (fits : Nat.ofDigitChars 10 (d :: ds) 0 < UInt64.size) (ends : Ends rest) :
    readSigned d (ds ++ rest) =
      .ok (.natural (UInt64.ofNat (Nat.ofDigitChars 10 (d :: ds) 0)), rest) := by
  have notMinus : d ≠ '-' := by
    obtain ⟨_, _, same, digit⟩ := numeral.head
    cases same
    rintro rfl
    exact absurd digit (by decide)
  rw [readSigned, if_neg notMinus]
  exact readNumber_numeral numeral fits ends

theorem readSigned_toDigits (n : UInt64) {rest : List Char} (ends : Ends rest) :
    ∃ d ds, Nat.toDigits 10 n.toNat = d :: ds ∧ d.isDigit = true ∧
      readSigned d (ds ++ rest) = .ok (.natural n, rest) := by
  have numeral := numeral_toDigits n.toNat
  have value : Nat.ofDigitChars 10 (Nat.toDigits 10 n.toNat) 0 = n.toNat :=
    Nat.ofDigitChars_ten_toDigits
  obtain ⟨d, ds, written, digit⟩ := numeral.head
  rw [written] at numeral value
  refine ⟨d, ds, written, digit, ?_⟩
  rw [readSigned_numeral numeral (value ▸ n.toNat_lt) ends, value, UInt64.ofNat_toNat]

end Winternitz.Json
