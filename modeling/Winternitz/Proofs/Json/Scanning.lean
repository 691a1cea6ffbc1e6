import Winternitz.Json.Record
import Winternitz.Proofs.HexCase
import Winternitz.Proofs.Json.Grammar

set_option autoImplicit false

namespace Winternitz.Json

theorem eq_append_of_readWord {word text rest : List Char} (read : readWord word text = .ok rest) :
    text = word ++ rest := by
  induction word generalizing text with
  | nil =>
    cases read
    rfl
  | cons letter word ih =>
    cases text with
    | nil => cases read
    | cons c tail =>
      rw [readWord] at read
      split at read
      next same => rw [same, ih read, List.cons_append]
      next => cases read

namespace Literal

theorem digits_append_afterDigits (text : List Char) : digits text ++ afterDigits text = text :=
  List.takeWhile_append_dropWhile

theorem isDigit_of_mem_digits (text : List Char) : ∀ c ∈ digits text, c.isDigit = true :=
  List.all_eq_true.mp List.all_takeWhile

theorem numeral_of_readWhole {text whole rest : List Char}
    (read : readWhole text = .ok (whole, rest)) : text = whole ++ rest ∧ Numeral whole := by
  unfold readWhole at read
  split at read
  next => cases read
  next c tail =>
    split at read
    next zero =>
      subst zero
      split at read
      next d later =>
        split at read
        next => cases read
        next =>
          cases read
          exact ⟨rfl, .zero⟩
      next =>
        cases read
        exact ⟨rfl, .zero⟩
    next notZero =>
      split at read
      next digit =>
        cases read
        rw [List.cons_append, digits_append_afterDigits]
        exact ⟨rfl, .positive digit notZero (isDigit_of_mem_digits tail)⟩
      next => cases read

theorem fraction_of_readFraction {text fraction rest : List Char}
    (read : readFraction text = .ok (fraction, rest)) :
    ∃ used, text = used ++ rest ∧ FractionText used ∧ used.tail = fraction := by
  unfold readFraction at read
  split at read
  next tail =>
    split at read
    next => cases read
    next => cases read
    next notBare notCut =>
      cases read
      have whole := digits_append_afterDigits tail
      have all := isDigit_of_mem_digits tail
      cases found : digits tail with
      | nil =>
        cases left : afterDigits tail with
        | nil => exact (notBare found left).elim
        | cons c after => exact (notCut c after found left).elim
      | cons d ds =>
        rw [found] at whole all
        have digit := all d (by simp)
        refine ⟨'.' :: d :: ds, ?_, .digits digit fun c member => all c (by simp [member]), rfl⟩
        rw [List.cons_append, whole]
  next =>
    cases read
    exact ⟨[], rfl, .none, rfl⟩

theorem sign_of_readSign (text : List Char) :
    ∃ sign ∈ [[], ['+'], ['-']], text = sign ++ (readSign text).2 := by
  unfold readSign
  split
  next => exact ⟨['+'], by simp, rfl⟩
  next => exact ⟨['-'], by simp, rfl⟩
  next => exact ⟨[], by simp, rfl⟩

theorem exponent_of_readExponent {text rest : List Char} {exponent : Option (Bool × List Char)}
    (read : readExponent text = .ok (exponent, rest)) :
    ∃ used, text = used ++ rest ∧ ExponentText used ∧ (exponent = none → used = []) := by
  unfold readExponent at read
  split at read
  next c tail =>
    obtain ⟨sign, listed, split⟩ := sign_of_readSign tail
    split at read
    next mark =>
      generalize readSign tail = signed at read split
      obtain ⟨negative, signed⟩ := signed
      cases signed with
      | nil => cases read
      | cons d after =>
        dsimp only at read split
        split at read
        next digit =>
          cases read
          refine ⟨c :: (sign ++ d :: digits after), ?_, ?_, nofun⟩
          · rw [split]
            simp [digits_append_afterDigits]
          · exact .digits (by simpa using mark) listed digit (isDigit_of_mem_digits after)
        next => cases read
    next =>
      cases read
      exact ⟨[], rfl, .none, fun _ => rfl⟩
  next =>
    cases read
    exact ⟨[], rfl, .none, fun _ => rfl⟩

theorem unsigned_of_read {text rest : List Char} {literal : Literal}
    (done : read text = .ok (literal, rest)) :
    ∃ used, text = used ++ rest ∧ UnsignedText used ∧ Numeral literal.whole ∧
      (literal.fraction = [] → literal.exponent = none → used = literal.whole) := by
  obtain ⟨⟨whole, afterWhole⟩, first, done⟩ := bind_eq_ok.1 done
  obtain ⟨⟨fraction, afterFraction⟩, second, done⟩ := bind_eq_ok.1 done
  obtain ⟨⟨exponent, afterExponent⟩, third, done⟩ := bind_eq_ok.1 done
  obtain ⟨rfl, rfl⟩ := pure_eq_ok.1 done
  obtain ⟨rfl, numeral⟩ := numeral_of_readWhole first
  obtain ⟨point, rfl, fractionText, places⟩ := fraction_of_readFraction second
  obtain ⟨power, rfl, exponentText, noPower⟩ := exponent_of_readExponent third
  refine ⟨whole ++ (point ++ power), by simp, .parts numeral fractionText exponentText, numeral, ?_⟩
  intro noFraction noExponent
  rw [noPower noExponent, List.append_nil]
  cases fractionText with
  | none => exact List.append_nil whole
  | digits => exact absurd (places.trans noFraction) (List.cons_ne_nil _ _)

theorem exists_digitChar {c : Char} (digit : c.isDigit = true) :
    ∃ k < 10, c = k.digitChar ∧ digitValue c = k := by
  have all : ∀ code < 58, (Char.ofNat code).isDigit = true →
      digitValue (Char.ofNat code) < 10 ∧
        Char.ofNat code = (digitValue (Char.ofNat code)).digitChar := by decide
  have small : c.toNat < 58 := by
    simp only [Char.isDigit, Bool.and_eq_true, decide_eq_true_eq] at digit
    exact Nat.lt_succ_of_le (UInt32.le_iff_toNat_le.mp digit.2)
  have found := all c.toNat small (by rwa [Char.ofNat_toNat])
  rw [Char.ofNat_toNat] at found
  exact ⟨digitValue c, found.1, found.2, rfl⟩

theorem ofDigitChars_of_append {bound n value : Nat} {ds : List Char}
    (small : n < bound) (fits : append bound n ds = (value, [])) :
    value = Nat.ofDigitChars 10 ds n ∧ value < bound := by
  induction ds generalizing n with
  | nil =>
    cases fits
    exact ⟨rfl, small⟩
  | cons d ds ih =>
    rw [append] at fits
    split at fits
    next below => exact ih below fits
    next => cases fits

theorem toDigits_ofDigitChars_of_pos {n : Nat} {ds : List Char} (positive : 0 < n)
    (all : ∀ c ∈ ds, c.isDigit = true) :
    Nat.toDigits 10 (Nat.ofDigitChars 10 ds n) = Nat.toDigits 10 n ++ ds := by
  induction ds generalizing n with
  | nil => simp
  | cons d ds ih =>
    obtain ⟨k, small, rfl, -⟩ := exists_digitChar (all d (by simp))
    rw [Nat.ofDigitChars_cons_digitChar_of_lt_ten small,
      ih (by omega) fun c member => all c (by simp [member]),
      ← Nat.toDigits_append_toDigits (by decide) positive small, Nat.toDigits_of_lt_base small,
      List.append_assoc, List.singleton_append]

-- No other digits than those it is written with make a number.
theorem toDigits_ofDigitChars {whole : List Char} (numeral : Numeral whole) :
    Nat.toDigits 10 (Nat.ofDigitChars 10 whole 0) = whole := by
  cases numeral with
  | zero => decide
  | @positive d ds digit notZero all =>
    obtain ⟨k, small, rfl, -⟩ := exists_digitChar digit
    have positive : 0 < k := by
      rcases Nat.eq_zero_or_pos k with rfl | positive
      · exact absurd rfl notZero
      · exact positive
    rw [Nat.ofDigitChars_cons_digitChar_of_lt_ten small, Nat.mul_zero, Nat.zero_add,
      toDigits_ofDigitChars_of_pos positive all, Nat.toDigits_of_lt_base small,
      List.singleton_append]

theorem natural_of_value {negative : Bool} {literal : Literal} {n : UInt64}
    (natural : literal.value negative = .ok (.natural n)) :
    negative = false ∧ literal.fraction = [] ∧ literal.exponent = none ∧
      n.toNat = Nat.ofDigitChars 10 literal.whole 0 := by
  obtain ⟨⟨whole, dropped⟩, first⟩ : ∃ found, append UInt64.size 0 literal.whole = found := ⟨_, rfl⟩
  obtain ⟨⟨significand, ignored⟩, second⟩ :
      ∃ found, append UInt64.size whole literal.fraction = found := ⟨_, rfl⟩
  simp only [value, first, second] at natural
  split at natural
  next =>
    split at natural
    next => split at natural <;> cases natural
    next => split at natural <;> cases natural
  next noExponent =>
    split at natural
    next => split at natural <;> cases natural
    next plain =>
      split at natural
      next positive =>
        simp only [Bool.or_eq_true, Bool.not_eq_true', not_or, Bool.not_eq_false,
          List.isEmpty_iff] at plain
        obtain ⟨noFraction, noneDropped⟩ := plain
        rw [noFraction] at second
        cases second
        rw [noneDropped] at first
        obtain ⟨same, small⟩ := ofDigitChars_of_append (by decide) first
        cases natural
        refine ⟨by simpa using positive, noFraction, noExponent, ?_⟩
        rw [UInt64.toNat_ofNat_of_lt' small, same]
      next =>
        split at natural
        next => cases natural
        next => split at natural <;> cases natural

end Literal

theorem unsigned_of_skipNumber {text rest : List Char} (skipped : skipNumber text = .ok rest) :
    ∃ used, text = used ++ rest ∧ UnsignedText used := by
  unfold skipNumber at skipped
  split at skipped
  next literal after read =>
    cases skipped
    obtain ⟨used, split, unsigned, -⟩ := Literal.unsigned_of_read read
    exact ⟨used, split, unsigned⟩
  next => cases skipped

theorem size_of_readNumber {negative : Bool} {text rest : List Char} {n : UInt64}
    (done : readNumber negative text = .ok (.natural n, rest)) :
    negative = false ∧ ∃ used, text = used ++ rest ∧ SizeText n used := by
  obtain ⟨⟨literal, after⟩, read, done⟩ := bind_eq_ok.1 done
  dsimp only at done
  split at done
  next number valued =>
    obtain ⟨rfl, rfl⟩ := pure_eq_ok.1 done
    obtain ⟨positive, noFraction, noExponent, same⟩ := Literal.natural_of_value valued
    obtain ⟨used, split, -, numeral, plain⟩ := Literal.unsigned_of_read read
    have written := Literal.toDigits_ofDigitChars numeral
    rw [← same, ← plain noFraction noExponent] at written
    exact ⟨positive, used, split, written ▸ .decimal n⟩
  next => cases done

theorem size_of_readSize {c : Char} {tail rest : List Char} {n : UInt64}
    (read : Reader.readSize c tail = .ok (n, rest)) :
    ∃ used, c :: tail = used ++ rest ∧ SizeText n used := by
  obtain ⟨⟨number, afterNumber⟩, signed, read⟩ := bind_eq_ok.1 read
  obtain ⟨found, size, read⟩ := bind_eq_ok.1 read
  obtain ⟨rfl, rfl⟩ := pure_eq_ok.1 read
  cases number with
  | negative | floating => cases size
  | natural n =>
    cases size
    unfold readSigned at signed
    split at signed
    next => exact absurd (size_of_readNumber signed).1 (by decide)
    next => exact (size_of_readNumber signed).2

theorem digit_of_value? {c : Char} {value : Nat} (found : Hex.value? c = some value) :
    SpellsDigit value c := by
  have all : ∀ code < 128, ∀ value ∈ Hex.value? (Char.ofNat code), value < 16 ∧
      (Char.ofNat code = value.digitChar ∨ Char.ofNat code = value.digitChar.toUpper) := by decide
  have spelled := all c.toNat (Hex.ascii_of_value found) value (by rwa [Char.ofNat_toNat])
  rw [Char.ofNat_toNat] at spelled
  obtain ⟨below, rfl | rfl⟩ := spelled
  · exact .lower below
  · exact .upper below

theorem unit_of_readUnit {text rest : List Char} {unit : Nat}
    (read : readUnit text = .ok (unit, rest)) :
    ∃ digits, text = digits ++ rest ∧ SpellsUnit unit digits := by
  unfold readUnit at read
  split at read
  next a b c d after =>
    split at read
    next first second third fourth =>
      cases read
      exact ⟨[a, b, c, d], rfl, .digits (digit_of_value? first) (digit_of_value? second)
        (digit_of_value? third) (digit_of_value? fourth)⟩
    next => cases read
  next => cases read

theorem mem_shortEscapes {c meant : Char} (found : shortEscape? c = some meant) :
    (c, meant) ∈ shortEscapes := by
  unfold shortEscape? at found
  split at found <;> cases found <;> decide

theorem unit_of_readLowSurrogate {text rest : List Char} {unit : Nat}
    (read : readLowSurrogate text = .ok (unit, rest)) :
    ∃ digits, text = '\\' :: 'u' :: (digits ++ rest) ∧ SpellsUnit unit digits ∧
      isLowSurrogate unit = true := by
  unfold readLowSurrogate at read
  split at read
  next after =>
    obtain ⟨⟨low, afterUnit⟩, first, read⟩ := bind_eq_ok.1 read
    dsimp only at read
    split at read
    next isLow =>
      obtain ⟨rfl, rfl⟩ := pure_eq_ok.1 read
      obtain ⟨digits, rfl, spells⟩ := unit_of_readUnit first
      exact ⟨digits, rfl, spells, isLow⟩
    next => cases read
  all_goals cases read

theorem char_of_readUnicodeEscape {text rest : List Char} {c : Char}
    (read : readUnicodeEscape text = .ok (c, rest)) :
    ∃ used, text = used ++ rest ∧ SpellsChar c ('\\' :: 'u' :: used) := by
  obtain ⟨⟨unit, afterUnit⟩, first, done⟩ := bind_eq_ok.1 read
  obtain ⟨digits, rfl, spells⟩ := unit_of_readUnit first
  dsimp only at done
  split at done
  next => cases done
  next notLow =>
    split at done
    next isHigh =>
      obtain ⟨⟨low, afterLow⟩, second, last⟩ := bind_eq_ok.1 done
      obtain ⟨lowDigits, rfl, spellsLow, isLow⟩ := unit_of_readLowSurrogate second
      obtain ⟨rfl, rfl⟩ := pure_eq_ok.1 last
      exact ⟨digits ++ '\\' :: 'u' :: lowDigits, by simp, .pair spells spellsLow isHigh isLow⟩
    next notHigh =>
      obtain ⟨rfl, rfl⟩ := pure_eq_ok.1 done
      exact ⟨digits, rfl, .unit spells (by simpa using notHigh) (by simpa using notLow)⟩

theorem char_of_readEscape {text rest : List Char} {c : Char}
    (read : readEscape text = .ok (c, rest)) :
    ∃ used, text = used ++ rest ∧ SpellsChar c ('\\' :: used) := by
  unfold readEscape at read
  split at read
  next => cases read
  next head tail =>
    split at read
    next meant short =>
      cases read
      exact ⟨[head], rfl, .short (mem_shortEscapes short)⟩
    next =>
      split at read
      next isUnicode =>
        subst isUnicode
        obtain ⟨used, rfl, spells⟩ := char_of_readUnicodeEscape read
        exact ⟨'u' :: used, rfl, spells⟩
      next => cases read

theorem spells_of_readString {before text rest : List Char} {value : String}
    (read : readString before text = .ok (value, rest)) :
    ∃ chars used, text = used ++ '"' :: rest ∧ Spells chars used ∧
      value = String.ofList (before.reverse ++ chars) := by
  fun_induction readString before text with
  | case1 | case4 | case5 => cases read
  | case2 before tail =>
    cases read
    exact ⟨[], [], rfl, .nil, by simp⟩
  | case3 before tail meant after escape _ ih =>
    obtain ⟨chars, used, rfl, spells, rfl⟩ := ih read
    obtain ⟨piece, rfl, spellsChar⟩ := char_of_readEscape escape
    exact ⟨meant :: chars, '\\' :: piece ++ used, by simp, .cons spellsChar spells, by simp⟩
  | case6 before c tail notQuote notSlash visible ih =>
    obtain ⟨chars, used, rfl, spells, rfl⟩ := ih read
    have raw : SpellsChar c [c] := .raw notQuote notSlash (Nat.le_of_not_lt visible)
    exact ⟨c :: chars, [c] ++ used, rfl, .cons raw spells, by simp⟩

theorem string_of_readString {text rest : List Char} {value : String}
    (read : readString [] text = .ok (value, rest)) :
    ∃ used, text = used ++ '"' :: rest ∧ Spells value.toList used := by
  obtain ⟨chars, used, split, spells, rfl⟩ := spells_of_readString read
  exact ⟨used, split, by simpa using spells⟩

theorem quoted_of_skipEscape {text rest : List Char} (skipped : skipEscape text = .ok rest) :
    ∃ used, text = used ++ rest ∧
      ∀ {tail : List Char}, QuotedText tail → QuotedText ('\\' :: (used ++ tail)) := by
  unfold skipEscape at skipped
  split at skipped
  next => cases skipped
  next head tail =>
    split at skipped
    next meant short =>
      cases skipped
      exact ⟨[head], rfl, .short (mem_shortEscapes short)⟩
    next =>
      split at skipped
      next isUnicode =>
        subst isUnicode
        obtain ⟨⟨unit, after⟩, first, skipped⟩ := bind_eq_ok.1 skipped
        cases skipped
        obtain ⟨digits, rfl, spells⟩ := unit_of_readUnit first
        exact ⟨'u' :: digits, rfl, .unit spells⟩
      next => cases skipped

theorem quoted_of_skipString {text rest : List Char} (skipped : skipString text = .ok rest) :
    ∃ used, text = used ++ '"' :: rest ∧ QuotedText used := by
  fun_induction skipString text with
  | case1 | case4 | case5 => cases skipped
  | case2 tail =>
    cases skipped
    exact ⟨[], rfl, .nil⟩
  | case3 tail after escape _ ih =>
    obtain ⟨used, rfl, quoted⟩ := ih skipped
    obtain ⟨piece, rfl, extend⟩ := quoted_of_skipEscape escape
    exact ⟨'\\' :: (piece ++ used), by simp, extend quoted⟩
  | case6 c tail notQuote notSlash visible ih =>
    obtain ⟨used, rfl, quoted⟩ := ih skipped
    exact ⟨c :: used, rfl, .raw notQuote notSlash (Nat.le_of_not_lt visible) quoted⟩

theorem quoted_of_spells {chars text : List Char} (spells : Spells chars text) :
    QuotedText text := by
  induction spells with
  | nil => exact .nil
  | cons piece _ ih =>
    cases piece with
    | raw notQuote notSlash visible => exact .raw notQuote notSlash visible ih
    | short listed => exact .short listed ih
    | unit digits _ _ => exact .unit digits ih
    | pair first second _ _ =>
      have low := QuotedText.unit second ih
      simpa using QuotedText.unit first low

end Winternitz.Json
