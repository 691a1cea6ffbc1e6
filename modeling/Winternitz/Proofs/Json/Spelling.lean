import Winternitz.Json.StringLiteral
import Winternitz.Json.Value

set_option autoImplicit false

namespace Winternitz.Json

inductive SpellsDigit : Nat → Char → Prop
  | lower {value : Nat} : value < 16 → SpellsDigit value value.digitChar
  | upper {value : Nat} : value < 16 → SpellsDigit value value.digitChar.toUpper

inductive SpellsUnit : Nat → List Char → Prop
  | digits {a b c d : Char} {w x y z : Nat} : SpellsDigit w a → SpellsDigit x b →
      SpellsDigit y c → SpellsDigit z d →
      SpellsUnit (((w * 16 + x) * 16 + y) * 16 + z) [a, b, c, d]

/-- The characters that a backslash may stand in front of, with those that are meant. -/
def shortEscapes : List (Char × Char) :=
  [('"', '"'), ('\\', '\\'), ('/', '/'), ('b', '\x08'), ('f', '\x0c'), ('n', '\n'), ('r', '\r'),
    ('t', '\t')]

inductive SpellsChar : Char → List Char → Prop
  | raw {c : Char} : c ≠ '"' → c ≠ '\\' → 0x20 ≤ c.toNat → SpellsChar c [c]
  | short {c meant : Char} : (c, meant) ∈ shortEscapes → SpellsChar meant ['\\', c]
  | unit {unit : Nat} {digits : List Char} : SpellsUnit unit digits →
      isHighSurrogate unit = false → isLowSurrogate unit = false →
      SpellsChar (Char.ofNat unit) ('\\' :: 'u' :: digits)
  | pair {high low : Nat} {first second : List Char} : SpellsUnit high first →
      SpellsUnit low second → isHighSurrogate high = true → isLowSurrogate low = true →
      SpellsChar (Char.ofNat (0x10000 + (high - 0xd800) * 0x400 + (low - 0xdc00)))
        ('\\' :: 'u' :: (first ++ '\\' :: 'u' :: second))

inductive Spells : List Char → List Char → Prop
  | nil : Spells [] []
  | cons {c : Char} {piece chars text : List Char} : SpellsChar c piece → Spells chars text →
      Spells (c :: chars) (piece ++ text)

theorem value?_spelled {value : Nat} {c : Char} (spells : SpellsDigit value c) :
    Hex.value? c = some value := by
  have lower : ∀ value < 16, Hex.value? value.digitChar = some value := by decide
  have upper : ∀ value < 16, Hex.value? value.digitChar.toUpper = some value := by decide
  cases spells with
  | lower below => exact lower value below
  | upper below => exact upper value below

theorem readUnit_spelled {unit : Nat} {digits : List Char} (spells : SpellsUnit unit digits)
    (rest : List Char) : readUnit (digits ++ rest) = .ok (unit, rest) := by
  obtain ⟨first, second, third, fourth⟩ := spells
  simp [readUnit, value?_spelled first, value?_spelled second, value?_spelled third,
    value?_spelled fourth]

theorem shortEscape?_of_mem {c meant : Char} (listed : (c, meant) ∈ shortEscapes) :
    shortEscape? c = some meant := by
  have all : ∀ pair ∈ shortEscapes, shortEscape? pair.1 = some pair.2 := by decide
  exact all (c, meant) listed

theorem not_low_of_high {unit : Nat} (high : isHighSurrogate unit = true) :
    isLowSurrogate unit = false := by
  simp only [isHighSurrogate, isLowSurrogate, Bool.and_eq_true, Bool.and_eq_false_iff,
    decide_eq_true_eq, decide_eq_false_iff_not] at *
  omega

theorem readUnicodeEscape_unit {unit : Nat} {digits : List Char} (spells : SpellsUnit unit digits)
    (notHigh : isHighSurrogate unit = false) (notLow : isLowSurrogate unit = false)
    (rest : List Char) : readUnicodeEscape (digits ++ rest) = .ok (Char.ofNat unit, rest) := by
  simp [readUnicodeEscape, readUnit_spelled spells, notHigh, notLow, bind, Except.bind, pure,
    Except.pure]

theorem readUnicodeEscape_pair {high low : Nat} {first second : List Char}
    (spellsHigh : SpellsUnit high first) (spellsLow : SpellsUnit low second)
    (isHigh : isHighSurrogate high = true) (isLow : isLowSurrogate low = true)
    (rest : List Char) :
    readUnicodeEscape (first ++ '\\' :: 'u' :: (second ++ rest)) =
      .ok (Char.ofNat (0x10000 + (high - 0xd800) * 0x400 + (low - 0xdc00)), rest) := by
  have follows : readLowSurrogate ('\\' :: 'u' :: (second ++ rest)) = .ok (low, rest) := by
    simp [readLowSurrogate, readUnit_spelled spellsLow, isLow, bind, Except.bind, pure, Except.pure]
  simp [readUnicodeEscape, readUnit_spelled spellsHigh, not_low_of_high isHigh, isHigh, follows,
    bind, Except.bind, pure, Except.pure]

theorem readEscape_short {c meant : Char} (listed : (c, meant) ∈ shortEscapes)
    (rest : List Char) : readEscape (c :: rest) = .ok (meant, rest) := by
  simp [readEscape, shortEscape?_of_mem listed]

theorem readEscape_unicode (text : List Char) : readEscape ('u' :: text) = readUnicodeEscape text :=
  rfl

theorem readString_quote (before rest : List Char) :
    readString before ('"' :: rest) = .ok (String.ofList before.reverse, rest) := by
  simp [readString]

theorem readString_escape {meant : Char} {after text : List Char} (before : List Char)
    (read : readEscape text = .ok (meant, after)) :
    readString before ('\\' :: text) = readString (meant :: before) after := by
  rw [readString]
  simp only [Char.reduceEq, if_false, if_true]
  split
  next found same =>
    cases read.symm.trans same
    rfl
  next failure same => cases read.symm.trans same

theorem readString_piece {c : Char} {piece : List Char} (spells : SpellsChar c piece)
    (before rest : List Char) :
    readString before (piece ++ rest) = readString (c :: before) rest := by
  cases spells with
  | raw notQuote notSlash visible =>
    rw [List.singleton_append, readString]
    simp [notQuote, notSlash, Nat.not_lt.mpr visible]
  | short short => exact readString_escape before (readEscape_short short rest)
  | unit digits notHigh notLow =>
    exact readString_escape before
      ((readEscape_unicode _).trans (readUnicodeEscape_unit digits notHigh notLow rest))
  | pair first second isHigh isLow =>
    refine readString_escape before ((readEscape_unicode _).trans ?_)
    rw [← readUnicodeEscape_pair first second isHigh isLow rest]
    simp

theorem readString_spelled {chars text : List Char} (spells : Spells chars text)
    (before rest : List Char) :
    readString before (text ++ '"' :: rest) =
      .ok (String.ofList (before.reverse ++ chars), rest) := by
  induction spells generalizing before with
  | nil => simp [readString_quote]
  | cons piece _ ih => rw [List.append_assoc, readString_piece piece, ih]; simp

theorem spellsDigit_digit {value : Nat} (below : value < 16) :
    SpellsDigit value (Hex.digit value) := by
  have same : ∀ value < 16, Hex.digit value = value.digitChar := by decide
  rw [same value below]
  exact .lower below

theorem spellsUnit_of_lt {n : Nat} (small : n < 0x20) :
    SpellsUnit n ['0', '0', Hex.digit (n / 16), Hex.digit (n % 16)] := by
  have zero : SpellsDigit 0 '0' := .lower (by omega)
  have spells := SpellsUnit.digits zero zero (spellsDigit_digit (show n / 16 < 16 by omega))
    (spellsDigit_digit (Nat.mod_lt n (by omega)))
  rwa [show ((0 * 16 + 0) * 16 + n / 16) * 16 + n % 16 = n by omega] at spells

theorem spells_escape (c : Char) : SpellsChar c (escape c) := by
  by_cases quote : c = '"'
  · subst quote; exact .short (by decide)
  by_cases slash : c = '\\'
  · subst slash; exact .short (by decide)
  by_cases backspace : c = '\x08'
  · subst backspace; exact .short (by decide)
  by_cases formFeed : c = '\x0c'
  · subst formFeed; exact .short (by decide)
  by_cases newline : c = '\n'
  · subst newline; exact .short (by decide)
  by_cases carriage : c = '\r'
  · subst carriage; exact .short (by decide)
  by_cases tab : c = '\t'
  · subst tab; exact .short (by decide)
  by_cases control : c.toNat < 0x20
  · have spells := SpellsChar.unit (spellsUnit_of_lt control)
      (by simp [isHighSurrogate]; omega) (by simp [isLowSurrogate]; omega)
    rw [Char.ofNat_toNat] at spells
    simpa [escape, quote, slash, backspace, formFeed, newline, carriage, tab, control] using spells
  · have spells : SpellsChar c [c] := .raw quote slash (Nat.le_of_not_lt control)
    simpa [escape, quote, slash, backspace, formFeed, newline, carriage, tab, control] using spells

theorem spells_flatMap_escape (chars : List Char) : Spells chars (chars.flatMap escape) := by
  induction chars with
  | nil => exact .nil
  | cons c rest ih => exact .cons (spells_escape c) ih

end Winternitz.Json
