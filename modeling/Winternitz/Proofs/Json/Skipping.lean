import Winternitz.Json.Skip
import Winternitz.Proofs.Json.Taking

set_option autoImplicit false

namespace Winternitz.Json

namespace Literal

theorem endsDigits_exponent {exponent rest : List Char} (text : ExponentText exponent)
    (ends : Ends rest) : EndsDigits (exponent ++ rest) ∧ (exponent ++ rest).head? ≠ some '.' := by
  cases text with
  | none =>
    refine ⟨ends.digits, ?_⟩
    cases rest with
    | nil => simp
    | cons c rest => simpa using ends.2.1
  | digits mark sign digit all =>
    simp only [List.mem_cons, List.not_mem_nil, or_false] at mark
    rcases mark with rfl | rfl <;> exact ⟨rfl, by simp⟩

theorem endsDigits_fraction {fraction rest : List Char} (text : FractionText fraction)
    (ends : EndsDigits rest) : EndsDigits (fraction ++ rest) := by
  cases text with
  | none => exact ends
  | digits _ _ => rfl

theorem readFraction_text {fraction rest : List Char} (text : FractionText fraction)
    (ends : EndsDigits rest) (noPoint : rest.head? ≠ some '.') :
    readFraction (fraction ++ rest) = .ok (fraction.tail, rest) := by
  cases text with
  | none =>
    simp only [List.nil_append, List.tail_nil]
    unfold readFraction
    split
    next => simp at noPoint
    next => rfl
  | digits digit all =>
    obtain ⟨found, after⟩ := digits_append (List.forall_mem_cons.mpr ⟨digit, all⟩) ends
    simp only [List.cons_append] at found after ⊢
    simp [readFraction, found, after]

theorem readExponent_text {exponent rest : List Char} (text : ExponentText exponent)
    (ends : Ends rest) : ∃ found, readExponent (exponent ++ rest) = .ok (found, rest) := by
  cases text with
  | none => exact ⟨none, readExponent_of_ends ends⟩
  | @digits e d sign ds mark signed digit all =>
    obtain ⟨-, after⟩ := digits_append all ends.digits
    have isMark : e = 'e' ∨ e = 'E' := by simpa using mark
    have digitFirst : readSign (d :: (ds ++ rest)) = (false, d :: (ds ++ rest)) := by
      unfold readSign
      split
      next same => cases same; exact absurd digit (by decide)
      next same => cases same; exact absurd digit (by decide)
      next => rfl
    have read : ∃ negative,
        readSign (sign ++ d :: (ds ++ rest)) = (negative, d :: (ds ++ rest)) := by
      simp only [List.mem_cons, List.not_mem_nil, or_false] at signed
      rcases signed with rfl | rfl | rfl
      · exact ⟨false, digitFirst⟩
      · exact ⟨false, rfl⟩
      · exact ⟨true, rfl⟩
    obtain ⟨negative, read⟩ := read
    exact ⟨some (negative, d :: digits (ds ++ rest)), by
      simp [readExponent, isMark, read, digit, after]⟩

theorem read_text {text rest : List Char} (unsigned : UnsignedText text) (ends : Ends rest) :
    ∃ literal, read (text ++ rest) = .ok (literal, rest) := by
  cases unsigned with
  | @parts whole fraction exponent numeral fractionText exponentText =>
    obtain ⟨endsDigits, noPoint⟩ := endsDigits_exponent exponentText ends
    have first := readWhole_numeral numeral (endsDigits_fraction fractionText endsDigits)
    have second := readFraction_text fractionText endsDigits noPoint
    obtain ⟨found, third⟩ := readExponent_text exponentText ends
    refine ⟨⟨whole, fraction.tail, found⟩, ?_⟩
    simp only [List.append_assoc, read, first, second, third, bind, Except.bind]
    rfl

end Literal

theorem UnsignedText.head {text : List Char} (unsigned : UnsignedText text) :
    ∃ d rest, text = d :: rest ∧ d.isDigit = true := by
  obtain ⟨numeral, -, -⟩ := unsigned
  obtain ⟨d, ds, rfl, digit⟩ := numeral.head
  exact ⟨d, _, rfl, digit⟩

theorem skipNumber_text {text rest : List Char} (unsigned : UnsignedText text)
    (ends : Ends rest) : skipNumber (text ++ rest) = .ok rest := by
  obtain ⟨literal, read⟩ := Literal.read_text unsigned ends
  simp [skipNumber, read]

theorem skipString_escape {text after : List Char} (skipped : skipEscape text = .ok after) :
    skipString ('\\' :: text) = skipString after := by
  rw [skipString]
  simp only [Char.reduceEq, if_false, if_true]
  split
  next same => cases skipped.symm.trans same; rfl
  next same => cases skipped.symm.trans same

theorem skipString_text {text : List Char} (quoted : QuotedText text) (rest : List Char) :
    skipString (text ++ '"' :: rest) = .ok rest := by
  induction quoted with
  | nil => simp [skipString]
  | raw notQuote notSlash visible _ ih =>
    rw [List.cons_append, skipString]
    simp [notQuote, notSlash, Nat.not_lt.mpr visible, ih]
  | @short c meant tail listed _ ih =>
    have escape : skipEscape (c :: (tail ++ '"' :: rest)) = .ok (tail ++ '"' :: rest) := by
      simp [skipEscape, shortEscape?_of_mem listed]
    exact (skipString_escape escape).trans ih
  | @unit unit digits tail spells _ ih =>
    have escape : skipEscape ('u' :: (digits ++ (tail ++ '"' :: rest))) =
        .ok (tail ++ '"' :: rest) := by
      have none : shortEscape? 'u' = none := rfl
      simp [skipEscape, none, readUnit_spelled spells, bind, Except.bind, pure, Except.pure]
    rw [← ih, ← skipString_escape escape]
    simp

/-- A text that is passed over as a whole, whatever blanks stand before it and whatever ends it. -/
structure Skipped (stage : Stage) (text : List Char) : Prop where
  solid : ∃ c rest, text = c :: rest ∧ isBlank c = false ∧ c ≠ ']' ∧ c ≠ '\x7d'
  run : ∀ {blanks rest : List Char} (opened : List Bracket), Blank blanks → Ends rest →
    skip stage opened (blanks ++ (text ++ rest)) = skip .more opened rest

-- The loop without the facts that its termination rests on.
theorem skip_eq (stage : Stage) (opened : List Bracket) (text : List Char) :
    skip stage opened text =
      match stage, opened with
      | .more, [] => .ok text
      | .more, bracket :: outer =>
        match dropBlank text with
        | [] => .error (.peek (.endOfText (.inside bracket)) [])
        | c :: rest =>
          if c = ',' then skip bracket.item (bracket :: outer) rest
          else if c = bracket.closer then skip .more outer rest
          else .error (.peek (.expectedCommaOr bracket) (c :: rest))
      | .key, opened =>
        match dropBlank text with
        | [] => .error (.peek (.endOfText (.inside .object)) [])
        | c :: rest =>
          if c = '"' then do
            let afterKey ← skipString rest
            let afterColon ← readColon afterKey
            skip .value opened afterColon
          else .error (.peek .keyNotString (c :: rest))
      | .value, opened =>
        match dropBlank text with
        | [] => .error (.peek (.endOfText .value) [])
        | c :: rest =>
          match openedBracket? c with
          | none => do
            let after ← skipScalar (c :: rest)
            skip .more opened after
          | some bracket =>
            match dropBlank rest with
            | [] => .error (.peek (.endOfText (.inside bracket)) [])
            | d :: after =>
              if d = bracket.closer then skip .more opened after
              else skip bracket.item (bracket :: opened) rest := by
  fun_cases skip stage opened text <;> simp_all [bind, Except.bind]

theorem skip_scalar {c : Char} {text tail after : List Char} (opened : List Bracket)
    (start : dropBlank text = c :: tail) (plain : openedBracket? c = none)
    (scalar : skipScalar (c :: tail) = .ok after) :
    skip .value opened text = skip .more opened after := by
  rw [skip_eq]
  simp [start, plain, scalar, bind, Except.bind]

theorem skip_empty {c : Char} {bracket : Bracket} {text tail after : List Char}
    (opened : List Bracket) (start : dropBlank text = c :: tail)
    (opens : openedBracket? c = some bracket) (close : dropBlank tail = bracket.closer :: after) :
    skip .value opened text = skip .more opened after := by
  rw [skip_eq]
  simp [start, opens, close]

theorem skip_open {c d : Char} {bracket : Bracket} {text tail after : List Char}
    (opened : List Bracket) (start : dropBlank text = c :: tail)
    (opens : openedBracket? c = some bracket) (next : dropBlank tail = d :: after)
    (notClose : d ≠ bracket.closer) :
    skip .value opened text = skip bracket.item (bracket :: opened) tail := by
  rw [skip_eq]
  simp [start, opens, next, notClose]

theorem skip_key {text tail afterKey afterColon : List Char} (opened : List Bracket)
    (start : dropBlank text = '"' :: tail) (key : skipString tail = .ok afterKey)
    (colon : readColon afterKey = .ok afterColon) :
    skip .key opened text = skip .value opened afterColon := by
  rw [skip_eq]
  simp [start, key, colon, bind, Except.bind]

theorem skip_more {c : Char} {text tail : List Char} (bracket : Bracket) (opened : List Bracket)
    (start : dropBlank text = c :: tail) :
    skip .more (bracket :: opened) text =
      if c = ',' then skip bracket.item (bracket :: opened) tail
      else if c = bracket.closer then skip .more opened tail
      else .error (.peek (.expectedCommaOr bracket) (c :: tail)) := by
  rw [skip_eq]
  simp [start]

theorem skipped_scalar {c : Char} {tail : List Char} (solid : isBlank c = false)
    (plain : openedBracket? c = none) (notClose : c ≠ ']' ∧ c ≠ '\x7d')
    (scalar : ∀ rest, Ends rest → skipScalar (c :: (tail ++ rest)) = .ok rest) :
    Skipped .value (c :: tail) where
  solid := ⟨c, tail, rfl, solid, notClose⟩
  run {_ rest} opened blank ends :=
    skip_scalar opened (dropBlank_to blank solid _) plain (scalar rest ends)

theorem skipped_word {c : Char} {word : List Char} (listed : (c, word) ∈
    [('n', ['u', 'l', 'l']), ('t', ['r', 'u', 'e']), ('f', ['a', 'l', 's', 'e'])]) :
    Skipped .value (c :: word) := by
  have read := readWord_append word
  simp only [List.mem_cons, Prod.mk.injEq, List.not_mem_nil, or_false] at listed
  rcases listed with ⟨rfl, rfl⟩ | ⟨rfl, rfl⟩ | ⟨rfl, rfl⟩ <;>
    exact skipped_scalar (by decide) (by decide) (by decide) fun rest _ => read rest

theorem skipped_unsigned {text : List Char} (unsigned : UnsignedText text) :
    Skipped .value text := by
  obtain ⟨d, tail, rfl, digit⟩ := unsigned.head
  have other (c : Char) (notDigit : c.isDigit = false) : d ≠ c := by
    rintro rfl
    exact absurd digit (by simp [notDigit])
  have plain : openedBracket? d = none := by
    unfold openedBracket?
    split
    next => exact absurd rfl (other '[' (by decide))
    next => exact absurd rfl (other '\x7b' (by decide))
    next => rfl
  refine skipped_scalar (isBlank_of_isDigit digit) plain
    ⟨other ']' (by decide), other '\x7d' (by decide)⟩ fun rest ends => ?_
  have read := skipNumber_text unsigned ends
  simp only [skipScalar, other '"' (by decide), other 'n' (by decide), other 't' (by decide),
    other 'f' (by decide), other '-' (by decide), digit, if_true, if_false]
  exact read

theorem skipped_number {text : List Char} (number : NumberText text) : Skipped .value text := by
  cases number with
  | unsigned unsigned => exact skipped_unsigned unsigned
  | negative unsigned =>
    exact skipped_scalar (by decide) (by decide) (by decide) fun rest ends =>
      skipNumber_text unsigned ends

theorem skipped_quoted {text : List Char} (quoted : QuotedText text) :
    Skipped .value ('"' :: (text ++ ['"'])) := by
  refine skipped_scalar (by decide) (by decide) (by decide) fun rest _ => ?_
  have read := skipString_text quoted rest
  simpa [skipScalar] using read

theorem skipped_member {key value text : List Char} (quoted : QuotedText key)
    (skipped : Skipped .value value) (member : MemberText key value text) :
    Skipped .key text := by
  cases member with
  | @colon before after blankBefore blankAfter =>
    refine ⟨⟨'"', _, rfl, by decide, by decide, by decide⟩, ?_⟩
    intro blanks rest opened blank ends
    have start := dropBlank_to blank (show isBlank '"' = false by decide)
      (key ++ '"' :: (before ++ ':' :: (after ++ (value ++ rest))))
    have read := skipString_text quoted (before ++ ':' :: (after ++ (value ++ rest)))
    have colon := readColon_blank blankBefore (after ++ (value ++ rest))
    have passed := (skip_key opened start read colon).trans (skipped.run opened blankAfter ends)
    simpa using passed

theorem solid_closer (bracket : Bracket) :
    isBlank bracket.closer = false ∧ bracket.closer ≠ ',' := by
  cases bracket <;> exact ⟨rfl, by decide⟩

section Items

variable {ι : Type} {spells : ι → List Char → Prop} {items : List ι} {text : List Char}

-- The brackets that are open do not matter, but the innermost says what its items are.
theorem skip_items {bracket : Bracket} (laid : Items spells items text)
    (each : ∀ item ∈ items, ∀ text, spells item text → Skipped bracket.item text)
    (opened : List Bracket) (rest : List Char) :
    skip bracket.item (bracket :: opened) (text ++ bracket.closer :: rest) =
      skip .more opened rest := by
  induction laid with
  | one blank spelled blankAfter =>
    have ends := ends_append blankAfter (ends_closer bracket rest)
    have passed := (each _ (by simp) _ spelled).run (bracket :: opened) blank ends
    obtain ⟨solid, notComma⟩ := solid_closer bracket
    have close := skip_more bracket opened (dropBlank_to blankAfter solid rest)
    rw [if_neg notComma, if_pos rfl] at close
    simpa using passed.trans close
  | @more _ _ _ _ _ tail blank spelled blankAfter _ ih =>
    have ends := ends_append blankAfter (ends_comma (tail ++ bracket.closer :: rest))
    have passed := (each _ (by simp) _ spelled).run (bracket :: opened) blank ends
    have comma := skip_more bracket opened (dropBlank_to blankAfter
      (show isBlank ',' = false by decide) (tail ++ bracket.closer :: rest))
    rw [if_pos rfl, ih fun other member => each other (by simp [member])] at comma
    simpa using passed.trans comma

theorem Items.start (laid : Items spells items text) :
    ∃ item ∈ items, ∃ blanks shown rest, Blank blanks ∧ spells item shown ∧
      text = blanks ++ (shown ++ rest) := by
  cases laid with
  | one blank spelled _ => exact ⟨_, by simp, _, _, _, blank, spelled, rfl⟩
  | more blank spelled _ _ => exact ⟨_, by simp, _, _, _, blank, spelled, rfl⟩

-- Brackets are closed by what closes them, so nothing has to end the text behind.
theorem skip_enclosed (bracket : Bracket) {c : Char} (opens : openedBracket? c = some bracket)
    (solid : isBlank c = false)
    (each : ∀ item ∈ items, ∀ text, spells item text → Skipped bracket.item text)
    (enclosed : Enclosed spells c bracket.closer items text) {blanks : List Char}
    (blank : Blank blanks) (opened : List Bracket) (rest : List Char) :
    skip .value opened (blanks ++ (text ++ rest)) = skip .more opened rest := by
  cases enclosed with
  | @empty inner blankInner =>
    have start := dropBlank_to blank solid (inner ++ bracket.closer :: rest)
    have close := dropBlank_to blankInner (solid_closer bracket).1 rest
    simpa using skip_empty opened start opens close
  | @items _ text laid =>
    have start := dropBlank_to blank solid (text ++ bracket.closer :: rest)
    have inside := skip_items laid each opened rest
    obtain ⟨item, member, before, shown, tail, blankBefore, spelled, rfl⟩ := laid.start
    obtain ⟨d, later, rfl, solidItem, notList, notObject⟩ := (each item member shown spelled).solid
    have first := dropBlank_to blankBefore solidItem
      (later ++ (tail ++ bracket.closer :: rest))
    have notClose : d ≠ bracket.closer := by
      cases bracket
      · exact notList
      · exact notObject
    simp only [List.append_assoc, List.cons_append] at start inside
    have entered := skip_open opened start opens first notClose
    simpa using entered.trans inside

theorem skipped_enclosed (bracket : Bracket) {c : Char} (opens : openedBracket? c = some bracket)
    (solid : isBlank c = false ∧ c ≠ ']' ∧ c ≠ '\x7d')
    (each : ∀ item ∈ items, ∀ text, spells item text → Skipped bracket.item text)
    (enclosed : Enclosed spells c bracket.closer items text) : Skipped .value text where
  solid := by
    cases enclosed with
    | empty | items => exact ⟨c, _, rfl, solid⟩
  run opened blank _ := skip_enclosed bracket opens solid.1 each enclosed blank opened _

end Items

theorem skipped_value {text : List Char} (value : ValueText text) : Skipped .value text := by
  induction value with
  | null | true | false => exact skipped_word (by decide)
  | number number => exact skipped_number number
  | string quoted => exact skipped_quoted quoted
  | list _ enclosed ih =>
    refine skipped_enclosed .list rfl (by decide) (fun item member text same => ?_) enclosed
    exact same ▸ ih item member
  | object keys _ enclosed ih =>
    refine skipped_enclosed .object rfl (by decide) (fun member inside text spelled => ?_) enclosed
    exact skipped_member (keys member inside) (ih member inside) spelled

theorem skipValue_text {blanks text rest : List Char} (value : ValueText text)
    (blank : Blank blanks) (ends : Ends rest) :
    skipValue (blanks ++ (text ++ rest)) = .ok rest := by
  rw [skipValue, (skipped_value value).run [] blank ends, skip]

end Winternitz.Json
