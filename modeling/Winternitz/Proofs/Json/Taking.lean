import Winternitz.Json.Record
import Winternitz.Proofs.Json.Grammar

set_option autoImplicit false

namespace Winternitz.Json

theorem isBlank_iff (c : Char) :
    isBlank c = true ↔ c = ' ' ∨ c = '\t' ∨ c = '\n' ∨ c = '\r' := by
  simp [isBlank, or_assoc, or_left_comm]

theorem dropBlank_append {blanks : List Char} (blank : Blank blanks) (text : List Char) :
    dropBlank (blanks ++ text) = dropBlank text :=
  List.dropWhile_append_of_pos fun c member => (isBlank_iff c).mpr (blank c member)

theorem dropBlank_of_solid {c : Char} (solid : isBlank c = false) (rest : List Char) :
    dropBlank (c :: rest) = c :: rest := by
  simp [dropBlank, solid]

theorem dropBlank_to {blanks : List Char} {c : Char} (blank : Blank blanks)
    (solid : isBlank c = false) (rest : List Char) :
    dropBlank (blanks ++ c :: rest) = c :: rest := by
  rw [dropBlank_append blank, dropBlank_of_solid solid]

theorem ends_of_isBlank {c : Char} (blank : isBlank c = true) (rest : List Char) :
    Ends (c :: rest) := by
  simp only [isBlank, Bool.or_eq_true, beq_iff_eq] at blank
  rcases blank with ((rfl | rfl) | rfl) | rfl <;> exact ⟨rfl, by decide, by decide, by decide⟩

theorem isBlank_of_isDigit {c : Char} (digit : c.isDigit = true) : isBlank c = false := by
  cases blank : isBlank c with
  | false => rfl
  | true => exact absurd digit (by simp [(ends_of_isBlank blank []).1])

theorem ends_append {blanks rest : List Char} (blank : Blank blanks) (ends : Ends rest) :
    Ends (blanks ++ rest) := by
  cases blanks with
  | nil => exact ends
  | cons c blanks => exact ends_of_isBlank ((isBlank_iff c).mpr (blank c (by simp))) _

theorem ends_closer (bracket : Bracket) (rest : List Char) : Ends (bracket.closer :: rest) := by
  cases bracket <;> exact ⟨rfl, by decide, by decide, by decide⟩

theorem ends_comma (rest : List Char) : Ends (',' :: rest) :=
  ⟨rfl, by decide, by decide, by decide⟩

theorem readWord_append (word rest : List Char) : readWord word (word ++ rest) = .ok rest := by
  induction word with
  | nil => rfl
  | cons letter word ih => simpa [readWord] using ih

theorem readColon_blank {blanks : List Char} (blank : Blank blanks) (rest : List Char) :
    readColon (blanks ++ ':' :: rest) = .ok rest := by
  have start := dropBlank_to blank (show isBlank ':' = false by decide) rest
  simp [readColon, start]

namespace Reader

variable {α β : Type}

/-- A reader takes a value from a text, whatever blanks stand before it and whatever ends it. -/
structure Takes (reader : Reader α) (text : List Char) (value : α) : Prop where
  solid : ∃ c rest, text = c :: rest ∧ isBlank c = false ∧ c ≠ ']'
  run : ∀ {blanks rest : List Char}, Blank blanks → Ends rest →
    reader.run (blanks ++ (text ++ rest)) = .ok (value, rest)

theorem takes_map {reader : Reader α} {text : List Char} {value : α} (f : α → β)
    (takes : reader.Takes text value) : (reader.map f).Takes text (f value) where
  solid := takes.solid
  run blank ends := by simp [map, takes.run blank ends, bind, Except.bind, pure, Except.pure]

theorem takes_starting {reader : Reader α} {expected : String} {starts : Char → Bool}
    {read : Char → List Char → Result (α × List Char)}
    (runs : reader.run = runStarting expected starts read)
    {c : Char} {tail : List Char} {value : α} (solid : isBlank c = false) (notClose : c ≠ ']')
    (start : starts c = true)
    (reads : ∀ rest, Ends rest → read c (tail ++ rest) = .ok (value, rest)) :
    reader.Takes (c :: tail) value where
  solid := ⟨c, tail, rfl, solid, notClose⟩
  run {blanks rest} blank ends := by
    have first := dropBlank_to blank solid (tail ++ rest)
    simp [runs, runStarting, first, start, reads rest ends]

theorem takes_string {chars text : List Char} (spells : Spells chars text) :
    string.Takes ('"' :: (text ++ ['"'])) (String.ofList chars) := by
  refine takes_starting rfl (by decide) (by decide) rfl fun rest _ => ?_
  simpa using readString_spelled spells [] rest

theorem takes_size (n : UInt64) : size.Takes (Nat.toDigits 10 n.toNat) n := by
  obtain ⟨d, ds, written, digit, -⟩ := readSigned_toDigits n (show Ends [] from trivial)
  have notClose : d ≠ ']' := by
    rintro rfl
    exact absurd digit (by decide)
  rw [written]
  refine takes_starting rfl (isBlank_of_isDigit digit) notClose (by simp [startsNumber, digit])
    fun rest ends => ?_
  obtain ⟨_, _, same, -, read⟩ := readSigned_toDigits n ends
  cases written.symm.trans same
  simp [readSize, read, sizeOf, bind, Except.bind, pure, Except.pure]

theorem takes_null (reader : Reader α) : reader.optional.Takes ['n', 'u', 'l', 'l'] none where
  solid := ⟨'n', ['u', 'l', 'l'], rfl, by decide, by decide⟩
  run {blanks rest} blank _ := by
    have first := dropBlank_to blank (show isBlank 'n' = false by decide) ('u' :: 'l' :: 'l' :: rest)
    have word := readWord_append ['u', 'l', 'l'] rest
    simp only [List.cons_append, List.nil_append] at word
    simp [optional, first, word, bind, Except.bind, pure, Except.pure]

theorem takes_optional {reader : Reader α} {text : List Char} {value : α}
    (takes : reader.Takes text value) (notNull : text.head? ≠ some 'n') :
    reader.optional.Takes text (some value) where
  solid := takes.solid
  run {blanks rest} blank ends := by
    obtain ⟨c, tail, rfl, solid, -⟩ := takes.solid
    have first := dropBlank_to blank solid (tail ++ rest)
    have other : c ≠ 'n' := by simpa using notNull
    have run := (takes_map some takes).run blank ends
    simp only [optional, List.cons_append, first] at run ⊢
    split
    next same => cases same; exact absurd rfl other
    next => exact run

inductive TakesElements (element : Reader α) : Bool → List Char → List α → Prop
  | close {first : Bool} {blanks : List Char} : Blank blanks →
      TakesElements element first (blanks ++ [']']) []
  | head {blanks text tail : List Char} {value : α} {values : List α} : Blank blanks →
      element.Takes text value → TakesElements element false tail values →
      TakesElements element true (blanks ++ (text ++ tail)) (value :: values)
  | next {blanks between text tail : List Char} {value : α} {values : List α} : Blank blanks →
      Blank between → element.Takes text value → TakesElements element false tail values →
      TakesElements element false (blanks ++ ',' :: (between ++ (text ++ tail))) (value :: values)

theorem TakesElements.ends {element : Reader α} {tail : List Char} {values : List α}
    (taken : TakesElements element false tail values) (rest : List Char) : Ends (tail ++ rest) := by
  cases taken with
  | close blank =>
    rw [List.append_assoc]
    exact ends_append blank (ends_closer .list rest)
  | next blank _ _ _ =>
    rw [List.append_assoc]
    exact ends_append blank (ends_comma _)

theorem takesElements_comma {element : Reader α} {blanks text : List Char} {value : α}
    {values : List α} (blank : Blank blanks)
    (taken : TakesElements element true text (value :: values)) :
    TakesElements element false (blanks ++ ',' :: text) (value :: values) := by
  cases taken with
  | head between takes tail => exact .next blank between takes tail

theorem nextElement_close (first : Bool) {blanks : List Char} (blank : Blank blanks)
    (rest : List Char) : nextElement first (blanks ++ ']' :: rest) = .ok (false, rest) := by
  have start := dropBlank_to blank (show isBlank ']' = false by decide) rest
  simp [nextElement, start]

theorem nextElement_head {blanks : List Char} {c : Char} (blank : Blank blanks)
    (solid : isBlank c = false) (notClose : c ≠ ']') (rest : List Char) :
    nextElement true (blanks ++ c :: rest) = .ok (true, c :: rest) := by
  have start := dropBlank_to blank solid rest
  simp [nextElement, start, notClose]

theorem nextElement_next {blanks between : List Char} {c : Char} (blank : Blank blanks)
    (blankBetween : Blank between) (solid : isBlank c = false) (notClose : c ≠ ']')
    (rest : List Char) :
    nextElement false (blanks ++ ',' :: (between ++ c :: rest)) = .ok (true, c :: rest) := by
  have start := dropBlank_to blank (show isBlank ',' = false by decide) (between ++ c :: rest)
  have next := dropBlank_to blankBetween solid rest
  simp [nextElement, start, next, notClose]

-- The loop without the facts that its termination rests on.
theorem readElements_eq (element : Reader α) (before : List α) (text : List Char) :
    readElements element before text = (do
      let (more, rest) ← nextElement before.isEmpty text
      if more then
        let (value, after) ← element.run rest
        readElements element (value :: before) after
      else .ok (before.reverse, rest)) := by
  fun_cases readElements element before text <;> simp_all [bind, Except.bind]

theorem readElements_close {element : Reader α} {before : List α} {text rest : List Char}
    (turn : nextElement before.isEmpty text = .ok (false, rest)) :
    readElements element before text = .ok (before.reverse, rest) := by
  rw [readElements_eq]
  simp [turn, bind, Except.bind]

theorem readElements_next {element : Reader α} {before : List α} {text start after : List Char}
    {value : α} (turn : nextElement before.isEmpty text = .ok (true, start))
    (item : element.run start = .ok (value, after)) :
    readElements element before text = readElements element (value :: before) after := by
  rw [readElements_eq]
  simp [turn, item, bind, Except.bind]

theorem readElements_taken {element : Reader α} {first : Bool} {text : List Char}
    {values : List α} (taken : TakesElements element first text values) (before : List α)
    (empty : before.isEmpty = first) (rest : List Char) :
    readElements element before (text ++ rest) = .ok (before.reverse ++ values, rest) := by
  induction taken generalizing before with
  | close blank =>
    have turn := nextElement_close before.isEmpty blank rest
    rw [List.append_assoc, List.singleton_append, readElements_close turn, List.append_nil]
  | head blank takes tail ih =>
    obtain ⟨c, later, rfl, solid, notClose⟩ := takes.solid
    have run := takes.run blank_nil (tail.ends rest)
    have turn := nextElement_head blank solid notClose
    simp only [List.append_assoc, List.cons_append, List.nil_append] at run turn ⊢
    rw [readElements_next (empty ▸ turn _) run, ih _ rfl]
    simp
  | next blank between takes tail ih =>
    obtain ⟨c, later, rfl, solid, notClose⟩ := takes.solid
    have run := takes.run blank_nil (tail.ends rest)
    have turn := nextElement_next blank between solid notClose
    simp only [List.append_assoc, List.cons_append, List.nil_append] at run turn ⊢
    rw [readElements_next (empty ▸ turn _) run, ih _ rfl]
    simp

theorem takes_list {element : Reader α} {text : List Char} {values : List α}
    (taken : TakesElements element true text values) : element.list.Takes ('[' :: text) values := by
  refine takes_starting rfl (by decide) (by decide) rfl fun rest _ => ?_
  simpa using readElements_taken taken [] rfl rest

end Reader

end Winternitz.Json
