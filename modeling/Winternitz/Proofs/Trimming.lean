import Winternitz.Text.Blank

set_option autoImplicit false

namespace Winternitz.Text

def whiteSpace : List Nat :=
  [0x9, 0xa, 0xb, 0xc, 0xd, 0x20, 0x85, 0xa0, 0x1680, 0x2000, 0x2001, 0x2002, 0x2003, 0x2004,
    0x2005, 0x2006, 0x2007, 0x2008, 0x2009, 0x200a, 0x2028, 0x2029, 0x202f, 0x205f, 0x3000]

theorem blank_iff (c : Char) : blank c = true ↔ c.toNat ∈ whiteSpace := by
  simp only [blank, whiteSpace, Bool.or_eq_true, Bool.and_eq_true, decide_eq_true_eq, beq_iff_eq,
    List.mem_cons, List.not_mem_nil, or_false]
  omega

def White (text : List Char) : Prop :=
  ∀ c ∈ text, c.toNat ∈ whiteSpace

theorem white_iff (text : List Char) : White text ↔ ∀ c ∈ text, blank c = true := by
  simp only [White, blank_iff]

theorem White.reverse {text : List Char} (white : White text) : White text.reverse := by
  intro c member
  exact white c (List.mem_reverse.mp member)

theorem solid_of_graphic {code : Nat} (first : 0x21 ≤ code) (last : code ≤ 0x7e) :
    code ∉ whiteSpace := by
  have apart : ∀ code ∈ whiteSpace, code < 0x21 ∨ 0x7e < code := by decide
  intro member
  have := apart code member
  omega

theorem dropWhile_white {before : List Char} (white : White before) (text : List Char) :
    (before ++ text).dropWhile blank = text.dropWhile blank :=
  List.dropWhile_append_of_pos ((white_iff before).mp white)

theorem white_takeWhile (text : List Char) : White (text.takeWhile blank) := by
  rw [white_iff]
  exact List.all_eq_true.mp List.all_takeWhile

theorem dropWhile_solid {before : List Char} (solid : ¬ White before) (text : List Char) :
    (before ++ text).dropWhile blank = before.dropWhile blank ++ text := by
  have some : ¬ (before.dropWhile blank).isEmpty = true := by
    intro none
    have taken := List.takeWhile_append_dropWhile (p := blank) (l := before)
    rw [List.isEmpty_iff.mp none, List.append_nil] at taken
    exact solid (taken ▸ white_takeWhile before)
  rw [List.dropWhile_append, if_neg some]

theorem trim_append {before after : List Char} (first : White before) (last : White after)
    (core : List Char) : trim (before ++ core ++ after) = trim core := by
  rw [trim, trim, List.append_assoc, dropWhile_white first, List.dropWhile_append]
  -- If all of the core is white space, what is behind it is dropped from the front as well.
  by_cases nothing : (core.dropWhile blank).isEmpty = true
  next =>
    have dropped : after.dropWhile blank = [] := by
      simpa using dropWhile_white last []
    rw [if_pos nothing, dropped, List.isEmpty_iff.mp nothing]
  next => rw [if_neg nothing, List.reverse_append, dropWhile_white last.reverse]

theorem trim_split (text : List Char) :
    ∃ before after, White before ∧ White after ∧ text = before ++ trim text ++ after := by
  have rest := List.takeWhile_append_dropWhile (p := blank) (l := text)
  generalize inner : text.dropWhile blank = core at rest
  refine ⟨text.takeWhile blank, (core.reverse.takeWhile blank).reverse, white_takeWhile text,
    (white_takeWhile _).reverse, ?_⟩
  rw [trim, inner, List.append_assoc, ← List.reverse_append, List.takeWhile_append_dropWhile,
    List.reverse_reverse, rest]

theorem trim_map {f : Char → Char} (keeps : ∀ c, blank (f c) = blank c) (text : List Char) :
    trim (text.map f) = (trim text).map f := by
  have same : blank ∘ f = blank := funext keeps
  rw [trim, trim, List.dropWhile_map, same, ← List.map_reverse, List.dropWhile_map, same,
    ← List.map_reverse]

theorem trim_of_solid {text : List Char} (solid : ∀ c ∈ text, c.toNat ∉ whiteSpace) :
    trim text = text := by
  obtain ⟨before, after, first, last, split⟩ := trim_split text
  have nothing {part : List Char} (white : White part) (inside : ∀ c ∈ part, c ∈ text) :
      part = [] := by
    apply List.eq_nil_iff_forall_not_mem.mpr
    intro c member
    exact solid c (inside c member) (white c member)
  have noBefore : before = [] := nothing first fun c member => by
    rw [split]
    simp [member]
  have noAfter : after = [] := nothing last fun c member => by
    rw [split]
    simp [member]
  rw [noBefore, noAfter, List.nil_append, List.append_nil] at split
  exact split.symm

theorem mem_trim_of_solid {text : List Char} {c : Char} (member : c ∈ text)
    (solid : c.toNat ∉ whiteSpace) : c ∈ trim text := by
  obtain ⟨before, after, first, last, split⟩ := trim_split text
  rw [split, List.mem_append, List.mem_append] at member
  rcases member with (outside | inside) | outside
  · exact absurd (first c outside) solid
  · exact inside
  · exact absurd (last c outside) solid

theorem mem_trim_of_between {before after : List Char} (left : ¬ White before)
    (right : ¬ White after) (c : Char) : c ∈ trim (before ++ c :: after) := by
  have opposite : ¬ White after.reverse := fun white => right (by simpa using white.reverse)
  rw [trim, dropWhile_solid left, List.reverse_append, List.reverse_cons, List.append_assoc,
    dropWhile_solid opposite]
  simp

end Winternitz.Text
