import Mathlib.Data.List.Forall2
import Winternitz.ParameterSet
import Winternitz.Proofs.Trimming

set_option autoImplicit false

namespace Winternitz.ParameterSet

open Text

def separator (c : Char) : Bool :=
  c == '-' || c == '_'

def LetterCases (upper lower : Char) : Prop :=
  0x41 ≤ upper.toNat ∧ upper.toNat ≤ 0x5a ∧ lower.toNat = upper.toNat + 0x20

def Alike (c d : Char) : Prop :=
  c = d ∨ (separator c = true ∧ separator d = true) ∨ LetterCases c d ∨ LetterCases d c

theorem separator_iff (c : Char) : separator c = true ↔ c.toNat = 0x2d ∨ c.toNat = 0x5f := by
  simp [separator, ← Char.toNat_inj]

theorem toNat_toUpper {c : Char} (first : 0x61 ≤ c.toNat) (last : c.toNat ≤ 0x7a) :
    c.toUpper.toNat + 0x20 = c.toNat := by
  have lower : 'a'.val ≤ c.val ∧ c.val ≤ 'z'.val :=
    ⟨UInt32.le_iff_toNat_le.mpr first, UInt32.le_iff_toNat_le.mpr last⟩
  have upper : c.toUpper = ⟨c.val + ('A'.val - 'a'.val), _⟩ := dif_pos lower
  have shift : ('A'.val - 'a'.val).toNat = 2 ^ 32 - 0x20 := rfl
  rw [upper]
  simp only [Char.toNat, UInt32.toNat_add, shift] at first last ⊢
  omega

theorem toUpper_of_not_lower {c : Char} (other : ¬ (0x61 ≤ c.toNat ∧ c.toNat ≤ 0x7a)) :
    c.toUpper = c := by
  apply dif_neg
  intro lower
  exact other ⟨UInt32.le_iff_toNat_le.mp lower.1, UInt32.le_iff_toNat_le.mp lower.2⟩

theorem fold_cases (c : Char) :
    (c.toNat = 0x2d ∧ (fold c).toNat = 0x5f) ∨
    (0x61 ≤ c.toNat ∧ c.toNat ≤ 0x7a ∧ (fold c).toNat + 0x20 = c.toNat) ∨
    (c.toNat ≠ 0x2d ∧ ¬ (0x61 ≤ c.toNat ∧ c.toNat ≤ 0x7a) ∧ fold c = c) := by
  by_cases hyphen : c = '-'
  next =>
    subst hyphen
    exact .inl ⟨rfl, rfl⟩
  next =>
    have code : c.toNat ≠ 0x2d := fun same => hyphen (Char.toNat_inj.mp same)
    rw [fold, if_neg hyphen]
    by_cases lower : 0x61 ≤ c.toNat ∧ c.toNat ≤ 0x7a
    next => exact .inr (.inl ⟨lower.1, lower.2, toNat_toUpper lower.1 lower.2⟩)
    next => exact .inr (.inr ⟨code, lower, toUpper_of_not_lower lower⟩)

theorem fold_eq_iff (c d : Char) : fold c = fold d ↔ Alike c d := by
  have first := fold_cases c
  have second := fold_cases d
  rw [← Char.toNat_inj] at first second ⊢
  rw [Alike, LetterCases, LetterCases, separator_iff, separator_iff, ← Char.toNat_inj]
  rcases first with first | first | first <;> rcases second with second | second | second <;> omega

theorem blank_fold (c : Char) : blank (fold c) = blank c := by
  rw [Bool.eq_iff_iff, blank_iff, blank_iff]
  rcases fold_cases c with ⟨hyphen, folded⟩ | ⟨first, last, folded⟩ | ⟨-, -, folded⟩
  · rw [hyphen, folded]
    decide
  · have lower : c.toNat ∉ whiteSpace := solid_of_graphic (by omega) (by omega)
    have upper : (fold c).toNat ∉ whiteSpace := solid_of_graphic (by omega) (by omega)
    exact iff_of_false upper lower
  · rw [folded]

theorem separator_fold (c : Char) : separator (fold c) = separator c := by
  have cases := fold_cases c
  rw [← Char.toNat_inj] at cases
  rw [Bool.eq_iff_iff, separator_iff, separator_iff]
  omega

theorem map_fold_eq_iff (first second : List Char) :
    first.map fold = second.map fold ↔ List.Forall₂ Alike first second := by
  rw [← List.forall₂_eq_eq_eq, List.forall₂_map_left_iff, List.forall₂_map_right_iff]
  simp only [fold_eq_iff]

theorem graphic_name (set : ParameterSet) :
    ∀ c ∈ set.name.toList, 0x21 ≤ c.toNat ∧ c.toNat ≤ 0x7e := by
  have all : (set.name.toList.all fun c => 0x21 ≤ c.toNat ∧ c.toNat ≤ 0x7e) = true := by
    cases set <;> rfl
  intro c member
  simpa using List.all_eq_true.mp all c member

theorem separators_name (set : ParameterSet) : set.name.toList.countP separator = 2 := by
  cases set <;> decide

theorem normalize_eq (text : String) : normalize text = trim (text.toList.map fold) := by
  rw [normalize, trim_map blank_fold]

theorem normalize_name (set : ParameterSet) : normalize set.name = set.name.toList.map fold := by
  rw [normalize, trim_of_solid]
  intro c member
  obtain ⟨first, last⟩ := graphic_name set c member
  exact solid_of_graphic first last

-- No name is another one's under folding, so it does not matter which is tried first.
theorem normalize_name_injective {set other : ParameterSet}
    (same : normalize set.name = normalize other.name) : set = other := by
  revert same
  cases set <;> cases other <;> decide

/-- The set's name between white space, up to letter case and the choice of separators. -/
def Names (set : ParameterSet) (text : String) : Prop :=
  ∃ before core after, text.toList = before ++ core ++ after ∧ White before ∧ White after ∧
    List.Forall₂ Alike core set.name.toList

def Variant (text other : String) : Prop :=
  ∃ before core after first same last, text.toList = before ++ core ++ after ∧
    White before ∧ White after ∧ other.toList = first ++ same ++ last ∧ White first ∧ White last ∧
    List.Forall₂ Alike core same

theorem normalize_of_split {text : String} {before core after : List Char}
    (split : text.toList = before ++ core ++ after) (first : White before) (last : White after) :
    normalize text = trim (core.map fold) := by
  rw [normalize, split, trim_append first last, trim_map blank_fold]

theorem normalize_of_variant {text other : String} (variant : Variant text other) :
    normalize text = normalize other := by
  obtain ⟨before, core, after, first, same, last, split, white, whiteAfter, splitOther, whiteFirst,
    whiteLast, alike⟩ := variant
  rw [normalize_of_split split white whiteAfter, normalize_of_split splitOther whiteFirst whiteLast,
    (map_fold_eq_iff core same).mpr alike]

theorem names_iff (set : ParameterSet) (text : String) :
    Names set text ↔ normalize set.name = normalize text := by
  constructor
  · rintro ⟨before, core, after, split, first, last, alike⟩
    rw [normalize_of_split split first last, (map_fold_eq_iff _ _).mpr alike, normalize_eq]
  · intro same
    obtain ⟨before, after, first, last, split⟩ := trim_split text.toList
    refine ⟨before, trim text.toList, after, split, first, last, ?_⟩
    rw [← map_fold_eq_iff, ← normalize_name, same, normalize]

theorem Names.unique {set other : ParameterSet} {text : String} (names : Names set text)
    (also : Names other text) : set = other := by
  rw [names_iff] at names also
  exact normalize_name_injective (names.trans also.symm)

theorem parse_of_names {set : ParameterSet} {text : String} (names : Names set text) :
    parse text = .ok set := by
  rw [parse]
  split
  next found search =>
    have also : Names found text := by
      rw [names_iff]
      simpa using List.find?_some search
    rw [also.unique names]
  next search =>
    have differs := List.find?_eq_none.mp search set set.mem_all
    rw [names_iff] at names
    simp [names] at differs

theorem parse_of_no_names {text : String} (none : ∀ set, ¬ Names set text) :
    parse text = .error ⟨text⟩ := by
  rw [parse]
  split
  next found search =>
    refine absurd ((names_iff found text).mpr ?_) (none found)
    simpa using List.find?_some search
  next => rfl

theorem parse_eq_ok_iff (text : String) (set : ParameterSet) :
    parse text = .ok set ↔ Names set text := by
  by_cases named : ∃ other, Names other text
  next =>
    obtain ⟨other, names⟩ := named
    rw [parse_of_names names, Except.ok.injEq]
    constructor
    · rintro rfl
      exact names
    · exact names.unique
  next =>
    have none := not_exists.mp named
    simp [parse_of_no_names none, none set]

theorem parse_eq_error_iff (text : String) (unknown : UnknownParameterSet) :
    parse text = .error unknown ↔ unknown = ⟨text⟩ ∧ ∀ set, ¬ Names set text := by
  by_cases named : ∃ set, Names set text
  next =>
    obtain ⟨set, names⟩ := named
    rw [parse_of_names names]
    simp only [reduceCtorEq, false_iff, not_and]
    exact fun _ none => none set names
  next =>
    have none := not_exists.mp named
    rw [parse_of_no_names none, Except.error.injEq, eq_comm]
    simp [none]

theorem graphic_of_alike {c d : Char} (alike : Alike c d) (first : 0x21 ≤ d.toNat)
    (last : d.toNat ≤ 0x7e) : 0x21 ≤ c.toNat ∧ c.toNat ≤ 0x7e := by
  rw [Alike, LetterCases, LetterCases, separator_iff, separator_iff, ← Char.toNat_inj] at alike
  omega

theorem Names.graphic {set : ParameterSet} {text : String} (names : Names set text) {c : Char}
    (kept : c ∈ trim text.toList) : 0x21 ≤ c.toNat ∧ c.toNat ≤ 0x7e := by
  have folded : fold c ∈ normalize text := List.mem_map_of_mem kept
  rw [← (names_iff set text).mp names, normalize_name] at folded
  obtain ⟨d, member, same⟩ := List.mem_map.mp folded
  obtain ⟨first, last⟩ := graphic_name set d member
  exact graphic_of_alike ((fold_eq_iff c d).mp same.symm) first last

theorem countP_white {text : List Char} (white : White text) : text.countP separator = 0 := by
  rw [List.countP_eq_zero]
  intro c member
  rw [separator_iff]
  intro code
  exact solid_of_graphic (by omega) (by omega) (white c member)

theorem Names.separators {set : ParameterSet} {text : String} (names : Names set text) :
    text.toList.countP separator = 2 := by
  obtain ⟨before, core, after, split, first, last, alike⟩ := names
  have same : separator ∘ fold = separator := funext separator_fold
  have counted :
      (core.map fold).countP separator = (set.name.toList.map fold).countP separator := by
    rw [(map_fold_eq_iff _ _).mpr alike]
  rw [List.countP_map, List.countP_map, same, separators_name] at counted
  rw [split, List.countP_append, List.countP_append, countP_white first, countP_white last, counted]

/-- A text is read as the one set that it names, and is handed back as it is if it names none:
white space inside it, a character outside ASCII and a wrong number of separators are never
overlooked. Variants of a text are read alike. -/
theorem parse_accepts_names (text : String) :
    (∀ set, parse text = .ok set ↔ Names set text) ∧
    (∀ set other, Names set text → Names other text → set = other) ∧
    (∀ unknown, parse text = .error unknown ↔ unknown = ⟨text⟩ ∧ ∀ set, ¬ Names set text) ∧
    (∀ before c after, text.toList = before ++ c :: after → c.toNat ∈ whiteSpace →
      ¬ White before → ¬ White after → parse text = .error ⟨text⟩) ∧
    (∀ c ∈ text.toList, 128 ≤ c.toNat → c.toNat ∉ whiteSpace → parse text = .error ⟨text⟩) ∧
    (text.toList.countP separator ≠ 2 → parse text = .error ⟨text⟩) ∧
    ∀ other, Variant text other →
      (∀ set, parse text = .ok set ↔ parse other = .ok set) ∧
        (parse text = .error ⟨text⟩ ↔ parse other = .error ⟨other⟩) := by
  refine ⟨parse_eq_ok_iff text, fun _ _ names also => names.unique also, parse_eq_error_iff text,
    ?inner, ?beyond, ?separators, ?variants⟩
  case inner =>
    intro before c after split white left right
    apply parse_of_no_names
    intro set names
    have kept : c ∈ trim text.toList := split ▸ mem_trim_of_between left right c
    obtain ⟨first, last⟩ := names.graphic kept
    exact solid_of_graphic first last white
  case beyond =>
    intro c member beyond solid
    apply parse_of_no_names
    intro set names
    have := (names.graphic (mem_trim_of_solid member solid)).2
    omega
  case separators =>
    intro wrong
    apply parse_of_no_names
    intro set names
    exact wrong names.separators
  case variants =>
    intro other variant
    have same (set : ParameterSet) : Names set text ↔ Names set other := by
      rw [names_iff, names_iff, normalize_of_variant variant]
    constructor
    · intro set
      rw [parse_eq_ok_iff, parse_eq_ok_iff, same]
    · simp only [parse_eq_error_iff, true_and, same]

theorem parse_of_spaced_name :
    Names .shake256_192 "\u3000wotsp_Shake256-192\t" ∧
      parse "\u3000wotsp_Shake256-192\t" = .ok .shake256_192 ∧
      parse "WOTſP-SHA2_256" = .error ⟨"WOTſP-SHA2_256"⟩ := by
  have names : Names .shake256_192 "\u3000wotsp_Shake256-192\t" := by
    rw [names_iff]
    decide
  have long : 'ſ' ∈ "WOTſP-SHA2_256".toList := by decide
  exact ⟨names, ((parse_accepts_names _).1 _).mpr names,
    (parse_accepts_names _).2.2.2.2.1 'ſ' long (by decide) (by decide)⟩

end Winternitz.ParameterSet
