import Winternitz.Proofs.Json.Naming

set_option autoImplicit false

namespace Winternitz.Json

/-- A run of the characters that numbers are written with, be it a number or not. -/
structure RunText (text : List Char) : Prop where
  nonempty : text ≠ []
  numeric : ∀ c ∈ text, isNumeric c = true

theorem runText_iff {text : List Char} : RunText text ↔ text ≠ [] ∧ text.all isNumeric = true := by
  rw [List.all_eq_true]
  exact ⟨fun ⟨nonempty, numeric⟩ => ⟨nonempty, numeric⟩,
    fun ⟨nonempty, numeric⟩ => ⟨nonempty, numeric⟩⟩

instance : DecidablePred RunText :=
  fun _ => decidable_of_iff _ runText_iff.symm

/-- A value, except that any runs may stand in place of its numbers. -/
inductive LooseText : List Char → Prop
  | value {text : List Char} : ValueText text → LooseText text
  | run {text : List Char} : RunText text → LooseText text
  | list {items : List (List Char)} {text : List Char} : (∀ item ∈ items, LooseText item) →
      Enclosed Eq '[' ']' items text → LooseText text
  | object {members : List Member} {text : List Char} :
      (∀ member ∈ members, QuotedText member.1) → (∀ member ∈ members, LooseText member.2) →
      Enclosed (fun member => MemberText member.1 member.2) '\x7b' '\x7d' members text →
      LooseText text

structure LooseList (items : List (List Char)) (text : List Char) : Prop where
  values : ∀ item ∈ items, LooseText item
  laid : Enclosed Eq '[' ']' items text

structure LooseObject (members : List Member) (text : List Char) : Prop where
  keys : ∀ member ∈ members, QuotedText member.1
  values : ∀ member ∈ members, LooseText member.2
  laid : Enclosed (fun member : Member => MemberText member.1 member.2) '\x7b' '\x7d' members text

theorem Enclosed.imp {ι : Type} {spells other : ι → List Char → Prop} {first last : Char}
    {items : List ι} {text : List Char} (laid : Enclosed spells first last items text)
    (each : ∀ item ∈ items, ∀ text, spells item text → other item text) :
    Enclosed other first last items text := by
  have same : List.Forall₂ (fun found item => found = item ∧ item ∈ items) items items :=
    List.forall₂_same.mpr fun item inside => ⟨rfl, inside⟩
  apply laid.relate _ same
  rintro found item text ⟨rfl, inside⟩ spelled
  exact each found inside text spelled

theorem isNumeric_of_isDigit {c : Char} (digit : c.isDigit = true) : isNumeric c = true := by
  simp [isNumeric, digit]

theorem numeric_of_fraction {text : List Char} (fraction : FractionText text) :
    ∀ c ∈ text, isNumeric c = true := by
  cases fraction with
  | none => simp
  | digits digit all =>
    simp only [List.forall_mem_cons]
    exact ⟨by decide, isNumeric_of_isDigit digit,
      fun c inside => isNumeric_of_isDigit (all c inside)⟩

theorem numeric_of_exponent {text : List Char} (exponent : ExponentText text) :
    ∀ c ∈ text, isNumeric c = true := by
  cases exponent with
  | none => simp
  | @digits e d sign ds mark signed digit all =>
    have marks : ∀ e ∈ ['e', 'E'], isNumeric e = true := List.all_eq_true.mp rfl
    have signs : ∀ sign ∈ [[], ['+'], ['-']], sign.all isNumeric = true := by decide
    simp only [List.forall_mem_cons, List.forall_mem_append]
    exact ⟨marks e mark, List.all_eq_true.mp (signs sign signed), isNumeric_of_isDigit digit,
      fun c inside => isNumeric_of_isDigit (all c inside)⟩

theorem run_of_unsigned {text : List Char} (unsigned : UnsignedText text) : RunText text := by
  obtain ⟨whole, fraction, exponent⟩ := unsigned
  obtain ⟨d, ds, rfl, -⟩ := whole.head
  refine ⟨by simp, ?_⟩
  simp only [List.forall_mem_append]
  exact ⟨fun c inside => isNumeric_of_isDigit (whole.all c inside), numeric_of_fraction fraction,
    numeric_of_exponent exponent⟩

theorem run_of_number {text : List Char} (number : NumberText text) : RunText text := by
  cases number with
  | unsigned unsigned => exact run_of_unsigned unsigned
  | negative unsigned =>
    refine ⟨by simp, ?_⟩
    simp only [List.forall_mem_cons]
    exact ⟨by decide, (run_of_unsigned unsigned).numeric⟩

theorem list_of_head {text : List Char} (valued : ValueText text) (head : text.head? = some '[') :
    ∃ items, (∀ item ∈ items, ValueText item) ∧ Enclosed Eq '[' ']' items text := by
  cases valued with
  | null | true | false => cases head
  | number number =>
    obtain ⟨nonempty, numeric⟩ := run_of_number number
    have bracket := numeric '[' (List.mem_of_mem_head? head)
    cases bracket
  | string => cases head
  | list values laid => exact ⟨_, values, laid⟩
  | object _ _ laid => cases laid.head.symm.trans head

theorem object_of_head {text : List Char} (valued : ValueText text)
    (head : text.head? = some '\x7b') : ∃ members, ObjectText members text := by
  cases valued with
  | null | true | false => cases head
  | number number =>
    obtain ⟨nonempty, numeric⟩ := run_of_number number
    have bracket := numeric '\x7b' (List.mem_of_mem_head? head)
    cases bracket
  | string => cases head
  | list _ laid => cases laid.head.symm.trans head
  | object keys values laid =>
    exact ⟨_, laid.imp fun member inside text spelled =>
      ⟨keys member inside, values member inside, spelled⟩⟩

theorem number_of_head {text : List Char} (valued : ValueText text) {c : Char}
    (head : text.head? = some c) (numeric : isNumeric c = true) : NumberText text := by
  cases valued with
  | null | true | false | string =>
    cases head
    cases numeric
  | number number => exact number
  | list _ laid | object _ _ laid =>
    cases laid.head.symm.trans head
    cases numeric

theorem takeWhile_run {text rest : List Char} (numeric : ∀ c ∈ text, isNumeric c = true)
    (stops : Stops rest) : (text ++ rest).takeWhile isNumeric = text := by
  rw [List.takeWhile_append_of_pos numeric]
  cases rest with
  | nil => simp
  | cons c rest =>
    have solid : isNumeric c = false := stops
    simp [solid]

theorem not_isBlank_of_isNumeric {c : Char} (numeric : isNumeric c = true) : isBlank c = false := by
  by_contra blank
  rw [Bool.not_eq_false, isBlank_iff] at blank
  rcases blank with rfl | rfl | rfl | rfl <;> cases numeric

theorem run_decides {text other : List Char} (run : RunText text) (valued : ValueText other) :
    Decides (text = other) text other := by
  intro before after rest left same blank blankAfter stops stopsAfter
  obtain ⟨c, tail, rfl⟩ := List.exists_cons_of_ne_nil run.nonempty
  obtain ⟨d, later, rfl, solid⟩ := solid_of_value valued
  have numeric := run.numeric c (by simp)
  obtain ⟨rfl, behind⟩ :=
    solid_unique same blank blankAfter (not_isBlank_of_isNumeric numeric) solid
  have number := run_of_number (number_of_head valued rfl numeric)
  have whole : (c :: tail) ++ rest = (c :: later) ++ left := congrArg (c :: ·) behind
  have equal := takeWhile_run run.numeric stops
  rw [whole, takeWhile_run number.numeric stopsAfter] at equal
  rw [equal] at whole
  exact ⟨equal.symm, List.append_cancel_left whole⟩

theorem starts_of_loose {text : List Char} (loose : LooseText text) : Starts ']' text := by
  cases loose with
  | value valued => exact (starts_of_value valued).1
  | run run =>
    obtain ⟨c, tail, rfl⟩ := List.exists_cons_of_ne_nil run.nonempty
    have numeric := run.numeric c (by simp)
    refine ⟨c, tail, rfl, not_isBlank_of_isNumeric numeric, ?_⟩
    rintro rfl
    cases numeric
  | list _ laid | object _ _ laid =>
    obtain ⟨body, rfl, -⟩ := laid.body
    exact ⟨_, _, rfl, by decide, by decide⟩

theorem solid_of_starts {last : Char} {text : List Char} (starts : Starts last text) :
    Solid text := by
  obtain ⟨c, tail, same, solid, -⟩ := starts
  exact ⟨c, tail, same, solid⟩

theorem list_decides {items others : List (List Char)} {text shown : List Char}
    (starts : ∀ item ∈ items, Starts ']' item)
    (each : ∀ item ∈ items, ∀ other, ValueText other → Decides (item = other) item other)
    (laid : Enclosed Eq '[' ']' items text) (values : ∀ other ∈ others, ValueText other)
    (laidOther : Enclosed Eq '[' ']' others shown) : Decides (items = others) text shown := by
  have known : Enclosed (fun item text => item = text ∧ Starts ']' item ∧
      ∀ other, ValueText other → Decides (item = other) item other) '[' ']' items text :=
    laid.imp fun item inside text same => ⟨same, starts item inside, each item inside⟩
  have valued : Enclosed (fun item text => item = text ∧ ValueText item) '[' ']' others shown :=
    laidOther.imp fun item inside text same => ⟨same, values item inside⟩
  have decides := Enclosed.decides (R := Eq) (by decide) closer_list ?_ ?_ ?_ known valued
  · rwa [List.forall₂_eq_eq_eq] at decides
  · rintro item _ ⟨rfl, starts, -⟩
    exact starts
  · rintro item _ ⟨rfl, valued⟩
    exact (starts_of_value valued).1
  · rintro item _ found _ ⟨rfl, -, each⟩ ⟨rfl, valued⟩
    exact each found valued

theorem object_decides {members others : List Member} {text shown : List Char}
    (keys : ∀ member ∈ members, QuotedText member.1)
    (each : ∀ member ∈ members, ∀ other, ValueText other →
      Decides (member.2 = other) member.2 other)
    (laid : Enclosed (fun member => MemberText member.1 member.2) '\x7b' '\x7d' members text)
    (object : ObjectText others shown) : Decides (members = others) text shown := by
  have known : Enclosed (fun member text => MemberText member.1 member.2 text ∧
      QuotedText member.1 ∧ ∀ other, ValueText other → Decides (member.2 = other) member.2 other)
      '\x7b' '\x7d' members text :=
    laid.imp fun member inside text spelled => ⟨spelled, keys member inside, each member inside⟩
  have decides := Enclosed.decides (R := Eq) (by decide) closer_object ?_ ?_ ?_ known object
  · rwa [List.forall₂_eq_eq_eq] at decides
  · rintro member text ⟨spelled, -⟩
    exact starts_of_member spelled
  · intro member text other
    exact starts_of_member other.spelled
  · rintro member text found shown ⟨spelled, quoted, each⟩ other
    exact member_decides quoted other.key (each found.2 other.value) spelled other.spelled

theorem head_of_same {before after text shown rest left : List Char}
    (same : before ++ (text ++ rest) = after ++ (shown ++ left)) (blank : Blank before)
    (blankAfter : Blank after) (solid : Solid text) (solidOther : Solid shown) :
    shown.head? = text.head? := by
  obtain ⟨c, tail, rfl, solid⟩ := solid
  obtain ⟨d, later, rfl, solidOther⟩ := solidOther
  obtain ⟨rfl, -⟩ := solid_unique same blank blankAfter solid solidOther
  rfl

-- The induction is on the loose text; the other is of the same kind by its first character.
theorem loose_decides {text other : List Char} (loose : LooseText text)
    (valued : ValueText other) : Decides (text = other) text other := by
  have solidOther := solid_of_value valued
  induction loose generalizing other with
  | value value => exact value_decides value valued
  | run run => exact run_decides run valued
  | list values laid ih =>
    have solid := solid_of_starts (starts_of_loose (.list values laid))
    intro before after rest left same blank blankAfter stops stopsAfter
    have head := (head_of_same same blank blankAfter solid solidOther).trans laid.head
    obtain ⟨others, valuesOther, laidOther⟩ := list_of_head valued head
    have starts item (inside : item ∈ _) := starts_of_loose (values item inside)
    have each item (inside : item ∈ _) other (valued : ValueText other) :=
      ih item inside valued (solid_of_value valued)
    have decides := list_decides starts each laid valuesOther laidOther
    exact decides.same solid solidOther same blank blankAfter stops stopsAfter
  | object keys values laid ih =>
    have solid := solid_of_starts (starts_of_loose (.object keys values laid))
    intro before after rest left same blank blankAfter stops stopsAfter
    have head := (head_of_same same blank blankAfter solid solidOther).trans laid.head
    obtain ⟨others, object⟩ := object_of_head valued head
    have each member (inside : member ∈ _) other (valued : ValueText other) :=
      ih member inside valued (solid_of_value valued)
    have decides := object_decides keys each laid object
    exact decides.same solid solidOther same blank blankAfter stops stopsAfter

section Places

variable {α β : Type} {f : FieldText α} {g : FieldText β}

theorem LooseObject.members_eq {members others : List Member} {text : List Char}
    (loose : LooseObject members text) (object : ObjectText others text) : members = others := by
  have each member (inside : member ∈ members) other (valued : ValueText other) :=
    loose_decides (loose.values member inside) valued
  exact (object_decides loose.keys each loose.laid object).holds

theorem LooseObject.strict {members : List Member} {text : List Char}
    (loose : LooseObject members text) (valued : ValueText text) : ObjectText members text := by
  obtain ⟨others, object⟩ := object_of_head valued loose.laid.head
  rwa [loose.members_eq object]

theorem LooseList.places (first : f.Valued) (second : g.Valued) {items : List (List Char)}
    {places : List (Entry α β)} {text : List Char} (loose : LooseList items text)
    (laid : Enclosed (PlaceText f g) '[' ']' places text) :
    List.Forall₂ (PlaceText f g) places items := by
  have valued (place : Entry α β) (text : List Char) (shown : PlaceText f g place text) :
      ∃ item, (PlaceText f g place item ∧ ValueText item) ∧ item = text := by
    refine ⟨text, ⟨shown, ?_⟩, rfl⟩
    cases shown with
    | first value => exact first _ _ value
    | second value => exact second _ _ value
  obtain ⟨others, all, laidOther⟩ := laid.convert valued
  have starts item (inside : item ∈ items) := starts_of_loose (loose.values item inside)
  have each item (inside : item ∈ items) other (valued : ValueText other) :=
    loose_decides (loose.values item inside) valued
  have values : ∀ other ∈ others, ValueText other :=
    forall_of_related (all.imp fun _ _ shown => shown.2)
  rw [(list_decides starts each loose.laid values laidOther).holds]
  exact all.imp fun _ _ shown => shown.1

/-- A value in the place of a field, by the name of the field in an object or by its position in a
list. What else the object or the list holds is JSON but for its numbers. -/
inductive Written (name : String) (position : Nat) (value : List Char) : List Char → Prop
  | object {members : List Member} {key text : List Char} : LooseObject members text →
      (key, value) ∈ members → Spells name.toList key → Written name position value text
  | list {items : List (List Char)} {text : List Char} : LooseList items text →
      items[position]? = some value → Written name position value text

theorem Written.loose {name : String} {position : Nat} {value text : List Char}
    (written : Written name position value text) : LooseText text := by
  cases written with
  | object loose => exact .object loose.keys loose.values loose.laid
  | list loose => exact .list loose.values loose.laid

theorem entry_of_member {entries : List (Entry α β)} {members : List Member} {member : Member}
    (all : List.Forall₂ (Stands f g) entries members) (inside : member ∈ members) :
    ∃ entry ∈ entries, Stands f g entry member := by
  obtain ⟨others, within, alone⟩ := sublist_of_related all (List.singleton_sublist.mpr inside)
  obtain _ | ⟨stands, ⟨⟩⟩ := alone
  exact ⟨_, List.singleton_sublist.mp within, stands⟩

theorem FieldText.Given.eq_of_mem {form : FieldText α} {found : List α} {value other : α}
    (given : form.Given found value) (inside : other ∈ found) : other = value := by
  rcases given with rfl | ⟨rfl, -⟩
  · exact List.mem_singleton.mp inside
  · cases inside

section Fields

variable {fields : α × β} {text : List Char}

theorem values_of_object (first : f.Valued) (second : g.Valued) (distinct : f.name ≠ g.name)
    (spelled : RecordText f g fields text) {members : List Member}
    (loose : LooseObject members text) {member : Member} (inside : member ∈ members) :
    (member.Named f.name → f.spells fields.1 member.2) ∧
      (member.Named g.name → g.spells fields.2 member.2) := by
  have object := loose.strict (brackets_of_recordText first second spelled).value
  obtain ⟨entries, all, firstGiven, secondGiven⟩ := entries_of_object first second spelled object
  obtain ⟨entry, among, stands⟩ := entry_of_member all inside
  constructor
  · intro named
    obtain ⟨value, found⟩ :=
      Option.isSome_iff_exists.mp ((stands.marks_first distinct entry member).mpr named)
    have only := firstGiven.eq_of_mem (List.mem_filterMap.mpr ⟨entry, among, found⟩)
    cases stands with
    | first _ shown =>
      cases found
      exact only ▸ shown
    | second | unknown => cases found
  · intro named
    obtain ⟨value, found⟩ :=
      Option.isSome_iff_exists.mp ((stands.marks_second distinct entry member).mpr named)
    have only := secondGiven.eq_of_mem (List.mem_filterMap.mpr ⟨entry, among, found⟩)
    cases stands with
    | second _ shown =>
      cases found
      exact only ▸ shown
    | first | unknown => cases found

theorem values_of_list (first : f.Valued) (second : g.Valued)
    (spelled : RecordText f g fields text) {items : List (List Char)}
    (loose : LooseList items text) {value : List Char} :
    (items[0]? = some value → f.spells fields.1 value) ∧
      (items[1]? = some value → g.spells fields.2 value) := by
  cases spelled with
  | object _ _ laid => cases laid.head.symm.trans loose.laid.head
  | list laid =>
    obtain _ | ⟨⟨shown⟩, _ | ⟨_ | shownOther, ⟨⟩⟩⟩ := loose.places first second laid
    constructor
    · rintro ⟨⟩
      exact shown
    · rintro ⟨⟩
      exact shownOther
  | short _ laid =>
    obtain _ | ⟨⟨shown⟩, ⟨⟩⟩ := loose.places first second laid
    constructor
    · rintro ⟨⟩
      exact shown
    · exact nofun
  | bare _ _ laid =>
    cases loose.places first second laid
    exact ⟨nofun, nofun⟩

theorem spells_of_written_first (first : f.Valued) (second : g.Valued) (distinct : f.name ≠ g.name)
    (spelled : RecordText f g fields text) {value : List Char}
    (written : Written f.name 0 value text) : f.spells fields.1 value := by
  cases written with
  | object loose inside named =>
    exact (values_of_object first second distinct spelled loose inside).1 named
  | list loose found => exact (values_of_list first second spelled loose).1 found

theorem spells_of_written_second (first : f.Valued) (second : g.Valued)
    (distinct : f.name ≠ g.name) (spelled : RecordText f g fields text) {value : List Char}
    (written : Written g.name 1 value text) : g.spells fields.2 value := by
  cases written with
  | object loose inside named =>
    exact (values_of_object first second distinct spelled loose inside).2 named
  | list loose found => exact (values_of_list first second spelled loose).2 found

end Fields

end Places

end Winternitz.Json
