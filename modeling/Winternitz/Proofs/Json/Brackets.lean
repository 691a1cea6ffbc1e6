import Winternitz.Proofs.Json.Layouts

set_option autoImplicit false

namespace Winternitz.Json

abbrev Member := List Char × List Char

structure Member.Text (member : Member) (text : List Char) : Prop where
  key : QuotedText member.1
  value : ValueText member.2
  spelled : MemberText member.1 member.2 text

def ObjectText : List Member → List Char → Prop :=
  Enclosed Member.Text '\x7b' '\x7d'

inductive BracketText : List Char → Prop
  | list {items : List (List Char)} {text : List Char} : (∀ item ∈ items, ValueText item) →
      Enclosed Eq '[' ']' items text → BracketText text
  | object {members : List Member} {text : List Char} : ObjectText members text → BracketText text

theorem BracketText.value {text : List Char} (brackets : BracketText text) : ValueText text := by
  cases brackets with
  | list values laid => exact .list values laid
  | object object =>
    have each (member : Member) (text : List Char) (shown : member.Text text) :
        ∃ found : Member, (QuotedText found.1 ∧ ValueText found.2) ∧
          MemberText found.1 found.2 text := ⟨member, ⟨shown.key, shown.value⟩, shown.spelled⟩
    obtain ⟨members, all, laid⟩ := Enclosed.convert each object
    have known := forall_of_related all
    exact .object (fun member inside => (known member inside).1)
      (fun member inside => (known member inside).2) laid

-- The end of a number shows in what comes behind it, the end of a bracket in itself.
theorem BracketText.skipValue {text : List Char} (brackets : BracketText text)
    {blanks : List Char} (blank : Blank blanks) (rest : List Char) :
    Json.skipValue (blanks ++ (text ++ rest)) = .ok rest := by
  cases brackets with
  | @list items _ values laid =>
    have each (item : List Char) (inside : item ∈ items) (text : List Char) (same : item = text) :
        Skipped .value text := same ▸ skipped_value (values item inside)
    rw [Json.skipValue, skip_enclosed .list rfl (by decide) each laid blank, skip]
  | @object members _ object =>
    have each (member : Member) (_ : member ∈ members) (text : List Char)
        (shown : member.Text text) : Skipped .key text :=
      skipped_member shown.key (skipped_value shown.value) shown.spelled
    rw [Json.skipValue, skip_enclosed .object rfl (by decide) each object blank, skip]

theorem value_of_stringText {value : String} {text : List Char} (spelled : StringText value text) :
    ValueText text := by
  obtain ⟨spells⟩ := spelled
  exact .string (quoted_of_spells spells)

theorem value_of_sizeText {n : UInt64} {text : List Char} (spelled : SizeText n text) :
    ValueText text := by
  obtain ⟨⟩ := spelled
  have unsigned := UnsignedText.parts (numeral_toDigits n.toNat) .none .none
  rw [List.append_nil, List.append_nil] at unsigned
  exact .number (.unsigned unsigned)

section Composite

variable {α β : Type}

theorem value_of_optionText {spells : α → List Char → Prop}
    (valued : ∀ value text, spells value text → ValueText text) (value : Option α)
    (text : List Char) (spelled : OptionText spells value text) : ValueText text := by
  cases spelled with
  | null => exact .null
  | some spelled => exact valued _ _ spelled

theorem brackets_of_listText {spells : α → List Char → Prop}
    (valued : ∀ value text, spells value text → ValueText text) {values : List α}
    {text : List Char} (spelled : ListText spells values text) : BracketText text := by
  have each (value : α) (text : List Char) (spelled : spells value text) :
      ∃ item, ValueText item ∧ item = text := ⟨text, valued value text spelled, rfl⟩
  obtain ⟨items, all, laid⟩ := Enclosed.convert each spelled
  exact .list (forall_of_related all) laid

def FieldText.Valued (form : FieldText α) : Prop :=
  ∀ value text, form.spells value text → ValueText text

/-- What an entry says of the member that stands for it. -/
inductive Stands (f : FieldText α) (g : FieldText β) : Entry α β → Member → Prop
  | first {value : α} {key shown : List Char} : Spells f.name.toList key →
      f.spells value shown → Stands f g (.first value) (key, shown)
  | second {value : β} {key shown : List Char} : Spells g.name.toList key →
      g.spells value shown → Stands f g (.second value) (key, shown)
  | unknown {name : String} {key shown : List Char} : Spells name.toList key →
      name ≠ f.name → name ≠ g.name → ValueText shown → Stands f g .unknown (key, shown)

variable {f : FieldText α} {g : FieldText β}

theorem Stands.quoted {entry : Entry α β} {member : Member} (stands : Stands f g entry member) :
    QuotedText member.1 := by
  cases stands with
  | first spells | second spells | unknown spells => exact quoted_of_spells spells

theorem Stands.value (first : f.Valued) (second : g.Valued) {entry : Entry α β} {member : Member}
    (stands : Stands f g entry member) : ValueText member.2 := by
  cases stands with
  | first _ value => exact first _ _ value
  | second _ value => exact second _ _ value
  | unknown _ _ _ value => exact value

theorem entryText_iff (entry : Entry α β) (text : List Char) :
    EntryText f g entry text ↔
      ∃ member, Stands f g entry member ∧ MemberText member.1 member.2 text := by
  constructor
  · intro spelled
    cases spelled with
    | first spells value member => exact ⟨_, .first spells value, member⟩
    | second spells value member => exact ⟨_, .second spells value, member⟩
    | unknown spells notFirst notSecond value member =>
      exact ⟨_, .unknown spells notFirst notSecond value, member⟩
  · rintro ⟨_, stands, member⟩
    cases stands with
    | first spells value => exact .first spells value member
    | second spells value => exact .second spells value member
    | unknown spells notFirst notSecond value =>
      exact .unknown spells notFirst notSecond value member

theorem object_of_entries (first : f.Valued) (second : g.Valued) {entries : List (Entry α β)}
    {text : List Char} (laid : Enclosed (EntryText f g) '\x7b' '\x7d' entries text) :
    ∃ members, List.Forall₂ (Stands f g) entries members ∧ ObjectText members text := by
  apply laid.convert
  intro entry text spelled
  obtain ⟨member, stands, shown⟩ := (entryText_iff entry text).mp spelled
  exact ⟨member, stands, stands.quoted, stands.value first second, shown⟩

theorem brackets_of_recordText (first : f.Valued) (second : g.Valued) {fields : α × β}
    {text : List Char} (spelled : RecordText f g fields text) : BracketText text := by
  have each (entry : Entry α β) (text : List Char) (spelled : PlaceText f g entry text) :
      ValueText text := by
    cases spelled with
    | first value => exact first _ _ value
    | second value => exact second _ _ value
  cases spelled with
  | object _ _ laid =>
    obtain ⟨members, -, object⟩ := object_of_entries first second laid
    exact .object object
  | list laid | short _ laid | bare _ _ laid => exact brackets_of_listText each laid

end Composite

end Winternitz.Json
