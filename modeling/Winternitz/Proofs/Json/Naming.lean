import Winternitz.Proofs.Json.Unambiguous

set_option autoImplicit false

namespace Winternitz.Json

def Member.Named (member : Member) (name : String) : Prop :=
  Spells name.toList member.1

def Twice (name : String) (members : List Member) : Prop :=
  ∃ first second : Member, [first, second].Sublist members ∧ first.Named name ∧ second.Named name

def Lacks (name : String) (members : List Member) : Prop :=
  ∀ member ∈ members, ¬ member.Named name

/-- The same keys in the same order, with values that may differ as `keeps` says of their names. -/
def Agree (keeps : String → List Char → List Char → Prop) : List Member → List Member → Prop :=
  List.Forall₂ fun member other =>
    member.1 = other.1 ∧ ∀ name, member.Named name → keeps name member.2 other.2

theorem name_unique {name other : String} {key : List Char} (spells : Spells name.toList key)
    (spellsOther : Spells other.toList key) : name = other :=
  String.toList_injective (spells.unique spellsOther)

theorem Agree.symm {keeps : String → List Char → List Char → Prop}
    (symm : ∀ name shown other, keeps name shown other → keeps name other shown)
    {members others : List Member} (agree : Agree keeps members others) :
    Agree keeps others members := by
  induction agree with
  | nil => exact .nil
  | cons related _ ih =>
    obtain ⟨key, value⟩ := related
    refine .cons ⟨key.symm, fun name named => symm _ _ _ (value name ?_)⟩ ih
    rwa [Member.Named, key]

section Related

variable {ι γ : Type} {R : ι → Member → Prop} {entries : List ι} {members : List Member}

theorem sublist_of_related (all : List.Forall₂ R entries members) {found : List Member}
    (within : found.Sublist members) :
    ∃ others, others.Sublist entries ∧ List.Forall₂ R others found := by
  induction all generalizing found with
  | nil =>
    cases within
    exact ⟨[], .slnil, .nil⟩
  | cons related _ ih =>
    cases within with
    | cons _ within =>
      obtain ⟨others, inside, all⟩ := ih within
      exact ⟨others, .cons _ inside, all⟩
    | cons_cons _ within =>
      obtain ⟨others, inside, all⟩ := ih within
      exact ⟨_ :: others, .cons_cons _ inside, .cons related all⟩

variable {name : String} {project : ι → Option γ}

theorem not_twice (all : List.Forall₂ R entries members)
    (marks : ∀ entry member, R entry member →
      ((project entry).isSome = true ↔ member.Named name))
    (once : (entries.filterMap project).length ≤ 1) : ¬ Twice name members := by
  rintro ⟨first, second, within, namedFirst, namedSecond⟩
  obtain ⟨others, inside, all⟩ := sublist_of_related all within
  obtain _ | ⟨relatedFirst, _ | ⟨relatedSecond, ⟨⟩⟩⟩ := all
  obtain ⟨x, isFirst⟩ := Option.isSome_iff_exists.mp ((marks _ _ relatedFirst).mpr namedFirst)
  obtain ⟨y, isSecond⟩ := Option.isSome_iff_exists.mp ((marks _ _ relatedSecond).mpr namedSecond)
  have length := (inside.filterMap project).length_le
  rw [List.filterMap_cons_some isFirst, List.filterMap_cons_some isSecond, List.length_cons,
    List.length_cons] at length
  omega

theorem not_lacks (all : List.Forall₂ R entries members)
    (marks : ∀ entry member, R entry member →
      ((project entry).isSome = true ↔ member.Named name))
    (found : entries.filterMap project ≠ []) : ¬ Lacks name members := by
  intro lacks
  induction all with
  | nil => exact found rfl
  | @cons entry member _ _ related _ ih =>
    by_cases marked : (project entry).isSome = true
    next => exact lacks member (by simp) ((marks entry member related).mp marked)
    next =>
      rw [Option.not_isSome_iff_eq_none] at marked
      rw [List.filterMap_cons_none marked] at found
      exact ih found fun other inside => lacks other (by simp [inside])

end Related

section Records

variable {α β : Type} {f : FieldText α} {g : FieldText β}

theorem Stands.marks_first (distinct : f.name ≠ g.name) (entry : Entry α β) (member : Member)
    (stands : Stands f g entry member) :
    entry.first?.isSome = true ↔ member.Named f.name := by
  cases stands with
  | first spells value => exact iff_of_true rfl spells
  | second spells value =>
    exact iff_of_false nofun fun named => distinct (name_unique named spells)
  | unknown spells notFirst notSecond value =>
    exact iff_of_false nofun fun named => notFirst (name_unique spells named)

theorem Stands.marks_second (distinct : f.name ≠ g.name) (entry : Entry α β) (member : Member)
    (stands : Stands f g entry member) :
    entry.second?.isSome = true ↔ member.Named g.name := by
  cases stands with
  | first spells value =>
    exact iff_of_false nofun fun named => distinct (name_unique spells named)
  | second spells value => exact iff_of_true rfl spells
  | unknown spells notFirst notSecond value =>
    exact iff_of_false nofun fun named => notSecond (name_unique spells named)

theorem Stands.spells_first (distinct : f.name ≠ g.name) {entry : Entry α β} {member : Member}
    (stands : Stands f g entry member) (named : member.Named f.name) :
    ∃ value, f.spells value member.2 := by
  have marked := (stands.marks_first distinct).mpr named
  cases stands with
  | first _ value => exact ⟨_, value⟩
  | second | unknown => cases marked

theorem FieldText.Given.length_le {found : List α} {value : α} (given : f.Given found value) :
    found.length ≤ 1 := by
  rcases given with rfl | ⟨rfl, -⟩ <;> simp

theorem FieldText.Given.ne_nil {found : List α} {value : α} (given : f.Given found value)
    (needed : f.absent = none) : found ≠ [] := by
  rcases given with rfl | ⟨rfl, absent⟩
  · simp
  · cases needed.symm.trans absent

theorem entries_of_object (first : f.Valued) (second : g.Valued) {fields : α × β}
    {text : List Char} {members : List Member} (spelled : RecordText f g fields text)
    (object : ObjectText members text) :
    ∃ entries, List.Forall₂ (Stands f g) entries members ∧
      f.Given (entries.filterMap Entry.first?) fields.1 ∧
      g.Given (entries.filterMap Entry.second?) fields.2 := by
  cases spelled with
  | object firstGiven secondGiven laid =>
    obtain ⟨others, all, other⟩ := object_of_entries first second laid
    obtain rfl := object_unique object other rfl
    exact ⟨_, all, firstGiven, secondGiven⟩
  | list laid | short _ laid | bare _ _ laid =>
    have head := laid.head
    rw [Enclosed.head object] at head
    cases head

def FieldText.Kept (form : FieldText α) (keeps : String → List Char → List Char → Prop) : Prop :=
  ∀ value shown other, keeps form.name shown other → form.spells value shown →
    form.spells value other

variable {keeps : String → List Char → List Char → Prop}

theorem stands_of_agree (first : f.Kept keeps) (second : g.Kept keeps) {entry : Entry α β}
    {member other : Member} (stands : Stands f g entry member) (key : member.1 = other.1)
    (value : ∀ name, member.Named name → keeps name member.2 other.2)
    (valued : ValueText other.2) : Stands f g entry other := by
  obtain ⟨otherKey, shown⟩ := other
  cases stands with
  | first spells spelled =>
    obtain ⟨⟩ := key
    exact .first spells (first _ _ _ (value f.name spells) spelled)
  | second spells spelled =>
    obtain ⟨⟩ := key
    exact .second spells (second _ _ _ (value g.name spells) spelled)
  | unknown spells notFirst notSecond _ =>
    obtain ⟨⟩ := key
    exact .unknown spells notFirst notSecond valued

theorem related_of_agree {entries : List (Entry α β)} {members others : List Member}
    (all : List.Forall₂ (Stands f g) entries members) (agree : Agree keeps members others) :
    List.Forall₂ (fun entry other => ∃ member : Member, Stands f g entry member ∧
      member.1 = other.1 ∧ ∀ name, member.Named name → keeps name member.2 other.2)
      entries others := by
  induction all generalizing others with
  | nil =>
    obtain ⟨⟩ := agree
    exact .nil
  | cons stands _ ih =>
    obtain _ | ⟨related, agree⟩ := agree
    exact .cons ⟨_, stands, related⟩ (ih agree)

theorem recordText_of_agree (first : f.Valued) (second : g.Valued) (firstKept : f.Kept keeps)
    (secondKept : g.Kept keeps) {fields : α × β} {text shown : List Char}
    {members others : List Member} (spelled : RecordText f g fields text)
    (object : ObjectText members text) (other : ObjectText others shown)
    (agree : Agree keeps members others) : RecordText f g fields shown := by
  obtain ⟨entries, all, firstGiven, secondGiven⟩ := entries_of_object first second spelled object
  refine .object firstGiven secondGiven (Enclosed.relate ?_ other (related_of_agree all agree))
  rintro entry found text ⟨member, stands, key, value⟩ written
  have standsOther := stands_of_agree firstKept secondKept stands key value written.value
  exact (entryText_iff entry text).mpr ⟨found, standsOther, written.spelled⟩

end Records

end Winternitz.Json
