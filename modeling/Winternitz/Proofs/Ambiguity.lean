import Winternitz.Proofs.Json.Naming
import Winternitz.Proofs.Recognition

set_option autoImplicit false

namespace Winternitz

open Json

namespace Parameters

def names : List String := ["chain_count", "digest_size"]

inductive Keeps : String → List Char → List Char → Prop
  | same {name : String} {shown : List Char} : Keeps name shown shown
  | other {name : String} {shown other : List Char} : name ∉ names → Keeps name shown other

theorem Keeps.symm (name : String) (shown other : List Char) (keeps : Keeps name shown other) :
    Keeps name other shown := by
  cases keeps with
  | same => exact .same
  | other unlisted => exact .other unlisted

theorem kept {form : FieldText UInt64} (listed : form.name ∈ names) : form.Kept Keeps := by
  intro value shown other keeps spelled
  cases keeps with
  | same => exact spelled
  | other unlisted => exact absurd listed unlisted

theorem rendering_of_agree {params : Parameters} {text shown : List Char}
    {members others : List Member} (rendering : params.Rendering text)
    (object : ObjectText members text) (other : ObjectText others shown)
    (agree : Agree Keeps members others) : params.Rendering shown :=
  recordText_of_agree (fun _ _ => value_of_sizeText) (fun _ _ => value_of_sizeText)
    (kept (by decide)) (kept (by decide)) rendering object other agree

theorem settled_of_rendering {params : Parameters} {text : List Char} {members : List Member}
    (rendering : params.Rendering text) (object : ObjectText members text) :
    ∀ name ∈ names, ¬ Twice name members ∧ ¬ Lacks name members := by
  obtain ⟨entries, all, chainCount, digestSize⟩ :=
    entries_of_object (fun _ _ => value_of_sizeText) (fun _ _ => value_of_sizeText) rendering object
  have distinct : chainCountText.name ≠ digestSizeText.name := by decide
  have first := Stands.marks_first distinct
  have second := Stands.marks_second distinct
  intro name listed
  simp only [names, List.mem_cons, List.not_mem_nil, or_false] at listed
  rcases listed with rfl | rfl
  · exact ⟨not_twice all first chainCount.length_le, not_lacks all first (chainCount.ne_nil rfl)⟩
  · exact ⟨not_twice all second digestSize.length_le,
      not_lacks all second (digestSize.ne_nil rfl)⟩

end Parameters

namespace Document

def names : List String := ["parameters", "chains"]

/-- Only the values of members that have other names may differ, also inside the parameters. -/
inductive Keeps : String → List Char → List Char → Prop
  | same {name : String} {shown : List Char} : Keeps name shown shown
  | other {name : String} {shown other : List Char} : name ∉ names → Keeps name shown other
  | parameters {members others : List Member} {shown other : List Char} :
      ObjectText members shown → ObjectText others other →
      Agree Parameters.Keeps members others → Keeps "parameters" shown other

theorem Keeps.symm (name : String) (shown other : List Char) (keeps : Keeps name shown other) :
    Keeps name other shown := by
  cases keeps with
  | same => exact .same
  | other unlisted => exact .other unlisted
  | parameters object objectOther agree =>
    exact .parameters objectOther object (agree.symm Parameters.Keeps.symm)

theorem kept_parametersText : parametersText.Kept Keeps := by
  intro value shown other keeps spelled
  cases keeps with
  | same => exact spelled
  | other unlisted => exact absurd (by decide) unlisted
  | parameters object objectOther agree =>
    cases spelled with
    | null => cases Enclosed.head object
    | some rendering =>
      exact .some (Parameters.rendering_of_agree rendering object objectOther agree)

theorem kept_chainsText : chainsText.Kept Keeps := by
  intro value shown other keeps spelled
  generalize same : chainsText.name = name at keeps
  cases keeps with
  | same => exact spelled
  | other unlisted => exact absurd (same ▸ by decide) unlisted
  | parameters => exact absurd same (by decide)

inductive ObjectOf (members : List Member) : List Char → Prop
  | blanks {before object after : List Char} : Blank before → ObjectText members object →
      Blank after → ObjectOf members (before ++ (object ++ after))

/-- Members that name a part twice, or parameters that are an object and name a dimension twice or
not at all. -/
inductive Ambiguous (members : List Member) : Prop
  | part {name : String} : name ∈ names → Twice name members → Ambiguous members
  | repeated {member : Member} {inner : List Member} {name : String} : member ∈ members →
      member.Named "parameters" → ObjectText inner member.2 → name ∈ Parameters.names →
      Twice name inner → Ambiguous members
  | missing {member : Member} {inner : List Member} {name : String} : member ∈ members →
      member.Named "parameters" → ObjectText inner member.2 → name ∈ Parameters.names →
      Lacks name inner → Ambiguous members

theorem recordText_of_rendering {document : Document} {text shown : List Char}
    {members : List Member} (rendering : document.Rendering text) (object : ObjectOf members shown)
    (same : text = shown) :
    ∃ value, RecordText parametersText chainsText (document.parameters, document.chains) value ∧
      ObjectText members value := by
  obtain ⟨blank, spelled, blankAfter⟩ := rendering
  obtain ⟨blankObject, object, blankLast⟩ := object
  have brackets := brackets_of_recordText valued_parametersText valued_chainsText spelled
  obtain ⟨rfl, -⟩ := value_unique same blank blankObject brackets.value
    (BracketText.object object).value (ends_of_blank blankAfter) (ends_of_blank blankLast)
  exact ⟨_, spelled, object⟩

theorem settled_of_stands {entries : List (Entry _ _)} {members inner : List Member}
    (all : List.Forall₂ (Stands parametersText chainsText) entries members) {member : Member}
    (inside : member ∈ members) (named : member.Named "parameters")
    (object : ObjectText inner member.2) :
    ∀ name ∈ Parameters.names, ¬ Twice name inner ∧ ¬ Lacks name inner := by
  obtain ⟨others, -, alone⟩ := sublist_of_related all (List.singleton_sublist.mpr inside)
  obtain _ | ⟨stands, ⟨⟩⟩ := alone
  obtain ⟨value, spelled⟩ := stands.spells_first (by decide) named
  obtain ⟨key, shown⟩ := member
  cases spelled with
  | null =>
    have head := Enclosed.head object
    cases head
  | some rendering => exact Parameters.settled_of_rendering rendering object

theorem not_ambiguous_of_recordText {document : Document} {text : List Char}
    {members : List Member}
    (spelled : RecordText parametersText chainsText (document.parameters, document.chains) text)
    (object : ObjectText members text) : ¬ Ambiguous members := by
  obtain ⟨entries, all, parameters, chains⟩ :=
    entries_of_object valued_parametersText valued_chainsText spelled object
  have distinct : parametersText.name ≠ chainsText.name := by decide
  have first := Stands.marks_first distinct
  have second := Stands.marks_second distinct
  intro ambiguous
  cases ambiguous with
  | part listed twice =>
    simp only [names, List.mem_cons, List.not_mem_nil, or_false] at listed
    rcases listed with rfl | rfl
    · exact not_twice all first parameters.length_le twice
    · exact not_twice all second chains.length_le twice
  | repeated inside named object listed twice =>
    exact (settled_of_stands all inside named object _ listed).1 twice
  | missing inside named object listed lacks =>
    exact (settled_of_stands all inside named object _ listed).2 lacks

theorem rendering_of_agree {document : Document} {members others : List Member}
    {text shown : List Char} (object : ObjectOf members text) (other : ObjectOf others shown)
    (agree : Agree Keeps members others) (rendering : document.Rendering text) :
    document.Rendering shown := by
  obtain ⟨value, spelled, inside⟩ := recordText_of_rendering rendering object rfl
  obtain ⟨blank, object, blankAfter⟩ := other
  have spelledOther :=
    recordText_of_agree valued_parametersText valued_chainsText kept_parametersText
      kept_chainsText spelled inside object agree
  exact .blanks blank spelledOther blankAfter

/-- A text that is an ambiguous object is refused. What the values of members of other names hold is
beside the point: with others in their place a text is read as the same document. -/
theorem ofText_of_ambiguous {members : List Member} {text : String}
    (object : ObjectOf members text.toList) :
    (Ambiguous members → ∃ error, ofText text = .error (.json error)) ∧
    ∀ (others : List Member) (other : String), ObjectOf others other.toList →
      Agree Keeps members others → ∀ document, ofText text = .ok document ↔
        ofText other = .ok document := by
  constructor
  · intro ambiguous
    cases ofText_cases text with
    | inl accepted =>
      obtain ⟨document, accepted⟩ := accepted
      obtain ⟨value, spelled, inside⟩ :=
        recordText_of_rendering (ofText_eq_ok_iff.mp accepted) object rfl
      exact absurd ambiguous (not_ambiguous_of_recordText spelled inside)
    | inr refused => exact refused
  · intro others other objectOther agree document
    rw [ofText_eq_ok_iff, ofText_eq_ok_iff]
    exact ⟨rendering_of_agree object objectOther agree,
      rendering_of_agree objectOther object (agree.symm Keeps.symm)⟩

def repeated : String := "\x7b\"chains\":null,\"\\u0063hains\":null\x7d"

def repeatedMembers : List Member :=
  [("chains".toList, "null".toList), ("\\u0063hains".toList, "null".toList)]

theorem spells_escaped : Spells "chains".toList "\\u0063hains".toList := by
  have zero : SpellsDigit 0 '0' := .lower (by decide)
  have digits : SpellsUnit 0x63 ['0', '0', '6', '3'] :=
    .digits zero zero (.lower (by decide : 6 < 16)) (.lower (by decide : 3 < 16))
  exact .cons (.unit digits rfl rfl) (spells_flatMap_escape "hains".toList)

theorem object_repeated : ObjectText repeatedMembers repeated.toList := by
  have plain := quoted_of_spells (spells_flatMap_escape "chains".toList)
  have first : Member.Text ("chains".toList, "null".toList) _ :=
    ⟨plain, .null, .colon blank_nil blank_nil⟩
  have second : Member.Text ("\\u0063hains".toList, "null".toList) _ :=
    ⟨quoted_of_spells spells_escaped, .null, .colon blank_nil blank_nil⟩
  exact .items (.more blank_nil first blank_nil (.one blank_nil second blank_nil))

def noted (value : String) : String := "\x7b\"note\":" ++ value ++ "\x7d"

theorem objectOf_noted {value : String} (valued : ValueText value.toList) :
    ObjectOf [("note".toList, value.toList)] (noted value).toList := by
  have quoted := quoted_of_spells (spells_flatMap_escape "note".toList)
  have member : Member.Text ("note".toList, value.toList) _ :=
    ⟨quoted, valued, .colon blank_nil blank_nil⟩
  have object : ObjectText [("note".toList, value.toList)] _ :=
    .items (.one blank_nil member blank_nil)
  have blanks := ObjectOf.blanks blank_nil object blank_nil
  simpa [noted] using blanks

theorem ofText_of_noted_null : ofText (noted "null") = .ok ⟨none, none⟩ := by
  have entry : EntryText parametersText chainsText .unknown _ :=
    .unknown (spells_flatMap_escape "note".toList) (by decide) (by decide) .null
      (.colon blank_nil blank_nil)
  have object : RecordText parametersText chainsText (none, none) _ :=
    .object (.inr ⟨rfl, rfl⟩) (.inr ⟨rfl, rfl⟩) (.items (.one blank_nil entry blank_nil))
  have rendering : Rendering ⟨none, none⟩ _ := .blanks blank_nil object blank_nil
  exact ofText_eq_ok_iff.mpr rendering

theorem ofText_of_repeated :
    (ObjectOf repeatedMembers repeated.toList ∧ Ambiguous repeatedMembers ∧
      ∃ error, ofText repeated = .error (.json error)) ∧
    ofText (noted repeated) = .ok ⟨none, none⟩ := by
  have object : ObjectOf repeatedMembers repeated.toList := by
    simpa using ObjectOf.blanks blank_nil object_repeated blank_nil
  have twice : Twice "chains" repeatedMembers :=
    ⟨_, _, List.Sublist.refl _, spells_flatMap_escape "chains".toList, spells_escaped⟩
  have ambiguous : Ambiguous repeatedMembers := .part (by decide) twice
  have value := (BracketText.object object_repeated).value
  have agree : Agree Keeps [("note".toList, "null".toList)]
      [("note".toList, repeated.toList)] := by
    refine .cons ⟨rfl, fun name named => .other ?_⟩ .nil
    rw [name_unique named (spells_flatMap_escape "note".toList)]
    decide
  have null : ObjectOf [("note".toList, "null".toList)] (noted "null").toList :=
    objectOf_noted .null
  have nested := (ofText_of_ambiguous null).2 _ _ (objectOf_noted value) agree
  exact ⟨⟨object, ambiguous, (ofText_of_ambiguous object).1 ambiguous⟩,
    (nested _).mp ofText_of_noted_null⟩

end Document

end Winternitz
