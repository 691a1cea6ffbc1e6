import Winternitz.Proofs.Json.Forms
import Winternitz.Proofs.RoundTrip

set_option autoImplicit false

namespace Winternitz

open Json

namespace Parameters

def chainCountText : FieldText UInt64 := ⟨"chain_count", SizeText, none⟩
def digestSizeText : FieldText UInt64 := ⟨"digest_size", SizeText, none⟩

def Rendering (params : Parameters) : List Char → Prop :=
  RecordText chainCountText digestSizeText (params.chainCount, params.digestSize)

theorem takes_rendering {params : Parameters} {text : List Char}
    (rendering : params.Rendering text) : Parameters.reader.Takes text params := by
  have chainCount : chainCountText.Fits record.first := ⟨rfl, rfl, Reader.takes_sizeText⟩
  have digestSize : digestSizeText.Fits record.second := ⟨rfl, rfl, Reader.takes_sizeText⟩
  exact Reader.takes_map _ (takes_recordText (by decide) chainCount digestSize rendering)

end Parameters

namespace Document

def parametersText : FieldText (Option Parameters) :=
  ⟨"parameters", OptionText Parameters.Rendering, some none⟩

def chainsText : FieldText (Option (List (Option String))) :=
  ⟨"chains", OptionText (ListText (OptionText StringText)), some none⟩

inductive Rendering (document : Document) : List Char → Prop
  | blanks {before value after : List Char} : Blank before →
      RecordText parametersText chainsText (document.parameters, document.chains) value →
      Blank after → Rendering document (before ++ (value ++ after))

theorem fits_parametersText : parametersText.Fits record.first where
  name := rfl
  absent := rfl
  takes := Reader.takes_optionText Parameters.takes_rendering RecordText.notNull

theorem fits_chainsText : chainsText.Fits record.second where
  name := rfl
  absent := rfl
  takes spelled := by
    have chain {value : Option String} {text : List Char}
        (spelled : OptionText StringText value text) : Reader.string.optional.Takes text value :=
      Reader.takes_optionText Reader.takes_stringText StringText.notNull spelled
    exact Reader.takes_optionText (Reader.takes_listText chain) ListText.notNull spelled

/-- A document is read from every text that stands for it. -/
theorem ofText_of_rendering {document : Document} {text : String}
    (rendering : document.Rendering text.toList) : ofText text = .ok document := by
  obtain ⟨chars, rfl⟩ : ∃ chars, text = String.ofList chars := ⟨_, String.ofList_toList.symm⟩
  rw [String.toList_ofList] at rendering
  obtain ⟨blank, spelled, blankAfter⟩ := rendering
  have takes := takes_recordText (by decide) fits_parametersText fits_chainsText spelled
  exact ofText_of_read (Reader.read_between blank (Reader.takes_map _ takes) blankAfter)

def reordered : String :=
  "\x7b\"note\": [\x7b\"\x7d\": -1e5\x7d], \"\\u0063hains\": [\"\\uD83D\\uDE00\", null], " ++
    "\"parameters\": [2, 32]\x7d "

theorem rendering_reordered :
    Rendering ⟨some ⟨2, 32⟩, some [some "😀", none]⟩ reordered.toList := by
  have space : Blank [' '] := by simp [Blank]
  have number : NumberText ['-', '1', 'e', '5'] :=
    have one : Numeral ['1'] := .positive rfl (by decide) (by simp)
    have exponent : ExponentText ['e', '5'] :=
      .digits (by decide) (by decide : [] ∈ _) rfl (by simp)
    .negative (.parts one .none exponent)
  have brace : QuotedText ['\x7d'] := .raw (by decide) (by decide) (by decide) .nil
  have object := ValueText.object (by simpa using brace) (by simpa using ValueText.number number)
    (.items (.one blank_nil (.colon blank_nil space) blank_nil) :
      Enclosed _ _ _ [(['\x7d'], ['-', '1', 'e', '5'])] _)
  have list := ValueText.list (by simpa using object) (.items (.one blank_nil rfl blank_nil))
  have note := EntryText.unknown (f := parametersText) (g := chainsText)
    (spells_flatMap_escape "note".toList) (by decide) (by decide) list (.colon blank_nil space)
  have key : Spells "chains".toList "\\u0063hains".toList :=
    have digits : SpellsUnit 0x63 ['0', '0', '6', '3'] :=
      have zero : SpellsDigit 0 '0' := .lower (by decide)
      .digits zero zero (.lower (by decide : 6 < 16)) (.lower (by decide : 3 < 16))
    .cons (.unit digits rfl rfl) (spells_flatMap_escape "hains".toList)
  have face : Spells "😀".toList "\\uD83D\\uDE00".toList :=
    have first : SpellsUnit 0xd83d ['D', '8', '3', 'D'] :=
      .digits (.upper (by decide : 13 < 16)) (.lower (by decide : 8 < 16))
        (.lower (by decide : 3 < 16)) (.upper (by decide : 13 < 16))
    have second : SpellsUnit 0xde00 ['D', 'E', '0', '0'] :=
      .digits (.upper (by decide : 13 < 16)) (.upper (by decide : 14 < 16))
        (.lower (by decide : 0 < 16)) (.lower (by decide : 0 < 16))
    .cons (.pair first second rfl rfl) .nil
  have chains : chainsText.spells (some [some "😀", none]) _ :=
    .some (.items (.more blank_nil (.some (.quoted face)) blank_nil (.one space .null blank_nil)))
  have second := EntryText.second (f := parametersText) key chains (.colon blank_nil space)
  have parameters : parametersText.spells (some ⟨2, 32⟩) _ :=
    .some (.list (.items (.more blank_nil (.first (.decimal 2)) blank_nil
      (.one space (.second (.decimal 32)) blank_nil))))
  have first := EntryText.first (g := chainsText) (spells_flatMap_escape "parameters".toList)
    parameters (.colon blank_nil space)
  have laid := Items.more blank_nil note blank_nil (.more space second blank_nil
    (.one space first blank_nil))
  exact .blanks blank_nil (.object (.inl rfl) (.inl rfl) (.items laid)) space

theorem ofText_of_reordered :
    Rendering ⟨some ⟨2, 32⟩, some [some "😀", none]⟩ reordered.toList ∧
      ofText reordered = .ok ⟨some ⟨2, 32⟩, some [some "😀", none]⟩ :=
  ⟨rendering_reordered, ofText_of_rendering rendering_reordered⟩

end Document

end Winternitz
