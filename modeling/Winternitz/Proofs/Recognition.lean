import Winternitz.Proofs.Json.Brackets
import Winternitz.Proofs.Json.Deriving
import Winternitz.Proofs.Renderings

set_option autoImplicit false

namespace Winternitz

open Json

theorem Json.Reader.spelled_of_read {α : Type} {reader : Reader α} {spells : α → List Char → Prop}
    (derives : reader.Derives spells) {text : String} {value : α}
    (read : reader.read text = .ok value) :
    ∃ before used after, text.toList = before ++ (used ++ after) ∧ Blank before ∧
      spells value used ∧ Blank after := by
  obtain ⟨⟨found, after⟩, run, last⟩ := bind_eq_ok.1 (mapError_eq_ok.mp read)
  obtain ⟨before, used, split, blank, spelled⟩ := derives run
  dsimp only at last
  split at last
  next nothing =>
    cases last
    exact ⟨before, used, after, split, blank, spelled, blank_of_dropBlank nothing⟩
  next => cases last

namespace Parameters

theorem covers_chainCountText : chainCountText.Covers record.first :=
  ⟨⟨rfl, rfl, Reader.takes_sizeText⟩, Reader.derives_size⟩

theorem covers_digestSizeText : digestSizeText.Covers record.second :=
  ⟨⟨rfl, rfl, Reader.takes_sizeText⟩, Reader.derives_size⟩

theorem derives_reader : Parameters.reader.Derives Rendering :=
  Reader.derives_map (Record.derives_reader covers_chainCountText covers_digestSizeText)

theorem brackets_of_rendering {params : Parameters} {text : List Char}
    (rendering : params.Rendering text) : BracketText text :=
  brackets_of_recordText (fun _ _ => value_of_sizeText) (fun _ _ => value_of_sizeText) rendering

end Parameters

namespace Document

theorem covers_parametersText : parametersText.Covers record.first :=
  ⟨fits_parametersText, Parameters.derives_reader.optional⟩

theorem covers_chainsText : chainsText.Covers record.second :=
  ⟨fits_chainsText, Reader.derives_string.optional.list.optional⟩

theorem derives_reader :
    Document.reader.Derives fun document =>
      RecordText parametersText chainsText (document.parameters, document.chains) :=
  Reader.derives_map (Record.derives_reader covers_parametersText covers_chainsText)

/-- The texts that are read as a document are the ones that stand for it. -/
theorem ofText_eq_ok_iff {document : Document} {text : String} :
    ofText text = .ok document ↔ document.Rendering text.toList := by
  constructor
  · intro read
    obtain ⟨before, value, after, split, blank, spelled, blankAfter⟩ :=
      Reader.spelled_of_read derives_reader (mapError_eq_ok.mp read)
    exact split ▸ .blanks blank spelled blankAfter
  · intro rendering
    obtain ⟨chars, rfl⟩ : ∃ chars, text = String.ofList chars := ⟨_, String.ofList_toList.symm⟩
    rw [String.toList_ofList] at rendering
    obtain ⟨blank, spelled, blankAfter⟩ := rendering
    have takes := takes_recordText (by decide) fits_parametersText fits_chainsText spelled
    exact ofText_of_read (Reader.read_between blank (Reader.takes_map _ takes) blankAfter)

theorem ofText_cases (text : String) :
    (∃ document, ofText text = .ok document) ∨ ∃ error, ofText text = .error (.json error) := by
  unfold ofText
  cases reader.read text with
  | ok document => exact .inl ⟨document, rfl⟩
  | error error => exact .inr ⟨error, rfl⟩

theorem valued_parametersText : parametersText.Valued :=
  value_of_optionText fun _ _ rendering => (Parameters.brackets_of_rendering rendering).value

theorem valued_chainsText : chainsText.Valued :=
  value_of_optionText fun _ _ spelled =>
    (brackets_of_listText (value_of_optionText fun _ _ => value_of_stringText) spelled).value

end Document

end Winternitz
