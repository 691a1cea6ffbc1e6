import Winternitz.Proofs.Json.Loose
import Winternitz.Proofs.Recognition

set_option autoImplicit false

namespace Winternitz

open Json

inductive Dimension
  | chainCount
  | digestSize
deriving DecidableEq, Repr

namespace Dimension

def name : Dimension → String
  | chainCount => "chain_count"
  | digestSize => "digest_size"

def position : Dimension → Nat
  | chainCount => 0
  | digestSize => 1

def of : Dimension → Parameters → UInt64
  | chainCount, params => params.chainCount
  | digestSize, params => params.digestSize

end Dimension

/-- An integer without sign, leading zero, fraction or exponent, which is a size. -/
structure SizeLiteral (literal : List Char) : Prop where
  numeral : Numeral literal
  small : Nat.ofDigitChars 10 literal 0 < UInt64.size

structure ReadsAs (literal : List Char) (n : UInt64) : Prop where
  numeral : Numeral literal
  value : Nat.ofDigitChars 10 literal 0 = n.toNat

theorem readsAs_of_sizeText {n : UInt64} {literal : List Char} (spelled : SizeText n literal) :
    ReadsAs literal n := by
  cases spelled with
  | decimal => exact ⟨numeral_toDigits n.toNat, Nat.ofDigitChars_ten_toDigits⟩

theorem ReadsAs.sizeLiteral {literal : List Char} {n : UInt64} (reads : ReadsAs literal n) :
    SizeLiteral literal :=
  ⟨reads.numeral, reads.value ▸ n.toNat_lt⟩

def Holds (P : List Char → Prop) (text : String) : Prop :=
  ∃ before value after, text.toList = before ++ (value ++ after) ∧ Blank before ∧ P value ∧
    Blank after

theorem eq_of_holds {P Q : List Char → Prop} {text : String} (loose : Holds P text)
    (valued : Holds Q text) (isLoose : ∀ value, P value → LooseText value)
    (isValue : ∀ value, Q value → ValueText value) : ∃ value, P value ∧ Q value := by
  obtain ⟨before, value, after, split, blank, here, blankAfter⟩ := loose
  obtain ⟨start, other, rest, splitOther, blankStart, there, blankRest⟩ := valued
  obtain ⟨rfl, -⟩ := loose_decides (isLoose value here) (isValue other there)
    (split.symm.trans splitOther) blank blankStart (stops_of_blank blankAfter)
    (stops_of_blank blankRest)
  exact ⟨value, here, there⟩

namespace Parameters

/-- This literal stands for a dimension. -/
def WrittenFor (dimension : Dimension) (literal : List Char) : List Char → Prop :=
  Written dimension.name dimension.position literal

theorem sizeText_of_written {params : Parameters} {text literal : List Char}
    {dimension : Dimension} (rendering : params.Rendering text)
    (written : WrittenFor dimension literal text) : SizeText (dimension.of params) literal := by
  have first : chainCountText.Valued := fun _ _ => value_of_sizeText
  have second : digestSizeText.Valued := fun _ _ => value_of_sizeText
  cases dimension with
  | chainCount => exact spells_of_written_first first second (by decide) rendering written
  | digestSize => exact spells_of_written_second first second (by decide) rendering written

theorem holds_of_ofText {text : String} {params : Parameters}
    (read : ofText text = .ok params) : Holds params.Rendering text :=
  Reader.spelled_of_read derives_reader read

theorem readsAs_of_ofText {text : String} {literal : List Char} {dimension : Dimension}
    (written : Holds (WrittenFor dimension literal) text) {params : Parameters}
    (read : ofText text = .ok params) : ReadsAs literal (dimension.of params) := by
  obtain ⟨value, written, rendering⟩ := eq_of_holds written (holds_of_ofText read)
    (fun _ written => written.loose) (fun _ rendering => (brackets_of_rendering rendering).value)
  exact readsAs_of_sizeText (sizeText_of_written rendering written)

end Parameters

namespace Document

def WrittenFor (dimension : Dimension) (literal text : List Char) : Prop :=
  ∃ parameters, Written "parameters" 0 parameters text ∧
    Parameters.WrittenFor dimension literal parameters

theorem holds_of_ofText {text : String} {document : Document}
    (read : ofText text = .ok document) :
    Holds (RecordText parametersText chainsText (document.parameters, document.chains)) text :=
  Reader.spelled_of_read derives_reader (mapError_eq_ok.mp read)

theorem head_of_written {name : String} {position : Nat} {value text : List Char}
    (written : Written name position value text) : text.head? ≠ some 'n' := by
  cases written with
  | object loose => simp [loose.laid.head]
  | list loose => simp [loose.laid.head]

theorem readsAs_of_ofText {text : String} {literal : List Char} {dimension : Dimension}
    (written : Holds (WrittenFor dimension literal) text) {document : Document}
    (read : ofText text = .ok document) :
    ∃ params, document.parameters = some params ∧ ReadsAs literal (dimension.of params) := by
  obtain ⟨value, ⟨parameters, outer, inner⟩, spelled⟩ := eq_of_holds written (holds_of_ofText read)
    (fun _ written => written.choose_spec.1.loose)
    (fun _ spelled =>
      (brackets_of_recordText valued_parametersText valued_chainsText spelled).value)
  have shown : OptionText Parameters.Rendering document.parameters parameters :=
    spells_of_written_first valued_parametersText valued_chainsText (by decide) spelled outer
  cases given : document.parameters with
  | none =>
    rw [given] at shown
    cases shown
    exact absurd rfl (head_of_written inner)
  | some params =>
    rw [given] at shown
    cases shown with
    | some rendering =>
      exact ⟨params, rfl, readsAs_of_sizeText (Parameters.sizeText_of_written rendering inner)⟩

end Document

def inOrder (chainCount digestSize : List Char) : List Char :=
  '[' :: (chainCount ++ ',' :: (digestSize ++ [']']))

theorem loose_inOrder {chainCount digestSize : List Char} (run : RunText chainCount)
    (runOther : RunText digestSize) :
    LooseList [chainCount, digestSize] (inOrder chainCount digestSize) where
  values := by simpa using ⟨LooseText.run run, LooseText.run runOther⟩
  laid := by
    have laid := Items.more blank_nil (rfl : chainCount = _) blank_nil
      (.one blank_nil (rfl : digestSize = _) blank_nil)
    simpa [inOrder] using Enclosed.items laid

def alone (key value : List Char) : List Char :=
  '\x7b' :: '"' :: (key ++ '"' :: ':' :: (value ++ ['\x7d']))

theorem loose_alone {key value : List Char} (quoted : QuotedText key) (loose : LooseText value) :
    LooseObject [(key, value)] (alone key value) where
  keys := by simpa using quoted
  values := by simpa using loose
  laid := by
    have member : MemberText key value _ := .colon blank_nil blank_nil
    have laid : Items (fun member => MemberText member.1 member.2) [(key, value)] _ :=
      .one blank_nil member blank_nil
    simpa [alone] using Enclosed.items laid

theorem holds_whole {P : List Char → Prop} {text : List Char} (here : P text) :
    Holds P (String.ofList text) :=
  ⟨[], text, [], by simp, blank_nil, here, blank_nil⟩

def recorded (digestSize : List Char) : List Char :=
  alone "parameters".toList (inOrder ['1'] digestSize)

theorem written_recorded {digestSize : List Char} (run : RunText digestSize) :
    Document.WrittenFor .digestSize digestSize (recorded digestSize) := by
  have spells : Spells "parameters".toList "parameters".toList :=
    spells_flatMap_escape "parameters".toList
  have one : RunText ['1'] := by decide
  have list := loose_inOrder one run
  have object := loose_alone (quoted_of_spells spells) (.list list.values list.laid)
  exact ⟨_, .object object (List.mem_singleton.mpr rfl) spells, .list list rfl⟩

/-- Dimensions are read as they are written. All of them come back from their compact text. Where a
literal stands for a dimension, in parameters or in a document, as a member or in order, the text is
accepted only if the literal is an integer with neither sign nor needless zeros, fraction or
exponent, and small enough for a size, and then the dimension is this integer. All other literals
are errors, however many digits they have. -/
theorem dimensions_are_exact :
    (∀ params : Parameters, Parameters.ofText params.toValue.compact = .ok params) ∧
    (∀ (dimension : Dimension) (literal : List Char) (text : String),
      Holds (Parameters.WrittenFor dimension literal) text →
      (∀ params, Parameters.ofText text = .ok params → ReadsAs literal (dimension.of params)) ∧
      (¬ SizeLiteral literal → ∃ error, Parameters.ofText text = .error error)) ∧
    (∀ (dimension : Dimension) (literal : List Char) (text : String),
      Holds (Document.WrittenFor dimension literal) text →
      (∀ document, Document.ofText text = .ok document →
        ∃ params, document.parameters = some params ∧ ReadsAs literal (dimension.of params)) ∧
      (¬ SizeLiteral literal → ∃ error, Document.ofText text = .error (.json error))) := by
  refine ⟨?compact, fun dimension literal text written => ⟨?_, ?_⟩,
    fun dimension literal text written => ⟨?_, ?_⟩⟩
  case compact =>
    intro params
    exact Reader.read_of_takes (params.takes_write compact_blank 0)
  · intro params read
    exact Parameters.readsAs_of_ofText written read
  · intro wrong
    cases read : Parameters.ofText text with
    | error error => exact ⟨error, rfl⟩
    | ok params => exact absurd (Parameters.readsAs_of_ofText written read).sizeLiteral wrong
  · intro document read
    exact Document.readsAs_of_ofText written read
  · intro wrong
    rcases Document.ofText_cases text with ⟨document, read⟩ | refused
    · obtain ⟨params, -, reads⟩ := Document.readsAs_of_ofText written read
      exact absurd reads.sizeLiteral wrong
    · exact refused

def pastSizes : List Char := "18446744073709551616".toList

theorem dimensions_of_past_sizes :
    Holds (Document.WrittenFor .digestSize pastSizes) (String.ofList (recorded pastSizes)) ∧
    Holds (Parameters.WrittenFor .chainCount ['0', '1'])
      (String.ofList (inOrder ['0', '1'] ['1'])) ∧
    ¬ SizeLiteral pastSizes ∧ ¬ SizeLiteral ['0', '1'] ∧
    (∃ error, Document.ofText (String.ofList (recorded pastSizes)) = .error (.json error)) ∧
    ∃ error, Parameters.ofText (String.ofList (inOrder ['0', '1'] ['1'])) = .error error := by
  have one : RunText ['1'] := by decide
  have zeroOne : RunText ['0', '1'] := by decide
  have past : RunText pastSizes := by decide
  have written := holds_whole (written_recorded past)
  have writtenZero : Holds (Parameters.WrittenFor .chainCount ['0', '1']) _ :=
    holds_whole (.list (loose_inOrder zeroOne one) rfl)
  have large : ¬ SizeLiteral pastSizes := fun literal => absurd literal.small (by decide)
  have zeroLed : ¬ SizeLiteral ['0', '1'] := by
    rintro ⟨numeral, -⟩
    cases numeral with
    | positive _ notZero _ => exact notZero rfl
  obtain ⟨-, parameters, documents⟩ := dimensions_are_exact
  exact ⟨written, writtenZero, large, zeroLed, (documents _ _ _ written).2 large,
    (parameters _ _ _ writtenZero).2 zeroLed⟩

end Winternitz
