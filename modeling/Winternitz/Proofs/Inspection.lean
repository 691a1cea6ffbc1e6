import Winternitz.CommandLine.Program
import Winternitz.Proofs.Attempts
import Winternitz.Proofs.RoundTrip
import Winternitz.Proofs.Summaries

set_option autoImplicit false

namespace Winternitz

theorem fromUTF8?_toUTF8 (text : String) : String.fromUTF8? text.toUTF8 = some text := by
  have valid : text.toUTF8.IsValidUTF8 := text.isValidUTF8
  rw [String.fromUTF8?, dif_pos valid]
  rfl

theorem toUTF8_of_fromUTF8? {bytes : ByteArray} {text : String}
    (read : String.fromUTF8? bytes = some text) : bytes = text.toUTF8 := by
  unfold String.fromUTF8? at read
  split at read
  next valid =>
    cases read
    rfl
  next => cases read

theorem length_le_utf8ByteSize (text : String) : text.length ≤ text.utf8ByteSize := by
  obtain ⟨chars, rfl⟩ := text.exists_eq_ofList
  induction chars with
  | nil => exact Nat.le_refl _
  | cons c rest ih =>
    have split : String.ofList (c :: rest) = String.singleton c ++ String.ofList rest := by
      simp
    have positive := c.utf8Size_pos
    rw [split, String.length_append, String.utf8ByteSize_append, String.utf8ByteSize_singleton,
      String.length_singleton]
    omega

theorem Document.fits_of_ofText {text : String} {document : Document}
    (small : text.utf8ByteSize < UInt64.size) (read : ofText text = .ok document) :
    document.Fits := by
  have letters := letters_le_of_ofText read
  have bytes := length_le_utf8ByteSize text
  simp only [UInt64.size] at small
  rw [Fits, weight, Size.bufferLimit]
  omega

namespace CommandLine

open Document (outcome)

def arguments (input : String) (set : Option ParameterSet) (withChains : Bool) : List String :=
  ["inspect", input] ++ set.elim [] (fun set => ["--params", set.name]) ++
    if withChains then ["--chains"] else []

theorem ofArgument_operand {input : String}
    (operand : input = "-" ∨ input.toList.head? ≠ some '-') :
    Word.ofArgument input = .operand input := by
  unfold Word.ofArgument
  split <;> simp_all

theorem ofArguments_arguments {input : String}
    (operand : input = "-" ∨ input.toList.head? ≠ some '-') (set : Option ParameterSet)
    (withChains : Bool) :
    Request.ofArguments (arguments input set withChains) =
      .ok (.inspect input set withChains) := by
  have first : Scan.start.next input = .ok { Scan.start with input := some input } := by
    unfold Scan.next
    rw [ofArgument_operand operand]
    rfl
  have started (rest : List String) : Request.ofArguments ("inspect" :: input :: rest) =
      (rest.foldlM Scan.next { Scan.start with input := some input }).bind Scan.finish := by
    simp only [Request.ofArguments, Request.ofInspectArguments, List.foldlM_cons, first]
    rfl
  refine (started _).trans ?_
  cases set with
  | none => cases withChains <;> rfl
  | some set => cases set <;> cases withChains <;> rfl

def under (set : Option ParameterSet) (document : Document) : Option Parameters :=
  match set with
  | some set => some set.parameters
  | none => document.parameters

def verdictOn (set : Option ParameterSet) (document : Document) :
    Checked (Except DocumentError PublicKey) :=
  outcome (document.toKeyWith (under set document))

def Judged (set : Option ParameterSet) (text : String) (result : Except DocumentError PublicKey) :
    Prop :=
  ∃ document, Document.ofText text = .ok document ∧ verdictOn set document = .ok result

abbrev Accepts (set : Option ParameterSet) (text : String) (key : PublicKey) : Prop :=
  Judged set text (.ok key)

abbrev Rejects (set : Option ParameterSet) (text : String) (error : DocumentError) : Prop :=
  Judged set text (.error error)

def opening (input : String) (set : Option ParameterSet) : LogLine :=
  ⟨.info, "Validating " ++ input ++ " against " ++
    set.elim "its recorded parameters" ParameterSet.name⟩

def rejection (error : DocumentError) : LogLine :=
  ⟨.error, "Public key rejected: " ++ error.message⟩

theorem inspectDocument_eq (input : String) (document : Document) (set : Option ParameterSet)
    (withChains : Bool) :
    inspectDocument input document set withChains =
      (document.toKeyWith (under set document)).bind fun verdict =>
        match verdict.result with
        | .ok key => (summary key set withChains).map (.succeeded [opening input set])
        | .error error =>
          .ok (.failed [opening input set, rejection error] error.detail) := by
  cases set <;> rfl

theorem inspectDocument_of_ok {document : Document} {set : Option ParameterSet}
    {key : PublicKey} (made : verdictOn set document = .ok (.ok key)) (input : String)
    (withChains : Bool) :
    inspectDocument input document set withChains =
      (summary key set withChains).map (.succeeded [opening input set]) := by
  obtain ⟨verdict, answered, result⟩ := map_eq_ok made
  simp only [inspectDocument_eq, answered, Except.bind, result]

theorem inspectDocument_of_error {document : Document} {set : Option ParameterSet}
    {error : DocumentError} (refused : verdictOn set document = .ok (.error error))
    (input : String) (withChains : Bool) :
    inspectDocument input document set withChains =
      .ok (.failed [opening input set, rejection error] error.detail) := by
  obtain ⟨verdict, answered, result⟩ := map_eq_ok refused
  simp only [inspectDocument_eq, answered, Except.bind, result]

theorem Judged.unique {set : Option ParameterSet} {text : String}
    {result other : Except DocumentError PublicKey} (judged : Judged set text result)
    (again : Judged set text other) : result = other := by
  obtain ⟨document, read, answered⟩ := judged
  obtain ⟨found, readFound, answeredFound⟩ := again
  cases read.symm.trans readFound
  exact Except.ok.inj (answered.symm.trans answeredFound)

structure Fails (detail : String) (report : Report) : Prop where
  exitCode : report.exitCode = 1
  output : report.output = ""
  complaint : report.complaint = "Error: " ++ detail ++ "\n"

/-- What a report tells of a text: the library's verdict, and a summary only of a key. -/
structure Tells (input : String) (set : Option ParameterSet) (withChains : Bool) (text : String)
    (report : Report) : Prop where
  exit : report.exitCode = 0 ↔ ∃ key, Accepts set text key
  info : (∃ line ∈ report.log, line.level = .info) ↔ ∃ document, Document.ofText text = .ok document
  error : (∃ line ∈ report.log, line.level = .error) ↔ ∃ error, Rejects set text error
  unread : ∀ error, Document.ofText text = .error error →
    Fails error.detail report ∧ report.log = []
  rejected : ∀ error, Rejects set text error →
    Fails error.detail report ∧ report.log = [opening input set, rejection error]
  accepted : ∀ key, Accepts set text key →
    report.complaint = "" ∧ report.log = [opening input set] ∧
    ∃ summary : Summary, summary.Printed set report.output ∧ summary.Describes key withChains

section Stages

variable {set : Option ParameterSet} {text : String} (input : String) (withChains : Bool)

theorem tells_of_unread {error : DocumentError} (unread : Document.ofText text = .error error) :
    Tells input set withChains text (.failed [] error.detail) := by
  have notJudged (result : Except DocumentError PublicKey) : ¬ Judged set text result := by
    rintro ⟨document, read, -⟩
    cases unread.symm.trans read
  exact {
    exit := iff_of_false (by simp [Report.failed]) fun ⟨_, accepts⟩ => notJudged _ accepts
    info := by simp [Report.failed, unread]
    error := iff_of_false (by simp [Report.failed]) fun ⟨_, rejects⟩ => notJudged _ rejects
    unread := by
      intro other same
      cases unread.symm.trans same
      exact ⟨⟨rfl, rfl, rfl⟩, rfl⟩
    rejected := fun _ rejects => absurd rejects (notJudged _)
    accepted := fun _ accepts => absurd accepts (notJudged _) }

theorem tells_of_rejected {error : DocumentError} (rejects : Rejects set text error) :
    Tells input set withChains text
      (.failed [opening input set, rejection error] error.detail) := by
  have noKey (key : PublicKey) : ¬ Accepts set text key :=
    fun accepts => nomatch rejects.unique accepts
  have ⟨document, read, _⟩ := rejects
  exact {
    exit := iff_of_false (by simp [Report.failed]) fun ⟨key, accepts⟩ => noKey key accepts
    info := iff_of_true ⟨_, List.mem_cons_self, rfl⟩ ⟨document, read⟩
    error := iff_of_true ⟨rejection error, by simp [Report.failed], rfl⟩ ⟨error, rejects⟩
    unread := by
      intro other unread
      cases read.symm.trans unread
    rejected := by
      intro other rejectsOther
      cases rejects.unique rejectsOther
      exact ⟨⟨rfl, rfl, rfl⟩, rfl⟩
    accepted := fun key accepts => absurd accepts (noKey key) }

theorem tells_of_accepted {key : PublicKey} (accepts : Accepts set text key) (valid : key.Valid)
    {output : String} (printed : (Summary.ofKey key withChains).Printed set output) :
    Tells input set withChains text (.succeeded [opening input set] output) := by
  have noRejection (error : DocumentError) : ¬ Rejects set text error :=
    fun rejects => nomatch accepts.unique rejects
  have ⟨document, read, _⟩ := accepts
  exact {
    exit := iff_of_true rfl ⟨key, accepts⟩
    info := iff_of_true ⟨_, List.mem_cons_self, rfl⟩ ⟨document, read⟩
    error := iff_of_false (by simp [Report.succeeded, opening])
      fun ⟨error, rejects⟩ => noRejection error rejects
    unread := by
      intro other unread
      cases read.symm.trans unread
    rejected := fun error rejects => absurd rejects (noRejection error)
    accepted := by
      intro other acceptsOther
      cases accepts.unique acceptsOther
      exact ⟨rfl, rfl, _, printed, Summary.ofKey_describes valid withChains⟩ }

end Stages

theorem exists_inspectDocument {text : String} {document : Document}
    (read : Document.ofText text = .ok document) (fits : document.Fits) (input : String)
    (set : Option ParameterSet) (withChains : Bool) :
    ∃ report, inspectDocument input document set withChains = .ok report ∧
      Tells input set withChains text report := by
  have room : (Attempt.toKeyWith document (under set document)).Fits := fits
  obtain ⟨verdict, answered⟩ := Attempt.answers_of_fits room
  have judged : verdictOn set document = .ok verdict.result := congrArg outcome answered
  cases result : verdict.result with
  | error error =>
    rw [result] at judged
    exact ⟨_, inspectDocument_of_error judged input withChains,
      tells_of_rejected input withChains ⟨document, read, judged⟩⟩
  | ok key =>
    rw [result] at judged
    have valid := (Attempt.key_of_verdict answered result).2.1
    obtain ⟨output, summed, printed⟩ := Summary.summary_of_valid valid set withChains
    refine ⟨_, ?_, tells_of_accepted input withChains ⟨document, read, judged⟩ valid printed⟩
    rw [inspectDocument_of_ok judged, summed]
    rfl

theorem program_inspects {m : Type → Type} [Monad m]
    (read : Source → m (Except ReadError ByteArray)) {input : String}
    (operand : input = "-" ∨ input.toList.head? ≠ some '-') (set : Option ParameterSet)
    (withChains : Bool) :
    program read (arguments input set withChains) = do
      let content ← read (.ofOperand input)
      return inspectContent input set withChains content := by
  rw [program, ofArguments_arguments operand]

def oneByTwo : Document := ⟨some ⟨1, 2⟩, some [some "0a0B"]⟩

def oneKey : Source → Id (Except ReadError ByteArray)
  | .standardInput => .ok oneByTwo.toText.toUTF8
  | .file _ => .error .notFound

end CommandLine

end Winternitz
