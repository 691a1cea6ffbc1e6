import Winternitz.Document.Text
import Winternitz.Proofs.Json.Writing

set_option autoImplicit false

namespace Winternitz

open Json

theorem Json.Reader.read_between {α : Type} {reader : Reader α} {before text after : List Char}
    {value : α} (blank : Blank before) (takes : reader.Takes text value)
    (blankAfter : Blank after) :
    reader.read (String.ofList (before ++ (text ++ after))) = .ok value := by
  have run := takes.run blank (ends_append blankAfter (show Ends [] from trivial))
  have nothing : dropBlank after = [] := by
    simpa [dropBlank] using dropBlank_append blankAfter []
  rw [List.append_nil] at run
  refine mapError_eq_ok.mpr ?_
  simp only [String.toList_ofList, run, nothing, bind, Except.bind, pure, Except.pure]

theorem Json.Reader.read_of_takes {α : Type} {reader : Reader α} {text : List Char} {value : α}
    (takes : reader.Takes text value) : reader.read (String.ofList text) = .ok value := by
  simpa using read_between blank_nil takes blank_nil

theorem Parameters.takes_write {spacing : Spacing} (blank : spacing.Blank) (depth : Nat)
    (params : Parameters) : Parameters.reader.Takes (params.toValue.write spacing depth) params := by
  have fields := Reader.takes_write_object Parameters.record (by decide) blank
    (Reader.takes_write_natural spacing (depth + 1) params.chainCount)
    (Reader.takes_write_natural spacing (depth + 1) params.digestSize)
  exact Reader.takes_map _ fields

namespace Document

theorem takes_write_parameters {spacing : Spacing} (blank : spacing.Blank) (depth : Nat)
    (params : Option Parameters) :
    Parameters.reader.optional.Takes
      (Value.write spacing depth (params.elim .null Parameters.toValue)) params := by
  cases params with
  | none => simpa [Value.write] using Reader.takes_null Parameters.reader
  | some params =>
    refine Reader.takes_optional (params.takes_write blank depth) ?_
    simp [Parameters.toValue, Value.write]

theorem takes_write_chains {spacing : Spacing} (blank : spacing.Blank) (depth : Nat)
    (chains : Option (List (Option String))) :
    Reader.string.optional.list.optional.Takes
      (Value.write spacing depth
        (chains.elim .null fun chains => .list (chains.map fun chain => chain.elim .null .string)))
      chains := by
  cases chains with
  | none => simpa [Value.write] using Reader.takes_null Reader.string.optional.list
  | some chains =>
    have list := Reader.takes_write_list blank depth (Reader.takes_write_chain spacing) chains
    refine Reader.takes_optional list ?_
    cases chains <;> simp [Value.write]

theorem takes_write {spacing : Spacing} (blank : spacing.Blank) (depth : Nat) (document : Document) :
    Document.reader.Takes (document.toValue.write spacing depth) document := by
  have fields := Reader.takes_write_object Document.record (by decide) blank
    (takes_write_parameters blank (depth + 1) document.parameters)
    (takes_write_chains blank (depth + 1) document.chains)
  have value : document.toValue = .object [(Document.record.first.name,
      document.parameters.elim .null Parameters.toValue), (Document.record.second.name,
      document.chains.elim .null fun chains =>
        .list (chains.map fun chain => chain.elim .null .string))] := by
    unfold toValue
    cases document.parameters <;> cases document.chains <;> rfl
  rw [value]
  exact Reader.takes_map _ fields

theorem read_toText (document : Document) : reader.read document.toText = .ok document :=
  Reader.read_of_takes (document.takes_write pretty_blank 0)

theorem toText_injective : Function.Injective toText := by
  intro document other same
  have read := document.read_toText
  rw [same, other.read_toText] at read
  exact (Except.ok.inj read).symm

theorem ofText_of_read {text : String} {document : Document}
    (read : Document.reader.read text = .ok document) : ofText text = .ok document :=
  mapError_eq_ok.mpr read

/-- Every document reads back from its text. -/
theorem ofText_toText (document : Document) : ofText document.toText = .ok document :=
  ofText_of_read (Reader.read_of_takes (document.takes_write pretty_blank 0))

end Document

end Winternitz
