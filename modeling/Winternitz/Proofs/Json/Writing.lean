import Winternitz.Proofs.Json.Members

set_option autoImplicit false

namespace Winternitz.Json

variable {α β : Type}

structure Spacing.Blank (spacing : Spacing) : Prop where
  line : ∀ depth, Json.Blank (spacing.line depth)
  colon : ∃ before after, Json.Blank before ∧ Json.Blank after ∧
    spacing.colon = before ++ ':' :: after

theorem pretty_blank : Spacing.pretty.Blank where
  line depth c member := by
    rcases List.mem_cons.mp member with rfl | member
    · decide
    · rw [List.eq_of_mem_replicate member]
      decide
  colon := ⟨[], [' '], blank_nil, by simp [Json.Blank], rfl⟩

theorem compact_blank : Spacing.compact.Blank where
  line _ := blank_nil
  colon := ⟨[], [], blank_nil, blank_nil, rfl⟩

namespace Reader

open Value (write writeItems writeMembers)

theorem takes_write_string (spacing : Spacing) (depth : Nat) (text : String) :
    string.Takes (write spacing depth (.string text)) text := by
  simpa [write, writeString] using takes_string (spells_flatMap_escape text.toList)

theorem takes_write_natural (spacing : Spacing) (depth : Nat) (n : UInt64) :
    size.Takes (write spacing depth (.natural n.toNat)) n := by
  simpa [write] using takes_size n

theorem takes_write_chain (spacing : Spacing) (depth : Nat) (chain : Option String) :
    string.optional.Takes (write spacing depth (chain.elim .null .string)) chain := by
  cases chain with
  | none => simpa [write] using takes_null string
  | some text =>
    refine takes_optional (takes_write_string spacing depth text) ?_
    simp [write, writeString]

theorem takesElements_writeItems {element : Reader α} {toValue : α → Value} {spacing : Spacing}
    (blank : spacing.Blank) {depth : Nat} {close : List Char} (blankClose : Json.Blank close)
    (takes : ∀ value, element.Takes (write spacing depth (toValue value)) value)
    (value : α) (values : List α) :
    TakesElements element true
      (writeItems spacing depth ((value :: values).map toValue) ++ (close ++ [']']))
      (value :: values) := by
  induction values generalizing value with
  | nil =>
    simpa [writeItems] using
      TakesElements.head (blank.line depth) (takes value) (TakesElements.close blankClose)
  | cons next rest ih =>
    simpa [writeItems] using
      TakesElements.head (blank.line depth) (takes value) (takesElements_comma blank_nil (ih next))

theorem takes_write_list {element : Reader α} {toValue : α → Value} {spacing : Spacing}
    (blank : spacing.Blank) (depth : Nat)
    (takes : ∀ depth value, element.Takes (write spacing depth (toValue value)) value)
    (values : List α) :
    element.list.Takes (write spacing depth (.list (values.map toValue))) values := by
  cases values with
  | nil => simpa [write] using takes_list (TakesElements.close blank_nil)
  | cons value rest =>
    have taken := takesElements_writeItems blank (blank.line depth) (takes (depth + 1)) value rest
    simpa [write] using takes_list taken

theorem takesMember_write {field : Field α} {spacing : Spacing} (blank : spacing.Blank)
    {line text : List Char} {value : α} (blankLine : Json.Blank line)
    (takes : field.reader.Takes text value) :
    TakesMember field (line ++ writeString field.name ++ spacing.colon ++ text) value := by
  obtain ⟨before, after, blankBefore, blankAfter, colon⟩ := blank.colon
  have spells := spells_flatMap_escape field.name.toList
  simpa [writeString, colon] using
    TakesMember.member blankLine spells blankBefore blankAfter takes

theorem takes_write_object (record : Record α β)
    (distinct : record.second.name ≠ record.first.name) {spacing : Spacing}
    (blank : spacing.Blank) {depth : Nat} {v w : Value} {a : α} {b : β}
    (first : record.first.reader.Takes (write spacing (depth + 1) v) a)
    (second : record.second.reader.Takes (write spacing (depth + 1) w) b) :
    record.reader.Takes
      (write spacing depth (.object [(record.first.name, v), (record.second.name, w)])) (a, b) := by
  have full : record.fill (some a) (some b) = .ok (a, b) := rfl
  have close : TakesMembers record false (some a) (some b) (spacing.line depth ++ ['\x7d']) (a, b) :=
    .close (blank.line depth) full
  have last := TakesMembers.second (.comma blank_nil)
    (takesMember_write blank (blank.line (depth + 1)) second) close
  have taken := TakesMembers.first .start
    (takesMember_write blank (blank.line (depth + 1)) first) last
  simpa [write, writeMembers] using Record.takes_object distinct taken

end Reader

end Winternitz.Json
