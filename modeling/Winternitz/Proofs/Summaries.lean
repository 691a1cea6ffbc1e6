import Winternitz.CommandLine.Report
import Winternitz.Proofs.HexCase
import Winternitz.Proofs.Json.Numerals
import Winternitz.Proofs.Representations

set_option autoImplicit false

namespace Winternitz.CommandLine

def linesOf (text : String) : List String :=
  (text.toList.splitOn '\n').map String.ofList

def OneLine (text : String) : Prop := '\n' ∉ text.toList

instance : DecidablePred OneLine :=
  fun text => inferInstanceAs (Decidable ('\n' ∉ text.toList))

theorem oneLine_append {first second : String} :
    OneLine (first ++ second) ↔ OneLine first ∧ OneLine second := by
  simp [OneLine]

theorem oneLine_toString (n : Nat) : OneLine (toString n) := by
  intro feed
  rw [Nat.toString_eq_ofList_toDigits, String.toList_ofList] at feed
  cases (Json.numeral_toDigits n).all '\n' feed

theorem oneLine_encode (bytes : Bytes) : OneLine (Hex.encode bytes) := by
  intro feed
  obtain ⟨value, below, same⟩ := Hex.digit_of_mem_encode feed
  have digits : ∀ value < 16, Hex.digit value ≠ '\n' := by decide
  exact digits value below same.symm

theorem oneLine_name (set : ParameterSet) : OneLine set.name := by
  cases set <;> decide

theorem linesOf_line {line : String} (alone : OneLine line) (rest : String) :
    linesOf (line ++ "\n" ++ rest) = line :: linesOf rest := by
  have split := List.splitOn_append_cons_of_beq line.toList rest.toList (beq_self_eq_true '\n')
  rw [List.splitOn_eq_singleton alone] at split
  simp [linesOf, split]

theorem linesOf_join {lines : List String} (alone : ∀ line ∈ lines, OneLine line) :
    linesOf (String.join (lines.map (· ++ "\n"))) = lines ++ [""] := by
  induction lines with
  | nil => rfl
  | cons line rest ih =>
    rw [List.map_cons, String.join_cons, linesOf_line (alone line (by simp)),
      ih fun other inside => alone other (by simp [inside]), List.cons_append]

structure Summary where
  params : Parameters
  total : Nat
  flat : String
  rows : List String

namespace Summary

def headLines (summary : Summary) (set : Option ParameterSet) : List String :=
  ["", "WOTS+ Public Key:", "================="] ++
    (set.map fun set => "Parameter Set: " ++ set.name).toList ++
    ["Chains: " ++ toString summary.params.chainCount,
      "Digest Size: " ++ toString summary.params.digestSize ++ " bytes",
      "Total Size: " ++ toString summary.total ++ " bytes",
      "Flat: " ++ summary.flat]

def RowLine (index : Nat) (digits line : String) : Prop :=
  ∃ blanks : Nat, line =
    "  [" ++ String.ofList (List.replicate blanks ' ') ++ toString index ++ "] " ++ digits

/-- A text consists of the lines of a summary, with those of its chains behind all others. -/
def Printed (summary : Summary) (set : Option ParameterSet) (text : String) : Prop :=
  ∃ lines : List String, linesOf text = summary.headLines set ++ lines ++ [""] ∧
    ∀ index : Nat, Option.Rel (RowLine index) summary.rows[index]? lines[index]?

/-- A summary is true of a key. What it says is enough to make the key. -/
structure Describes (summary : Summary) (key : PublicKey) (withChains : Bool) : Prop where
  params : summary.params = key.parameters
  bytes : ∃ bytes, Hex.decode (summary.flat.toList.flatMap String.utf8EncodeChar) = .ok bytes ∧
    PublicKey.Makes (.ok (PublicKey.fromFlat summary.params bytes)) key ∧
    bytes.length = summary.total
  count : summary.rows.length = if withChains then summary.params.chainCount.toNat else 0
  joined : withChains = true → String.join summary.rows = summary.flat

def ofKey (key : PublicKey) (withChains : Bool) : Summary where
  params := key.parameters
  total := key.bytes.length
  flat := Hex.encode key.bytes
  rows := if withChains then key.blocks.map Hex.encode else []

theorem join_encode (chains : List Bytes) :
    String.join (chains.map Hex.encode) = Hex.encode chains.flatten := by
  induction chains with
  | nil => rfl
  | cons chain rest ih =>
    rw [List.map_cons, String.join_cons, ih]
    simp [Hex.encode]

theorem ofKey_describes {key : PublicKey} (valid : key.Valid) (withChains : Bool) :
    (ofKey key withChains).Describes key withChains where
  params := rfl
  bytes := ⟨key.bytes, Hex.decode_encode key.bytes, PublicKey.fromFlat_bytes valid, rfl⟩
  count := by
    cases withChains with
    | false => rfl
    | true => simp [ofKey, PublicKey.parameters]
  joined := by
    rintro rfl
    have joined := join_encode key.blocks
    rwa [valid.flatten_blocks] at joined

def rowLine (index : Nat) (chain : Bytes) : String :=
  "  [" ++ padIndex index ++ "] " ++ Hex.encode chain

theorem rowLine_shows (index : Nat) (chain : Bytes) :
    RowLine index (Hex.encode chain) (rowLine index chain) := by
  refine ⟨3 - (Nat.toDigits 10 index).length, ?_⟩
  simp [rowLine, padIndex, ← String.toList_inj]

theorem oneLine_rowLine (index : Nat) (chain : Bytes) : OneLine (rowLine index chain) := by
  obtain ⟨blanks, same⟩ := rowLine_shows index chain
  have space : OneLine (String.ofList (List.replicate blanks ' ')) := by
    simp [OneLine]
  simp only [same, oneLine_append]
  exact ⟨⟨⟨⟨by decide, space⟩, oneLine_toString index⟩, by decide⟩, oneLine_encode chain⟩

theorem oneLine_headLines (key : PublicKey) (withChains : Bool) (set : Option ParameterSet) :
    ∀ line ∈ (ofKey key withChains).headLines set, OneLine line := by
  have size (n : UInt64) : OneLine (toString n) := oneLine_toString n.toNat
  have named : ∀ line ∈ (set.map fun set => "Parameter Set: " ++ set.name).toList,
      OneLine line := by
    cases set with
    | none => simp
    | some set =>
      simp only [Option.map_some, Option.toList_some, List.mem_singleton, forall_eq, oneLine_append]
      exact ⟨by decide, oneLine_name set⟩
  simp only [headLines, ofKey, List.forall_mem_append, List.forall_mem_cons, oneLine_append]
  exact ⟨⟨⟨by decide, by decide, by decide, by simp⟩, named⟩, ⟨by decide, size _⟩,
    ⟨⟨by decide, size _⟩, by decide⟩, ⟨⟨by decide, oneLine_toString _⟩, by decide⟩,
    ⟨by decide, oneLine_encode _⟩, by simp⟩

def rowLines (key : PublicKey) (withChains : Bool) : List String :=
  if withChains then key.blocks.mapIdx rowLine else []

theorem oneLine_rowLines (key : PublicKey) (withChains : Bool) :
    ∀ line ∈ rowLines key withChains, OneLine line := by
  cases withChains with
  | false => simp [rowLines]
  | true =>
    intro line inside
    obtain ⟨index, below, rfl⟩ := List.mem_mapIdx.mp inside
    exact oneLine_rowLine index _

theorem rows_shown (key : PublicKey) (withChains : Bool) (index : Nat) :
    Option.Rel (RowLine index) (ofKey key withChains).rows[index]?
      (rowLines key withChains)[index]? := by
  cases withChains with
  | false => exact .none
  | true =>
    simp only [ofKey, rowLines, if_true, List.getElem?_map, List.getElem?_mapIdx]
    cases key.blocks[index]? with
    | none => exact .none
    | some chain => exact .some (rowLine_shows index chain)

theorem join_headLines (key : PublicKey) (withChains : Bool) (set : Option ParameterSet) :
    String.join (((ofKey key withChains).headLines set).map (· ++ "\n")) =
      "\nWOTS+ Public Key:\n=================\n" ++
        set.elim "" (fun set => "Parameter Set: " ++ set.name ++ "\n") ++
        "Chains: " ++ toString key.chainCount ++ "\n" ++
        "Digest Size: " ++ toString key.digestSize ++ " bytes\n" ++
        "Total Size: " ++ toString key.bytes.length ++ " bytes\n" ++
        "Flat: " ++ Hex.encode key.bytes ++ "\n" := by
  have title (rest : String) : "\nWOTS+ Public Key:\n=================\n" ++ rest =
      "\n" ++ ("WOTS+ Public Key:" ++ ("\n" ++ ("=================" ++ ("\n" ++ rest)))) := by
    simp only [← String.append_assoc]
    rfl
  have bytes (rest : String) : " bytes\n" ++ rest = " bytes" ++ ("\n" ++ rest) := by
    simp only [← String.append_assoc]
    rfl
  cases set <;>
    simp only [headLines, ofKey, PublicKey.parameters, Option.map_none, Option.map_some,
      Option.toList_none, Option.toList_some, List.cons_append, List.nil_append, List.map_cons,
      List.map_nil, String.join_cons, String.join_nil, Option.elim_none, Option.elim_some,
      String.append_assoc, String.empty_append, String.append_empty, title, bytes]

theorem summary_of_valid {key : PublicKey} (valid : key.Valid) (set : Option ParameterSet)
    (withChains : Bool) : ∃ text, summary key set withChains = .ok text ∧
      (ofKey key withChains).Printed set text := by
  have head := join_headLines key withChains set
  have lines : linesOf (String.join (((ofKey key withChains).headLines set ++
      rowLines key withChains).map (· ++ "\n"))) = _ :=
    linesOf_join (List.forall_mem_append.mpr
      ⟨oneLine_headLines key withChains set, oneLine_rowLines key withChains⟩)
  refine ⟨_, ?_, _, lines, rows_shown key withChains⟩
  rw [List.map_append, String.join_append, head]
  cases withChains with
  | false =>
    rw [rowLines, if_neg (by decide), List.map_nil, String.join_nil, String.append_empty]
    rfl
  | true =>
    have rows : (key.blocks.mapIdx rowLine).map (· ++ "\n") = key.blocks.mapIdx chainLine := by
      rw [List.mapIdx_eq_zipIdx_map, List.mapIdx_eq_zipIdx_map, List.map_map]
      rfl
    rw [rowLines, if_pos rfl, rows]
    simp only [summary, valid.window_all, if_true]
    rfl

end Summary

end Winternitz.CommandLine
