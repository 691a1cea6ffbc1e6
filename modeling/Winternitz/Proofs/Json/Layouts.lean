import Mathlib.Data.List.Forall2
import Winternitz.Proofs.Json.Members
import Winternitz.Proofs.Json.Scanning

set_option autoImplicit false

namespace Winternitz.Json

theorem exists_blank (text : List Char) :
    ∃ blanks, Blank blanks ∧ text = blanks ++ dropBlank text := by
  refine ⟨text.takeWhile isBlank, fun c member => ?_, List.takeWhile_append_dropWhile.symm⟩
  exact (isBlank_iff c).mp (List.all_eq_true.mp List.all_takeWhile c member)

theorem blank_of_dropBlank {text : List Char} (nothing : dropBlank text = []) : Blank text := by
  obtain ⟨blanks, blank, split⟩ := exists_blank text
  rw [nothing, List.append_nil] at split
  exact split ▸ blank

theorem blank_append {before after : List Char} (first : Blank before) (second : Blank after) :
    Blank (before ++ after) :=
  List.forall_mem_append.mpr ⟨first, second⟩

theorem ends_of_blank {blanks : List Char} (blank : Blank blanks) : Ends blanks := by
  have ends := ends_append blank (show Ends [] from trivial)
  rwa [List.append_nil] at ends

theorem exists_blank_of_start {text rest : List Char} {c : Char}
    (start : dropBlank text = c :: rest) : ∃ blanks, Blank blanks ∧ text = blanks ++ c :: rest :=
  start ▸ exists_blank text

theorem exists_blank_of_readColon {text rest : List Char} (read : readColon text = .ok rest) :
    ∃ blanks, Blank blanks ∧ text = blanks ++ ':' :: rest := by
  unfold readColon at read
  split at read
  next => cases read
  next c tail start =>
    split at read
    next colon =>
      cases read
      exact colon ▸ exists_blank_of_start start
    next => cases read

section Layout

variable {ι κ : Type} {spells : ι → List Char → Prop}

inductive Behind (spells : ι → List Char → Prop) : Bool → List ι → List Char → Prop
  | none {start : Bool} {blanks : List Char} : Blank blanks → Behind spells start [] blanks
  | items {start : Bool} {items : List ι} {lead text : List Char} : Lead start lead →
      Items spells items text → Behind spells start items (lead ++ text)

theorem Behind.cons {start : Bool} {item : ι} {items : List ι} {lead before text tail : List Char}
    (leads : Lead start lead) (blank : Blank before) (spelled : spells item text)
    (behind : Behind spells false items tail) :
    Behind spells start (item :: items) (lead ++ (before ++ (text ++ tail))) := by
  cases behind with
  | none blankAfter => exact .items leads (.one blank spelled blankAfter)
  | items comma laid =>
    cases comma with
    | comma blankAfter =>
      have more := Items.more blank spelled blankAfter laid
      simpa using Behind.items leads more

theorem Behind.enclosed {first last : Char} {items : List ι} {text : List Char}
    (behind : Behind spells true items text) :
    Enclosed spells first last items (first :: (text ++ [last])) := by
  cases behind with
  | none blank => exact .empty blank
  | items lead laid =>
    cases lead with
    | start => exact .items laid

theorem Items.convert {other : κ → List Char → Prop} {R : ι → κ → Prop}
    (each : ∀ item text, spells item text → ∃ found, R item found ∧ other found text)
    {items : List ι} {text : List Char} (laid : Items spells items text) :
    ∃ found, List.Forall₂ R items found ∧ Items other found text := by
  induction laid with
  | one blank spelled blankAfter =>
    obtain ⟨found, related, shown⟩ := each _ _ spelled
    exact ⟨[found], .cons related .nil, .one blank shown blankAfter⟩
  | more blank spelled blankAfter _ ih =>
    obtain ⟨found, related, shown⟩ := each _ _ spelled
    obtain ⟨others, all, laid⟩ := ih
    exact ⟨found :: others, .cons related all, .more blank shown blankAfter laid⟩

theorem Enclosed.convert {other : κ → List Char → Prop} {R : ι → κ → Prop}
    (each : ∀ item text, spells item text → ∃ found, R item found ∧ other found text)
    {first last : Char} {items : List ι} {text : List Char}
    (enclosed : Enclosed spells first last items text) :
    ∃ found, List.Forall₂ R items found ∧ Enclosed other first last found text := by
  cases enclosed with
  | empty blank => exact ⟨[], .nil, .empty blank⟩
  | items laid =>
    obtain ⟨found, all, laid⟩ := laid.convert each
    exact ⟨found, all, .items laid⟩

theorem Items.relate {other : κ → List Char → Prop} {R : κ → ι → Prop}
    (each : ∀ found item text, R found item → spells item text → other found text)
    {items : List ι} {text : List Char} (laid : Items spells items text) {found : List κ}
    (all : List.Forall₂ R found items) : Items other found text := by
  induction laid generalizing found with
  | one blank spelled blankAfter =>
    obtain _ | ⟨related, ⟨⟩⟩ := all
    exact .one blank (each _ _ _ related spelled) blankAfter
  | more blank spelled blankAfter _ ih =>
    obtain _ | ⟨related, all⟩ := all
    exact .more blank (each _ _ _ related spelled) blankAfter (ih all)

theorem Enclosed.relate {other : κ → List Char → Prop} {R : κ → ι → Prop}
    (each : ∀ found item text, R found item → spells item text → other found text)
    {first last : Char} {items : List ι} {text : List Char}
    (enclosed : Enclosed spells first last items text) {found : List κ}
    (all : List.Forall₂ R found items) : Enclosed other first last found text := by
  cases enclosed with
  | empty blank =>
    obtain ⟨⟩ := all
    exact .empty blank
  | items laid => exact .items (laid.relate each all)

theorem forall_of_related {P : κ → Prop} {items : List ι} {found : List κ}
    (all : List.Forall₂ (fun _ item => P item) items found) : ∀ item ∈ found, P item := by
  induction all with
  | nil => simp
  | cons known _ ih => exact List.forall_mem_cons.mpr ⟨known, ih⟩

end Layout

end Winternitz.Json
