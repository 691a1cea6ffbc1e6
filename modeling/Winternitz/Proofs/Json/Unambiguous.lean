import Winternitz.Proofs.Json.Brackets

set_option autoImplicit false

namespace Winternitz.Json

theorem Spells.unique {chars others text : List Char} (first : Spells chars text)
    (second : Spells others text) : chars = others := by
  have read := readString_spelled first [] []
  rw [readString_spelled second] at read
  exact (String.ofList_injective (by simpa using read)).symm

theorem solid_unique {before after rest left : List Char} {c d : Char}
    (same : before ++ c :: rest = after ++ d :: left) (blank : Blank before)
    (blankAfter : Blank after) (solid : isBlank c = false) (solidAfter : isBlank d = false) :
    c = d ∧ rest = left := by
  have start := dropBlank_to blank solid rest
  rw [same, dropBlank_to blankAfter solidAfter, List.cons.injEq] at start
  exact ⟨start.1.symm, start.2.symm⟩

theorem quoted_unique {key other rest left : List Char}
    (same : key ++ '"' :: rest = other ++ '"' :: left) (quoted : QuotedText key)
    (quotedOther : QuotedText other) : key = other ∧ rest = left := by
  have skipped := skipString_text quoted rest
  rw [same, skipString_text quotedOther, Except.ok.injEq] at skipped
  subst skipped
  exact ⟨List.append_cancel_right same, rfl⟩

def Solid (text : List Char) : Prop :=
  ∃ c tail, text = c :: tail ∧ isBlank c = false

theorem solid_of_value {value : List Char} (valued : ValueText value) : Solid value := by
  obtain ⟨c, tail, rfl, solid, -⟩ := (skipped_value valued).solid
  exact ⟨c, tail, rfl, solid⟩

theorem eq_of_rest {before after text shown rest : List Char}
    (same : before ++ (text ++ rest) = after ++ (shown ++ rest)) (blank : Blank before)
    (blankAfter : Blank after) (solid : Solid text) (solidOther : Solid shown) : text = shown := by
  rw [← List.append_assoc, ← List.append_assoc, List.append_cancel_right_eq] at same
  obtain ⟨c, tail, rfl, solid⟩ := solid
  obtain ⟨d, later, rfl, solidOther⟩ := solidOther
  obtain ⟨rfl, rfl⟩ := solid_unique same blank blankAfter solid solidOther
  rfl

theorem value_unique {before after value other rest left : List Char}
    (same : before ++ (value ++ rest) = after ++ (other ++ left)) (blank : Blank before)
    (blankAfter : Blank after) (valued : ValueText value) (valuedOther : ValueText other)
    (ends : Ends rest) (endsAfter : Ends left) : value = other ∧ rest = left := by
  have skipped := skipValue_text valued blank ends
  rw [same, skipValue_text valuedOther blankAfter endsAfter, Except.ok.injEq] at skipped
  subst skipped
  exact ⟨eq_of_rest same blank blankAfter (solid_of_value valued) (solid_of_value valuedOther), rfl⟩

def isNumeric (c : Char) : Bool :=
  c.isDigit || ['+', '-', '.', 'e', 'E'].contains c

def Stops : List Char → Prop
  | [] => True
  | c :: _ => isNumeric c = false

theorem Stops.ends {rest : List Char} (stops : Stops rest) : Ends rest := by
  cases rest with
  | nil => trivial
  | cons c rest =>
    have solid : isNumeric c = false := stops
    simp only [isNumeric, Bool.or_eq_false_iff] at solid
    refine ⟨solid.1, ?_, ?_, ?_⟩ <;> rintro rfl <;> exact absurd solid.2 (by decide)

theorem stops_append {blanks rest : List Char} (blank : Blank blanks) (stops : Stops rest) :
    Stops (blanks ++ rest) := by
  cases blanks with
  | nil => exact stops
  | cons c blanks =>
    show isNumeric c = false
    rcases blank c (by simp) with rfl | rfl | rfl | rfl <;> decide

theorem stops_of_blank {blanks : List Char} (blank : Blank blanks) : Stops blanks := by
  have stops := stops_append blank (show Stops [] from trivial)
  rwa [List.append_nil] at stops

/-- Wherever these two texts stand at one place, this holds, and the same is behind both. -/
def Decides (P : Prop) (text shown : List Char) : Prop :=
  ∀ ⦃before after rest left : List Char⦄, before ++ (text ++ rest) = after ++ (shown ++ left) →
    Blank before → Blank after → Stops rest → Stops left → P ∧ rest = left

theorem Decides.holds {P : Prop} {text : List Char} (decides : Decides P text text) : P :=
  (decides (rfl : [] ++ (text ++ []) = _) blank_nil blank_nil trivial trivial).1

theorem Decides.same {P : Prop} {text shown : List Char} (decides : Decides P text shown)
    (solid : Solid text) (solidOther : Solid shown) : Decides (text = shown) text shown := by
  intro before after rest left same blank blankAfter stops stopsAfter
  obtain ⟨-, rfl⟩ := decides same blank blankAfter stops stopsAfter
  exact ⟨eq_of_rest same blank blankAfter solid solidOther, rfl⟩

theorem value_decides {value other : List Char} (valued : ValueText value)
    (valuedOther : ValueText other) : Decides (value = other) value other := by
  intro before after rest left same blank blankAfter stops stopsAfter
  exact value_unique same blank blankAfter valued valuedOther stops.ends stopsAfter.ends

theorem member_decides {member other : Member} {text shown : List Char}
    (quoted : QuotedText member.1) (quotedOther : QuotedText other.1)
    (values : Decides (member.2 = other.2) member.2 other.2)
    (spelled : MemberText member.1 member.2 text)
    (spelledOther : MemberText other.1 other.2 shown) : Decides (member = other) text shown := by
  intro before after rest left same blank blankAfter stops stopsAfter
  obtain ⟨blankColon, blankValue⟩ := spelled
  obtain ⟨blankOther, blankShown⟩ := spelledOther
  simp only [List.append_assoc, List.cons_append] at same
  obtain ⟨-, same⟩ := solid_unique same blank blankAfter (by decide) (by decide)
  obtain ⟨keys, same⟩ := quoted_unique same quoted quotedOther
  obtain ⟨-, same⟩ := solid_unique same blankColon blankOther (by decide) (by decide)
  obtain ⟨value, same⟩ := values same blankValue blankShown stops stopsAfter
  exact ⟨Prod.ext keys value, same⟩

section Layout

variable {ι κ : Type} {spells : ι → List Char → Prop} {other : κ → List Char → Prop}
  {R : ι → κ → Prop} {items : List ι} {others : List κ} {first last : Char}
  {text shown : List Char}

-- What closes items is no part of a number, and stands neither between items nor before one.
structure Closer (last : Char) : Prop where
  solid : isBlank last = false
  notNumeric : isNumeric last = false
  notComma : last ≠ ','

def Starts (last : Char) (text : List Char) : Prop :=
  ∃ c tail, text = c :: tail ∧ isBlank c = false ∧ c ≠ last

theorem Items.decides (closer : Closer last)
    (each : ∀ item text found shown, spells item text → other found shown →
      Decides (R item found) text shown)
    (laid : Items spells items text) (laidOther : Items other others shown)
    {rest left : List Char} (same : text ++ last :: rest = shown ++ last :: left) :
    List.Forall₂ R items others ∧ rest = left := by
  have stops {blanks : List Char} (blank : Blank blanks) (rest : List Char) :
      Stops (blanks ++ last :: rest) :=
    stops_append blank closer.notNumeric
  have stopsComma {blanks : List Char} (blank : Blank blanks) (rest : List Char) :
      Stops (blanks ++ ',' :: rest) :=
    stops_append blank (by decide : isNumeric ',' = false)
  induction laid generalizing others shown with
  | one blank spelled blankAfter =>
    cases laidOther with
    | one blankOther spelledOther blankLast =>
      simp only [List.append_assoc] at same
      obtain ⟨related, same⟩ := each _ _ _ _ spelled spelledOther same blank blankOther
        (stops blankAfter rest) (stops blankLast left)
      obtain ⟨-, same⟩ := solid_unique same blankAfter blankLast closer.solid closer.solid
      exact ⟨.cons related .nil, same⟩
    | more blankOther spelledOther blankComma _ =>
      simp only [List.append_assoc, List.cons_append] at same
      obtain ⟨-, same⟩ := each _ _ _ _ spelled spelledOther same blank blankOther
        (stops blankAfter rest) (stopsComma blankComma _)
      obtain ⟨comma, -⟩ := solid_unique same blankAfter blankComma closer.solid (by decide)
      exact absurd comma closer.notComma
  | more blank spelled blankAfter laid ih =>
    cases laidOther with
    | one blankOther spelledOther blankLast =>
      simp only [List.append_assoc, List.cons_append] at same
      obtain ⟨-, same⟩ := each _ _ _ _ spelled spelledOther same blank blankOther
        (stopsComma blankAfter _) (stops blankLast left)
      obtain ⟨comma, -⟩ := solid_unique same blankAfter blankLast (by decide) closer.solid
      exact absurd comma.symm closer.notComma
    | more blankOther spelledOther blankComma laidOther =>
      simp only [List.append_assoc, List.cons_append] at same
      obtain ⟨related, same⟩ := each _ _ _ _ spelled spelledOther same blank blankOther
        (stopsComma blankAfter _) (stopsComma blankComma _)
      obtain ⟨-, same⟩ := solid_unique same blankAfter blankComma (by decide) (by decide)
      obtain ⟨all, same⟩ := ih laidOther same
      exact ⟨.cons related all, same⟩

theorem Items.not_closed (closer : Closer last)
    (starts : ∀ item text, spells item text → Starts last text) (laid : Items spells items text)
    {blanks rest left : List Char} (blank : Blank blanks) :
    blanks ++ last :: rest ≠ text ++ left := by
  obtain ⟨item, -, before, shown, tail, blankBefore, spelled, rfl⟩ := laid.start
  obtain ⟨c, later, rfl, solid, notLast⟩ := starts item shown spelled
  intro same
  simp only [List.append_assoc, List.cons_append] at same
  exact notLast (solid_unique same blank blankBefore closer.solid solid).1.symm

theorem Enclosed.body (laid : Enclosed spells first last items text) :
    ∃ body, text = first :: (body ++ [last]) ∧
      (items = [] ∧ Blank body ∨ Items spells items body) := by
  cases laid with
  | empty blank => exact ⟨_, rfl, .inl ⟨rfl, blank⟩⟩
  | items laid => exact ⟨_, rfl, .inr laid⟩

theorem Enclosed.decides (solid : isBlank first = false) (closer : Closer last)
    (starts : ∀ item text, spells item text → Starts last text)
    (startsOther : ∀ item text, other item text → Starts last text)
    (each : ∀ item text found shown, spells item text → other found shown →
      Decides (R item found) text shown)
    (laid : Enclosed spells first last items text)
    (laidOther : Enclosed other first last others shown) :
    Decides (List.Forall₂ R items others) text shown := by
  intro before after rest left same blank blankAfter _ _
  obtain ⟨body, rfl, inside⟩ := laid.body
  obtain ⟨bodyOther, rfl, insideOther⟩ := laidOther.body
  simp only [List.cons_append, List.append_assoc, List.nil_append] at same
  obtain ⟨-, same⟩ := solid_unique same blank blankAfter solid solid
  rcases inside with ⟨rfl, blankBody⟩ | laid
  · rcases insideOther with ⟨rfl, blankOther⟩ | laidOther
    · obtain ⟨-, same⟩ := solid_unique same blankBody blankOther closer.solid closer.solid
      exact ⟨.nil, same⟩
    · exact absurd same (laidOther.not_closed closer startsOther blankBody)
  · rcases insideOther with ⟨rfl, blankOther⟩ | laidOther
    · exact absurd same.symm (laid.not_closed closer starts blankOther)
    · exact laid.decides closer each laidOther same

end Layout

theorem closer_list : Closer ']' := ⟨by decide, by decide, by decide⟩

theorem closer_object : Closer '\x7d' := ⟨by decide, by decide, by decide⟩

theorem starts_of_value {value : List Char} (valued : ValueText value) :
    Starts ']' value ∧ Starts '\x7d' value := by
  obtain ⟨c, tail, rfl, solid, notList, notObject⟩ := (skipped_value valued).solid
  exact ⟨⟨c, tail, rfl, solid, notList⟩, ⟨c, tail, rfl, solid, notObject⟩⟩

theorem starts_of_member {key value text : List Char} (spelled : MemberText key value text) :
    Starts '\x7d' text := by
  obtain ⟨-, -⟩ := spelled
  exact ⟨'"', _, rfl, by decide, by decide⟩

theorem object_unique {members others : List Member} {text shown : List Char}
    (object : ObjectText members text) (other : ObjectText others shown) (same : text = shown) :
    members = others := by
  subst same
  have decides := Enclosed.decides (by decide) closer_object
    (fun _ _ member => starts_of_member member.spelled)
    (fun _ _ member => starts_of_member member.spelled)
    (fun _ _ _ _ member other => member_decides member.key other.key
      (value_decides member.value other.value) member.spelled other.spelled) object other
  rw [List.forall₂_eq_eq_eq] at decides
  exact decides.holds

end Winternitz.Json
