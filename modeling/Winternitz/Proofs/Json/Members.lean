import Winternitz.Proofs.Json.Skipping

set_option autoImplicit false

namespace Winternitz.Json

variable {α β : Type}

inductive TakesMember (field : Field α) : List Char → α → Prop
  | member {blanks key colon between text : List Char} {value : α} : Blank blanks →
      Spells field.name.toList key → Blank colon → Blank between →
      field.reader.Takes text value →
      TakesMember field
        (blanks ++ '"' :: (key ++ '"' :: (colon ++ ':' :: (between ++ text)))) value

inductive PassesMember (record : Record α β) : List Char → Prop
  | member {name : String} {blanks key colon between text : List Char} : Blank blanks →
      Spells name.toList key → name ≠ record.first.name → name ≠ record.second.name →
      Blank colon → Blank between → ValueText text →
      PassesMember record
        (blanks ++ '"' :: (key ++ '"' :: (colon ++ ':' :: (between ++ text))))

inductive Lead : Bool → List Char → Prop
  | start : Lead true []
  | comma {blanks : List Char} : Blank blanks → Lead false (blanks ++ [','])

inductive TakesMembers (record : Record α β) : Bool → Option α → Option β → List Char → α × β → Prop
  | close {start : Bool} {a : Option α} {b : Option β} {blanks : List Char} {fields : α × β} :
      Blank blanks → record.fill a b = .ok fields →
      TakesMembers record start a b (blanks ++ ['\x7d']) fields
  | first {start : Bool} {b : Option β} {lead text tail : List Char} {value : α}
      {fields : α × β} : Lead start lead → TakesMember record.first text value →
      TakesMembers record false (some value) b tail fields →
      TakesMembers record start none b (lead ++ (text ++ tail)) fields
  | second {start : Bool} {a : Option α} {lead text tail : List Char} {value : β}
      {fields : α × β} : Lead start lead → TakesMember record.second text value →
      TakesMembers record false a (some value) tail fields →
      TakesMembers record start a none (lead ++ (text ++ tail)) fields
  | other {start : Bool} {a : Option α} {b : Option β} {lead text tail : List Char}
      {fields : α × β} : Lead start lead → PassesMember record text →
      TakesMembers record false a b tail fields →
      TakesMembers record start a b (lead ++ (text ++ tail)) fields

theorem nextKey_close (start : Bool) {blanks : List Char} (blank : Blank blanks)
    (rest : List Char) : nextKey start (blanks ++ '\x7d' :: rest) = .ok (none, rest) := by
  have first := dropBlank_to blank (show isBlank '\x7d' = false by decide) rest
  simp [nextKey, first]

theorem nextKey_member {start : Bool} {lead blanks key : List Char} {name : String}
    (leads : Lead start lead) (blank : Blank blanks) (spells : Spells name.toList key)
    (rest : List Char) :
    nextKey start (lead ++ (blanks ++ '"' :: (key ++ '"' :: rest))) = .ok (some name, rest) := by
  have quote := dropBlank_to blank (show isBlank '"' = false by decide) (key ++ '"' :: rest)
  have read := readString_spelled spells [] rest
  simp only [List.reverse_nil, List.nil_append, String.ofList_toList] at read
  cases leads with
  | start =>
    simp [nextKey, quote, read, bind, Except.bind, pure, Except.pure]
  | comma blankLead =>
    have comma := dropBlank_to blankLead (show isBlank ',' = false by decide)
      (blanks ++ '"' :: (key ++ '"' :: rest))
    simp [nextKey, comma, quote, read, bind, Except.bind, pure, Except.pure]

theorem TakesMembers.ends {record : Record α β} {a : Option α} {b : Option β} {tail : List Char}
    {fields : α × β} (taken : TakesMembers record false a b tail fields) (rest : List Char) :
    Ends (tail ++ rest) := by
  cases taken with
  | close blank _ =>
    rw [List.append_assoc]
    exact ends_append blank (ends_closer .object rest)
  | first lead _ _ | second lead _ _ | other lead _ _ =>
    cases lead with
    | comma blank =>
      rw [List.append_assoc, List.append_assoc]
      exact ends_append blank (ends_comma _)

theorem readMember_taken {field : Field α} {colon between text rest : List Char} {value : α}
    (blankColon : Blank colon) (blankBetween : Blank between)
    (takes : field.reader.Takes text value) (ends : Ends rest) :
    field.readMember (colon ++ ':' :: (between ++ (text ++ rest))) = .ok (value, rest) := by
  simp only [Field.readMember, readColon_blank blankColon, bind, Except.bind]
  exact takes.run blankBetween ends

namespace Record

-- The loop without the facts that its termination rests on.
theorem readMembers_eq (record : Record α β) (start : Bool) (a : Option α) (b : Option β)
    (text : List Char) :
    record.readMembers start a b text = (do
      let (found, rest) ← nextKey start text
      match found with
      | none =>
        match record.fill a b with
        | .ok fields => .ok (fields, rest)
        | .error position => .error (.here (.missingField (record.nameAt position)) rest)
      | some name =>
        if name = record.first.name then
          if a.isSome then .error (.here (.duplicateField name) (closeObject rest))
          else do
            let (value, after) ← record.first.readMember rest
            record.readMembers false (some value) b after
        else if name = record.second.name then
          if b.isSome then .error (.here (.duplicateField name) (closeObject rest))
          else do
            let (value, after) ← record.second.readMember rest
            record.readMembers false a (some value) after
        else do
          let valueStart ← readColon rest
          let after ← skipValue valueStart
          record.readMembers false a b after) := by
  fun_cases readMembers record start a b text <;> simp_all [bind, Except.bind]

theorem readMembers_close {record : Record α β} {start : Bool} {a : Option α} {b : Option β}
    {text rest : List Char} {fields : α × β} (turn : nextKey start text = .ok (none, rest))
    (full : record.fill a b = .ok fields) :
    record.readMembers start a b text = .ok (fields, rest) := by
  rw [readMembers_eq]
  simp [turn, full, bind, Except.bind]

theorem readMembers_first {record : Record α β} {start : Bool} {b : Option β}
    {text rest after : List Char} {value : α}
    (turn : nextKey start text = .ok (some record.first.name, rest))
    (member : record.first.readMember rest = .ok (value, after)) :
    record.readMembers start none b text = record.readMembers false (some value) b after := by
  rw [readMembers_eq]
  simp [turn, member, bind, Except.bind]

theorem readMembers_second {record : Record α β} {start : Bool} {a : Option α}
    {text rest after : List Char} {value : β} (distinct : record.second.name ≠ record.first.name)
    (turn : nextKey start text = .ok (some record.second.name, rest))
    (member : record.second.readMember rest = .ok (value, after)) :
    record.readMembers start a none text = record.readMembers false a (some value) after := by
  rw [readMembers_eq]
  simp [turn, distinct, member, bind, Except.bind]

theorem readMembers_other {record : Record α β} {start : Bool} {a : Option α} {b : Option β}
    {name : String} {text rest valueStart after : List Char}
    (turn : nextKey start text = .ok (some name, rest)) (notFirst : name ≠ record.first.name)
    (notSecond : name ≠ record.second.name) (colon : readColon rest = .ok valueStart)
    (value : skipValue valueStart = .ok after) :
    record.readMembers start a b text = record.readMembers false a b after := by
  rw [readMembers_eq]
  simp [turn, notFirst, notSecond, colon, value, bind, Except.bind]

theorem readMembers_taken {record : Record α β}
    (distinct : record.second.name ≠ record.first.name) {start : Bool} {a : Option α}
    {b : Option β} {text : List Char} {fields : α × β}
    (taken : TakesMembers record start a b text fields) (rest : List Char) :
    record.readMembers start a b (text ++ rest) = .ok (fields, rest) := by
  induction taken with
  | close blank full =>
    rw [List.append_assoc, List.singleton_append,
      readMembers_close (nextKey_close _ blank rest) full]
  | first lead member tail ih =>
    obtain ⟨blank, spells, colon, between, takes⟩ := member
    have turn := nextKey_member lead blank spells
    have read := readMember_taken colon between takes (tail.ends rest)
    simp only [List.append_assoc, List.cons_append] at turn read ⊢
    rw [readMembers_first (turn _) read, ih]
  | second lead member tail ih =>
    obtain ⟨blank, spells, colon, between, takes⟩ := member
    have turn := nextKey_member lead blank spells
    have read := readMember_taken colon between takes (tail.ends rest)
    simp only [List.append_assoc, List.cons_append] at turn read ⊢
    rw [readMembers_second distinct (turn _) read, ih]
  | other lead member tail ih =>
    obtain ⟨blank, spells, notFirst, notSecond, blankColon, between, value⟩ := member
    have turn := nextKey_member lead blank spells
    have colon := readColon_blank blankColon
    have skipped := skipValue_text value between (tail.ends rest)
    simp only [List.append_assoc, List.cons_append] at turn skipped ⊢
    rw [readMembers_other (turn _) notFirst notSecond (colon _) skipped, ih]

theorem takes_object {record : Record α β} (distinct : record.second.name ≠ record.first.name)
    {text : List Char} {fields : α × β} (taken : TakesMembers record true none none text fields) :
    record.reader.Takes ('\x7b' :: text) fields := by
  refine Reader.takes_starting rfl (by decide) (by decide) rfl fun rest _ => ?_
  simpa using readMembers_taken distinct taken rest

end Record

end Winternitz.Json
