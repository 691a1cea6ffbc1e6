import Winternitz.Proofs.Json.Brackets

set_option autoImplicit false

namespace Winternitz.Json

theorem value_of_skipScalar {text rest : List Char} (skipped : skipScalar text = .ok rest) :
    ∃ used, text = used ++ rest ∧ ValueText used := by
  cases text with
  | nil => cases skipped
  | cons c tail =>
    simp only [skipScalar] at skipped
    split_ifs at skipped with quote isNull isTrue isFalse minus digit
    next =>
      obtain ⟨used, rfl, quoted⟩ := quoted_of_skipString skipped
      exact ⟨'"' :: (used ++ ['"']), by simp [quote], .string quoted⟩
    next =>
      rw [isNull, eq_append_of_readWord skipped]
      exact ⟨['n', 'u', 'l', 'l'], rfl, .null⟩
    next =>
      rw [isTrue, eq_append_of_readWord skipped]
      exact ⟨['t', 'r', 'u', 'e'], rfl, .true⟩
    next =>
      rw [isFalse, eq_append_of_readWord skipped]
      exact ⟨['f', 'a', 'l', 's', 'e'], rfl, .false⟩
    next =>
      obtain ⟨used, rfl, unsigned⟩ := unsigned_of_skipNumber skipped
      exact ⟨'-' :: used, by simp [minus], .number (.negative unsigned)⟩
    next =>
      obtain ⟨used, split, unsigned⟩ := unsigned_of_skipNumber skipped
      exact ⟨used, split, .number (.unsigned unsigned)⟩

inductive ItemText : Bracket → List Char → Prop
  | value {text : List Char} : ValueText text → ItemText .list text
  | member {member : Member} {text : List Char} : member.Text text → ItemText .object text

theorem value_of_enclosed {bracket : Bracket} {c : Char} (opens : openedBracket? c = some bracket)
    {count : List Unit} {text : List Char}
    (enclosed : Enclosed (fun _ => ItemText bracket) c bracket.closer count text) :
    ValueText text := by
  unfold openedBracket? at opens
  split at opens
  next =>
    cases opens
    have valued (_ : Unit) (text : List Char) (shown : ItemText .list text) : ValueText text := by
      cases shown with
      | value value => exact value
    exact (brackets_of_listText valued enclosed).value
  next =>
    cases opens
    have each (_ : Unit) (text : List Char) (shown : ItemText .object text) :
        ∃ member : Member, True ∧ member.Text text := by
      cases shown with
      | member member => exact ⟨_, trivial, member⟩
    obtain ⟨members, -, object⟩ := enclosed.convert each
    exact (BracketText.object object).value
  next => cases opens

/-- What is left to be passed over at a stage before the open brackets are closed. -/
inductive StageText : Stage → List Char → Prop
  | more : StageText .more []
  | item (bracket : Bracket) {blanks text : List Char} : Blank blanks → ItemText bracket text →
      StageText bracket.item (blanks ++ text)

theorem stageText_more {text : List Char} (shown : StageText .more text) : text = [] := by
  generalize same : Stage.more = stage at shown
  cases shown with
  | more => rfl
  | item bracket => cases bracket <;> cases same

theorem stageText_item (bracket : Bracket) {text : List Char}
    (shown : StageText bracket.item text) :
    ∃ blanks item, Blank blanks ∧ ItemText bracket item ∧ text = blanks ++ item := by
  generalize same : bracket.item = stage at shown
  cases shown with
  | more => cases bracket <;> cases same
  | item other blank item =>
    have found : bracket = other := by cases bracket <;> cases other <;> first | rfl | cases same
    exact ⟨_, _, blank, found ▸ item, rfl⟩

/-- What the open brackets demand of the text behind an item, the innermost first. -/
inductive Closes : List Bracket → List Char → Prop
  | none : Closes [] []
  | close {bracket : Bracket} {outer : List Bracket} {count : List Unit} {inner rest : List Char} :
      Behind (fun _ => ItemText bracket) false count inner → Closes outer rest →
      Closes (bracket :: outer) (inner ++ bracket.closer :: rest)

theorem closes_of_skip {stage : Stage} {opened : List Bracket} {text rest : List Char}
    (done : skip stage opened text = .ok rest) :
    ∃ used tail, text = used ++ (tail ++ rest) ∧ StageText stage used ∧ Closes opened tail := by
  -- An item goes in front of those its bracket still demands, a closed bracket becomes an item.
  fun_induction skip stage opened text with
  | case1 =>
    cases done
    exact ⟨[], [], rfl, .more, .none⟩
  | case2 | case5 | case6 | case7 | case8 | case10 | case11 | case12 | case14 => cases done
  | case3 text bracket outer after start ih =>
    obtain ⟨used, tail, rfl, stage, closes⟩ := ih done
    obtain ⟨blanks, blank, rfl⟩ := exists_blank_of_start start
    obtain ⟨before, item, blankBefore, shown, rfl⟩ := stageText_item bracket stage
    cases closes with
    | @close _ _ _ inner rest behind outside =>
      have more : Behind (fun _ : Unit => ItemText bracket) false (() :: _) _ :=
        Behind.cons (.comma blank) blankBefore shown behind
      exact ⟨[], _, by simp, .more, .close more outside⟩
  | case4 text bracket outer after start notComma ih =>
    obtain ⟨used, tail, rfl, stage, closes⟩ := ih done
    obtain ⟨blanks, blank, rfl⟩ := exists_blank_of_start start
    obtain rfl := stageText_more stage
    exact ⟨[], _, by simp, .more, .close (.none blank) closes⟩
  | case9 text opened after afterKey key afterColon colon start ih =>
    obtain ⟨used, tail, rfl, stage, closes⟩ := ih done
    obtain ⟨blanks, blank, rfl⟩ := exists_blank_of_start start
    obtain ⟨name, rfl, quoted⟩ := quoted_of_skipString key
    obtain ⟨before, blankBefore, rfl⟩ := exists_blank_of_readColon colon
    obtain ⟨between, value, blankBetween, ⟨shown⟩, rfl⟩ := stageText_item .list stage
    have member : Member.Text (name, value) _ :=
      ⟨quoted, shown, .colon blankBefore blankBetween⟩
    exact ⟨_, tail, by simp, .item .object blank (.member member), closes⟩
  | case13 text opened c after start _ afterScalar scalar ih =>
    obtain ⟨used, tail, rfl, stage, closes⟩ := ih done
    obtain ⟨blanks, blank, rfl⟩ := exists_blank_of_start start
    obtain rfl := stageText_more stage
    obtain ⟨value, split, shown⟩ := value_of_skipScalar scalar
    rw [split]
    exact ⟨_, tail, by simp, .item .list blank (.value shown), closes⟩
  | case15 text opened c tail start bracket opens after next ih =>
    obtain ⟨used, outside, rfl, stage, closes⟩ := ih done
    obtain ⟨blanks, blank, rfl⟩ := exists_blank_of_start start
    obtain ⟨between, blankBetween, rfl⟩ := exists_blank_of_start next
    obtain rfl := stageText_more stage
    have shown := value_of_enclosed opens (.empty blankBetween)
    exact ⟨_, outside, by simp, .item .list blank (.value shown), closes⟩
  | case16 text opened c tail start bracket opens d after next notClose ih =>
    obtain ⟨used, outside, rfl, stage, closes⟩ := ih done
    obtain ⟨blanks, blank, rfl⟩ := exists_blank_of_start start
    obtain ⟨before, item, blankBefore, first, rfl⟩ := stageText_item bracket stage
    cases closes with
    | @close _ _ _ inner later behind closes =>
      have behind : Behind (fun _ : Unit => ItemText bracket) true (() :: _) _ :=
        Behind.cons .start blankBefore first behind
      have shown := value_of_enclosed opens behind.enclosed
      exact ⟨_, later, by simp, .item .list blank (.value shown), closes⟩

theorem value_of_skipValue {text rest : List Char} (skipped : skipValue text = .ok rest) :
    ∃ blanks used, text = blanks ++ (used ++ rest) ∧ Blank blanks ∧ ValueText used := by
  obtain ⟨used, tail, rfl, stage, ⟨⟩⟩ := closes_of_skip skipped
  obtain ⟨blanks, item, blank, ⟨shown⟩, rfl⟩ := stageText_item .list stage
  exact ⟨blanks, item, by simp, blank, shown⟩

end Winternitz.Json
