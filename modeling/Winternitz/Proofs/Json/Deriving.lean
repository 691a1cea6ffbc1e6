import Winternitz.Proofs.Json.Forms
import Winternitz.Proofs.Json.Nesting

set_option autoImplicit false

namespace Winternitz.Json

variable {α β : Type}

namespace Reader

/-- Whatever a reader takes in is written as `spells` says, behind blanks. -/
def Derives (reader : Reader α) (spells : α → List Char → Prop) : Prop :=
  ∀ ⦃text rest : List Char⦄ ⦃value : α⦄, reader.run text = .ok (value, rest) →
    ∃ blanks used, text = blanks ++ (used ++ rest) ∧ Blank blanks ∧ spells value used

theorem derives_map {reader : Reader α} {f : α → β} {spells : β → List Char → Prop}
    (derives : reader.Derives fun value => spells (f value)) : (reader.map f).Derives spells := by
  intro text rest value done
  obtain ⟨⟨found, after⟩, first, last⟩ := bind_eq_ok.1 done
  obtain ⟨rfl, rfl⟩ := pure_eq_ok.1 last
  exact derives first

theorem derives_starting {reader : Reader α} {spells : α → List Char → Prop} {expected : String}
    {starts : Char → Bool} {read : Char → List Char → Result (α × List Char)}
    (runs : reader.run = runStarting expected starts read)
    (derives : ∀ {c : Char} {tail rest : List Char} {value : α}, starts c = true →
      read c tail = .ok (value, rest) → ∃ used, c :: tail = used ++ rest ∧ spells value used) :
    reader.Derives spells := by
  intro text rest value done
  rw [runs] at done
  unfold runStarting at done
  split at done
  next => cases done
  next c tail start =>
    obtain ⟨blanks, blank, split⟩ := exists_blank_of_start start
    split at done
    next first =>
      obtain ⟨used, same, spelled⟩ := derives first done
      exact ⟨blanks, used, same ▸ split, blank, spelled⟩
    next => cases done

theorem derives_string : string.Derives StringText := by
  refine derives_starting rfl fun {c tail rest value} start done => ?_
  obtain rfl : c = '"' := by simpa using start
  obtain ⟨used, rfl, spells⟩ := string_of_readString done
  exact ⟨'"' :: (used ++ ['"']), by simp, .quoted spells⟩

theorem derives_size : size.Derives SizeText :=
  derives_starting rfl fun _ done => size_of_readSize done

theorem Derives.optional {reader : Reader α} {spells : α → List Char → Prop}
    (derives : reader.Derives spells) : reader.optional.Derives (OptionText spells) := by
  intro text rest value done
  unfold Reader.optional at done
  dsimp only at done
  split at done
  next tail start =>
    obtain ⟨blanks, blank, rfl⟩ := exists_blank_of_start start
    obtain ⟨after, word, last⟩ := bind_eq_ok.1 done
    obtain ⟨rfl, rfl⟩ := pure_eq_ok.1 last
    exact ⟨blanks, ['n', 'u', 'l', 'l'], by simp [eq_append_of_readWord word], blank, .null⟩
  next =>
    obtain ⟨⟨found, after⟩, first, last⟩ := bind_eq_ok.1 done
    obtain ⟨rfl, rfl⟩ := pure_eq_ok.1 last
    obtain ⟨blanks, used, split, blank, spelled⟩ := derives first
    exact ⟨blanks, used, split, blank, .some spelled⟩

inductive ElementTurn (first : Bool) (rest : List Char) : Bool → List Char → Prop
  | close {blanks : List Char} : Blank blanks → ElementTurn first rest false (blanks ++ ']' :: rest)
  | element {lead blanks : List Char} : Lead first lead → Blank blanks →
      ElementTurn first rest true (lead ++ (blanks ++ rest))

theorem turn_of_nextElement {first more : Bool} {text rest : List Char}
    (done : nextElement first text = .ok (more, rest)) : ElementTurn first rest more text := by
  unfold nextElement at done
  split at done
  next => cases done
  next c tail start =>
    obtain ⟨blanks, blank, rfl⟩ := exists_blank_of_start start
    split at done
    next close =>
      cases done
      exact close ▸ .close blank
    next =>
      split at done
      next isFirst =>
        cases done
        subst isFirst
        exact .element .start blank
      next notFirst =>
        rw [Bool.not_eq_true] at notFirst
        split at done
        next comma =>
          split at done
          next => cases done
          next d after next =>
            obtain ⟨between, blankBetween, rfl⟩ := exists_blank_of_start next
            split at done
            next => cases done
            next =>
              cases done
              subst notFirst comma
              simpa using ElementTurn.element (.comma blank) blankBetween
        next => cases done

theorem readElements_derives {element : Reader α} {spells : α → List Char → Prop}
    (derives : element.Derives spells) {before values : List α} {text rest : List Char}
    (done : readElements element before text = .ok (values, rest)) :
    ∃ found used, text = used ++ ']' :: rest ∧ values = before.reverse ++ found ∧
      Behind spells before.isEmpty found used := by
  fun_induction readElements element before text with
  | case1 | case3 => cases done
  | case2 before text after turn =>
    cases done
    cases turn_of_nextElement turn with
    | close blank => exact ⟨[], _, rfl, (List.append_nil _).symm, .none blank⟩
  | case4 before text start turn value after item ih =>
    obtain ⟨found, later, rfl, same, behind⟩ := ih done
    obtain ⟨between, used, rfl, blankBetween, spelled⟩ := derives item
    cases turn_of_nextElement turn with
    | element lead blank =>
      have more := Behind.cons lead (blank_append blank blankBetween) spelled behind
      exact ⟨value :: found, _, by simp, by simp [same], more⟩

theorem Derives.list {element : Reader α} {spells : α → List Char → Prop}
    (derives : element.Derives spells) : element.list.Derives (ListText spells) := by
  refine derives_starting rfl fun {c tail rest values} start done => ?_
  obtain rfl : c = '[' := by simpa using start
  obtain ⟨found, used, rfl, same, behind⟩ := readElements_derives derives done
  obtain rfl : values = found := same
  exact ⟨'[' :: (used ++ [']']), by simp, behind.enclosed⟩

end Reader

structure FieldText.Covers (form : FieldText α) (field : Field α) : Prop
    extends form.Fits field where
  derives : field.reader.Derives form.spells

theorem member_of_readMember {form : FieldText α} {field : Field α} (covers : form.Covers field)
    {text rest : List Char} {value : α} (done : field.readMember text = .ok (value, rest)) :
    ∃ before between shown, text = before ++ ':' :: (between ++ (shown ++ rest)) ∧
      Blank before ∧ Blank between ∧ form.spells value shown := by
  obtain ⟨after, colon, read⟩ := bind_eq_ok.1 done
  obtain ⟨before, blankBefore, rfl⟩ := exists_blank_of_readColon colon
  obtain ⟨between, shown, rfl, blankBetween, spelled⟩ := covers.derives read
  exact ⟨before, between, shown, rfl, blankBefore, blankBetween, spelled⟩

inductive KeyTurn (start : Bool) (rest : List Char) : Option String → List Char → Prop
  | close {blanks : List Char} : Blank blanks → KeyTurn start rest none (blanks ++ '\x7d' :: rest)
  | key {name : String} {lead blanks key : List Char} : Lead start lead → Blank blanks →
      Spells name.toList key →
      KeyTurn start rest (some name) (lead ++ (blanks ++ '"' :: (key ++ '"' :: rest)))

theorem turn_of_nextKey {start : Bool} {found : Option String} {text rest : List Char}
    (done : nextKey start text = .ok (found, rest)) : KeyTurn start rest found text := by
  have turn {lead blanks text after : List Char} {name : String}
      (string : readString [] text = .ok (name, after))
      (last : (pure (some name, after) : Result (Option String × List Char)) = .ok (found, rest))
      (leads : Lead start lead) (blank : Blank blanks) :
      KeyTurn start rest found (lead ++ (blanks ++ '"' :: text)) := by
    obtain ⟨rfl, rfl⟩ := pure_eq_ok.1 last
    obtain ⟨key, rfl, spells⟩ := string_of_readString string
    exact .key leads blank spells
  unfold nextKey at done
  split at done
  next => cases done
  next c tail first =>
    obtain ⟨blanks, blank, rfl⟩ := exists_blank_of_start first
    split at done
    next close =>
      cases done
      exact close ▸ .close blank
    next =>
      split at done
      next isFirst =>
        subst isFirst
        split at done
        next quote =>
          obtain ⟨_, string, last⟩ := bind_eq_ok.1 done
          exact quote ▸ turn string last .start blank
        next => cases done
      next notFirst =>
        rw [Bool.not_eq_true] at notFirst
        split at done
        next comma =>
          subst notFirst comma
          split at done
          next => cases done
          next d after next =>
            obtain ⟨between, blankBetween, rfl⟩ := exists_blank_of_start next
            split at done
            next => cases done
            next =>
              split at done
              next quote =>
                obtain ⟨_, string, last⟩ := bind_eq_ok.1 done
                subst quote
                simpa using turn string last (.comma blank) blankBetween
              next => cases done
        next => cases done

namespace Record

theorem of_fill {record : Record α β} {a : Option α} {b : Option β} {fields : α × β}
    (full : record.fill a b = .ok fields) :
    (a <|> record.first.fallback) = some fields.1 ∧
      (b <|> record.second.fallback) = some fields.2 := by
  unfold fill at full
  split at full
  next first second =>
    cases full
    exact ⟨first, second⟩
  next => cases full
  next => cases full

variable {record : Record α β} {f : FieldText α} {g : FieldText β}

theorem readMembers_derives (first : f.Covers record.first) (second : g.Covers record.second)
    {start : Bool} {a : Option α} {b : Option β} {text rest : List Char} {fields : α × β}
    (done : record.readMembers start a b text = .ok (fields, rest)) :
    ∃ entries used a' b', text = used ++ '\x7d' :: rest ∧
      Behind (EntryText f g) start entries used ∧
      a.toList ++ entries.filterMap Entry.first? = a'.toList ∧
      b.toList ++ entries.filterMap Entry.second? = b'.toList ∧
      record.fill a' b' = .ok fields := by
  -- What is found before the loop and what its entries add are found together at its end.
  fun_induction readMembers record start a b text with
  | case1 | case3 | case4 | case5 | case7 | case8 | case10 | case11 => cases done
  | case2 start a b text after turn found full =>
    cases done
    cases turn_of_nextKey turn with
    | close blank => exact ⟨[], _, a, b, rfl, .none blank, by simp, by simp, full⟩
  | case6 start a b text after absent value afterMember member turn ih =>
    obtain ⟨entries, used, a', b', rfl, behind, firstFound, secondFound, full⟩ := ih done
    obtain ⟨before, between, shown, rfl, blankBefore, blankBetween, spelled⟩ :=
      member_of_readMember first member
    obtain rfl : a = none := by simpa using absent
    cases turn_of_nextKey turn with
    | key lead blank spells =>
      have entry : EntryText f g (.first value) _ :=
        .first (first.name ▸ spells) spelled (.colon blankBefore blankBetween)
      have more := Behind.cons lead blank entry behind
      exact ⟨_, _, a', b', by simp, more, firstFound, secondFound, full⟩
  | case9 start a b text after absent value afterMember member turn other ih =>
    obtain ⟨entries, used, a', b', rfl, behind, firstFound, secondFound, full⟩ := ih done
    obtain ⟨before, between, shown, rfl, blankBefore, blankBetween, spelled⟩ :=
      member_of_readMember second member
    obtain rfl : b = none := by simpa using absent
    cases turn_of_nextKey turn with
    | key lead blank spells =>
      have entry : EntryText f g (.second value) _ :=
        .second (second.name ▸ spells) spelled (.colon blankBefore blankBetween)
      have more := Behind.cons lead blank entry behind
      exact ⟨_, _, a', b', by simp, more, firstFound, secondFound, full⟩
  | case12 start a b text name after turn notFirst notSecond valueStart colon afterValue value ih =>
    obtain ⟨entries, used, a', b', rfl, behind, firstFound, secondFound, full⟩ := ih done
    obtain ⟨between, shown, rfl, blankBetween, valueText⟩ := value_of_skipValue value
    obtain ⟨before, blankBefore, rfl⟩ := exists_blank_of_readColon colon
    cases turn_of_nextKey turn with
    | key lead blank spells =>
      have entry : EntryText f g .unknown _ := .unknown spells (first.name ▸ notFirst)
        (second.name ▸ notSecond) valueText (.colon blankBefore blankBetween)
      have more := Behind.cons lead blank entry behind
      exact ⟨_, _, a', b', by simp, more, firstFound, secondFound, full⟩

theorem objectText_of_readMembers (first : f.Covers record.first)
    (second : g.Covers record.second) {text rest : List Char} {fields : α × β}
    (done : record.readMembers true none none text = .ok (fields, rest)) :
    ∃ used, '\x7b' :: text = used ++ rest ∧ RecordText f g fields used := by
  obtain ⟨entries, used, a, b, rfl, behind, firstFound, secondFound, full⟩ :=
    readMembers_derives first second done
  obtain ⟨firstFull, secondFull⟩ := of_fill full
  rw [← first.absent] at firstFull
  rw [← second.absent] at secondFull
  refine ⟨'\x7b' :: (used ++ ['\x7d']), by simp, ?_⟩
  exact .object (FieldText.given_iff.mpr ⟨a, firstFound, firstFull⟩)
    (FieldText.given_iff.mpr ⟨b, secondFound, secondFull⟩) behind.enclosed

theorem close_of_closeList {text rest : List Char} (done : closeList text = .ok rest) :
    ∃ blanks, Blank blanks ∧ text = blanks ++ ']' :: rest := by
  unfold closeList at done
  split at done
  next => cases done
  next c tail start =>
    split at done
    next close =>
      cases done
      exact close ▸ exists_blank_of_start start
    next =>
      split at done
      next => split at done <;> cases done
      next => cases done

theorem fill_of_fillList {a : Option α} {text rest : List Char} {fields : α × β}
    (done : record.fillList a text = .ok (fields, rest)) : record.fill a none = .ok fields := by
  unfold fillList at done
  split at done
  next full =>
    cases done
    exact full
  next => cases done

theorem listText_of_readFields (first : f.Covers record.first) (second : g.Covers record.second)
    {text rest : List Char} {fields : α × β}
    (done : record.readFields text = .ok (fields, rest)) :
    ∃ used, '[' :: text = used ++ rest ∧ RecordText f g fields used := by
  obtain ⟨⟨more, afterTurn⟩, turn, body⟩ := bind_eq_ok.1 done
  dsimp only at turn body
  cases Reader.turn_of_nextElement turn with
  | @close blanks blank =>
    rw [Bool.not_false, if_pos rfl] at body
    obtain ⟨firstAbsent, secondAbsent⟩ := of_fill (fill_of_fillList body)
    obtain rfl := eq_of_fillList body
    exact ⟨'[' :: (blanks ++ [']']), by simp, .bare (first.absent.trans firstAbsent)
      (second.absent.trans secondAbsent) (.empty blank)⟩
  | element lead blank =>
    obtain ⟨⟨a, afterFirst⟩, readFirst, others⟩ := bind_eq_ok.1 body
    obtain ⟨before, used, rfl, blankBefore, spelled⟩ := first.derives readFirst
    have place : PlaceText f g (.first a) used := .first spelled
    obtain ⟨⟨more, afterTurn⟩, turnNext, next⟩ := bind_eq_ok.1 others
    dsimp only at turnNext next
    cases Reader.turn_of_nextElement turnNext with
    | close blankAfter =>
      rw [Bool.not_false, if_pos rfl] at next
      obtain ⟨⟨⟩, secondAbsent⟩ := of_fill (fill_of_fillList next)
      obtain rfl := eq_of_fillList next
      have behind := Behind.cons lead (blank_append blank blankBefore) place (.none blankAfter)
      exact ⟨_, by simp, .short (second.absent.trans secondAbsent) behind.enclosed⟩
    | element comma blankAfter =>
      obtain ⟨⟨b, afterSecond⟩, readSecond, last⟩ := bind_eq_ok.1 next
      obtain ⟨between, other, rfl, blankBetween, spelledOther⟩ := second.derives readSecond
      have placeOther : PlaceText f g (.second b) other := .second spelledOther
      obtain ⟨left, closed, last⟩ := bind_eq_ok.1 last
      obtain ⟨blanks, blankLast, rfl⟩ := close_of_closeList closed
      obtain ⟨rfl, rfl⟩ := pure_eq_ok.1 last
      have later := Behind.cons comma (blank_append blankAfter blankBetween) placeOther
        (.none blankLast)
      have behind := Behind.cons lead (blank_append blank blankBefore) place later
      exact ⟨_, by simp, .list behind.enclosed⟩

theorem derives_reader (first : f.Covers record.first) (second : g.Covers record.second) :
    record.reader.Derives (RecordText f g) := by
  refine Reader.derives_starting rfl fun {c tail rest fields} start done => ?_
  split at done
  next brace => exact brace ▸ objectText_of_readMembers first second done
  next notBrace =>
    obtain rfl : c = '[' := by simpa [notBrace] using start
    exact listText_of_readFields first second done

end Record

end Winternitz.Json
