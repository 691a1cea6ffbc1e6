import Winternitz.Proofs.Json.Members

set_option autoImplicit false

namespace Winternitz.Json

variable {α β : Type}

namespace Reader

theorem takes_stringText {value : String} {text : List Char} (spelled : StringText value text) :
    string.Takes text value := by
  cases spelled with
  | quoted spells => simpa using takes_string spells

theorem takes_sizeText {n : UInt64} {text : List Char} (spelled : SizeText n text) :
    size.Takes text n := by
  cases spelled with
  | decimal => exact takes_size n

theorem takes_optionText {reader : Reader α} {spells : α → List Char → Prop}
    (takes : ∀ {value text}, spells value text → reader.Takes text value)
    (notNull : ∀ {value text}, spells value text → text.head? ≠ some 'n')
    {value : Option α} {text : List Char} (spelled : OptionText spells value text) :
    reader.optional.Takes text value := by
  cases spelled with
  | null => exact takes_null reader
  | some spelled => exact takes_optional (takes spelled) (notNull spelled)

theorem takesElements_items {element : Reader α} {spells : α → List Char → Prop}
    (takes : ∀ {value text}, spells value text → element.Takes text value)
    {values : List α} {text : List Char} (laid : Items spells values text) :
    TakesElements element true (text ++ [']']) values := by
  induction laid with
  | one blank spelled blankAfter =>
    simpa using TakesElements.head blank (takes spelled) (.close blankAfter)
  | more blank spelled blankAfter laid ih =>
    obtain ⟨_, member, -⟩ := laid.start
    obtain ⟨next, later, rfl⟩ := List.exists_cons_of_ne_nil (List.ne_nil_of_mem member)
    simpa using TakesElements.head blank (takes spelled) (takesElements_comma blankAfter ih)

theorem takes_listText {element : Reader α} {spells : α → List Char → Prop}
    (takes : ∀ {value text}, spells value text → element.Takes text value)
    {values : List α} {text : List Char} (spelled : ListText spells values text) :
    element.list.Takes text values := by
  cases spelled with
  | empty blank => exact takes_list (.close blank)
  | items laid => exact takes_list (takesElements_items takes laid)

end Reader

structure FieldText.Fits (form : FieldText α) (field : Field α) : Prop where
  name : form.name = field.name
  absent : form.absent = field.fallback
  takes : ∀ {value text}, form.spells value text → field.reader.Takes text value

theorem FieldText.given_iff {form : FieldText α} {found : List α} {value : α} :
    form.Given found value ↔
      ∃ a : Option α, found = a.toList ∧ (a <|> form.absent) = some value := by
  constructor
  · intro given
    rcases given with rfl | ⟨rfl, absent⟩
    · exact ⟨some value, rfl, rfl⟩
    · exact ⟨none, rfl, absent⟩
  · rintro ⟨a, seen, full⟩
    cases a with
    | none => exact .inr ⟨seen, full⟩
    | some _ =>
      cases full
      exact .inl seen

theorem Record.fill_eq_ok {record : Record α β} {a : Option α} {b : Option β} {x : α} {y : β}
    (first : (a <|> record.first.fallback) = some x)
    (second : (b <|> record.second.fallback) = some y) : record.fill a b = .ok (x, y) := by
  simp only [fill, first, second]

theorem takesMember_text {form : FieldText α} {field : Field α} (fits : form.Fits field)
    {before key shown text : List Char} {value : α} (blank : Blank before)
    (spells : Spells form.name.toList key) (spelled : form.spells value shown)
    (member : MemberText key shown text) : TakesMember field (before ++ text) value := by
  cases member with
  | colon blankColon blankBetween =>
    rw [fits.name] at spells
    exact .member blank spells blankColon blankBetween (fits.takes spelled)

theorem toList_inj {found later : Option α} (same : found.toList = later.toList) :
    found = later := by
  cases found <;> cases later <;> simp_all

theorem filterMap_cons_toList (project : β → Option α) (entry : β) (entries : List β) :
    (entry :: entries).filterMap project =
      (project entry).toList ++ entries.filterMap project := by
  cases found : project entry <;> simp [found]

theorem toList_append_singleton {found later : Option α} {value : α}
    (same : found.toList ++ [value] = later.toList) : found = none ∧ later = some value := by
  cases found <;> cases later <;> simp_all

theorem toList_append_toList {found next : Option α} {values : List α} {last : Option α}
    (same : found.toList ++ (next.toList ++ values) = last.toList) :
    ∃ later : Option α, found.toList ++ next.toList = later.toList := by
  cases found with
  | none => exact ⟨next, rfl⟩
  | some value =>
    cases next with
    | none => exact ⟨some value, rfl⟩
    | some => cases last <;> simp at same

namespace Record

theorem takes_inOrder {record : Record α β} {text : List Char} {fields : α × β}
    (reads : ∀ rest, record.readFields (text ++ rest) = .ok (fields, rest)) :
    record.reader.Takes ('[' :: text) fields :=
  Reader.takes_starting rfl (by decide) (by decide) rfl fun rest _ => by simpa using reads rest

theorem fillList_eq_ok {record : Record α β} {a : Option α} {fields : α × β}
    (full : record.fill a none = .ok fields) (rest : List Char) :
    record.fillList a rest = .ok (fields, rest) := by
  simp only [fillList, full]

theorem readFields_none {record : Record α β} {blanks : List Char} (blank : Blank blanks)
    (rest : List Char) : record.readFields (blanks ++ ']' :: rest) = record.fillList none rest := by
  simp [readFields, Reader.nextElement_close true blank rest, bind, Except.bind]

theorem readFields_some {record : Record α β} {before text tail : List Char} {a : α}
    (blank : Blank before) (takes : record.first.reader.Takes text a) (ends : Ends tail) :
    record.readFields (before ++ (text ++ tail)) = (do
      let (more, text) ← Reader.nextElement false tail
      if !more then record.fillList (some a) text
      else
        let (b, text) ← record.second.reader.run text
        return ((a, b), ← closeList text)) := by
  obtain ⟨c, later, rfl, solid, notClose⟩ := takes.solid
  have turn := Reader.nextElement_head blank solid notClose
  have run := takes.run blank_nil ends
  simp only [List.cons_append, List.nil_append] at turn run ⊢
  simp [readFields, turn, run, bind, Except.bind]

theorem closeList_close {blanks : List Char} (blank : Blank blanks) (rest : List Char) :
    closeList (blanks ++ ']' :: rest) = .ok rest := by
  have start := dropBlank_to blank (show isBlank ']' = false by decide) rest
  simp [closeList, start]

theorem readFields_first {record : Record α β} {before text after : List Char} {a : α}
    (blank : Blank before) (takes : record.first.reader.Takes text a) (blankAfter : Blank after)
    (rest : List Char) :
    record.readFields (before ++ (text ++ (after ++ ']' :: rest))) =
      record.fillList (some a) rest := by
  have ends : Ends (after ++ ']' :: rest) := ends_append blankAfter (ends_closer .list rest)
  rw [readFields_some blank takes ends]
  simp [Reader.nextElement_close false blankAfter rest, bind, Except.bind]

theorem readFields_both {record : Record α β} {before text after between other last : List Char}
    {a : α} {b : β} (blank : Blank before) (takes : record.first.reader.Takes text a)
    (blankAfter : Blank after) (blankBetween : Blank between)
    (takesOther : record.second.reader.Takes other b) (blankLast : Blank last) (rest : List Char) :
    record.readFields
      (before ++ (text ++ (after ++ ',' :: (between ++ (other ++ (last ++ ']' :: rest)))))) =
      .ok ((a, b), rest) := by
  rw [readFields_some blank takes (ends_append blankAfter (ends_comma _))]
  obtain ⟨c, later, rfl, solid, notClose⟩ := takesOther.solid
  have turn := Reader.nextElement_next blankAfter blankBetween solid notClose
  have run := takesOther.run blank_nil (ends_append blankLast (ends_closer .list rest))
  simp only [List.cons_append, List.nil_append, Bracket.closer] at turn run ⊢
  simp [turn, run, closeList_close blankLast, bind, Except.bind, pure, Except.pure]

end Record

section RecordText

variable {record : Record α β} {f : FieldText α} {g : FieldText β}

theorem takesMembers_entry (first : f.Fits record.first) (second : g.Fits record.second)
    {entry : Entry α β} {lead before text tail : List Char} (spelled : EntryText f g entry text)
    {start : Bool} (leads : Lead start lead) (blank : Blank before) {a a' : Option α}
    {b b' : Option β} (firstFound : a.toList ++ entry.first?.toList = a'.toList)
    (secondFound : b.toList ++ entry.second?.toList = b'.toList) {fields : α × β}
    (taken : TakesMembers record false a' b' tail fields) :
    TakesMembers record start a b (lead ++ ((before ++ text) ++ tail)) fields := by
  cases spelled with
  | first spells value member =>
    obtain ⟨rfl, rfl⟩ := toList_append_singleton firstFound
    obtain rfl : b = b' := toList_inj (by simpa [Entry.second?] using secondFound)
    exact .first leads (takesMember_text first blank spells value member) taken
  | second spells value member =>
    obtain rfl : a = a' := toList_inj (by simpa [Entry.first?] using firstFound)
    obtain ⟨rfl, rfl⟩ := toList_append_singleton secondFound
    exact .second leads (takesMember_text second blank spells value member) taken
  | unknown spells notFirst notSecond value member =>
    obtain rfl : a = a' := toList_inj (by simpa [Entry.first?] using firstFound)
    obtain rfl : b = b' := toList_inj (by simpa [Entry.second?] using secondFound)
    rw [first.name] at notFirst
    rw [second.name] at notSecond
    cases member with
    | colon blankColon blankBetween =>
      have passed : PassesMember record _ :=
        .member blank spells notFirst notSecond blankColon blankBetween value
      exact .other leads passed taken

theorem takesMembers_items (first : f.Fits record.first) (second : g.Fits record.second)
    {entries : List (Entry α β)} {lead text : List Char} (laid : Items (EntryText f g) entries text)
    {start : Bool} (leads : Lead start lead) {a a' : Option α} {b b' : Option β}
    (firstFound : a.toList ++ entries.filterMap Entry.first? = a'.toList)
    (secondFound : b.toList ++ entries.filterMap Entry.second? = b'.toList) {fields : α × β}
    (full : record.fill a' b' = .ok fields) :
    TakesMembers record start a b (lead ++ (text ++ ['\x7d'])) fields := by
  induction laid generalizing lead start a b with
  | one blank spelled blankAfter =>
    rw [filterMap_cons_toList, List.filterMap_nil, List.append_nil] at firstFound secondFound
    have taken := takesMembers_entry first second spelled leads blank firstFound secondFound
      (.close blankAfter full)
    simpa using taken
  | more blank spelled blankAfter _ ih =>
    rw [filterMap_cons_toList] at firstFound secondFound
    obtain ⟨_, firstLater⟩ := toList_append_toList firstFound
    obtain ⟨_, secondLater⟩ := toList_append_toList secondFound
    rw [← List.append_assoc, firstLater] at firstFound
    rw [← List.append_assoc, secondLater] at secondFound
    have taken := takesMembers_entry first second spelled leads blank firstLater secondLater
      (ih (.comma blankAfter) firstFound secondFound)
    simpa using taken

theorem takes_objectText (distinct : record.second.name ≠ record.first.name)
    (first : f.Fits record.first) (second : g.Fits record.second) {entries : List (Entry α β)}
    {a : α} {b : β} (firstGiven : f.Given (entries.filterMap Entry.first?) a)
    (secondGiven : g.Given (entries.filterMap Entry.second?) b) {text : List Char}
    (laid : Enclosed (EntryText f g) '\x7b' '\x7d' entries text) :
    record.reader.Takes text (a, b) := by
  obtain ⟨_, firstFound, firstFull⟩ := FieldText.given_iff.mp firstGiven
  obtain ⟨_, secondFound, secondFull⟩ := FieldText.given_iff.mp secondGiven
  rw [first.absent] at firstFull
  rw [second.absent] at secondFull
  have full := Record.fill_eq_ok firstFull secondFull
  cases laid with
  | empty blank =>
    rw [List.filterMap_nil, eq_comm, Option.toList_eq_nil_iff] at firstFound secondFound
    subst firstFound secondFound
    exact Record.takes_object distinct (.close blank full)
  | items laid =>
    have taken := takesMembers_items first second laid .start (a := none) (b := none) firstFound
      secondFound full
    exact Record.takes_object distinct taken

theorem takes_recordText (distinct : record.second.name ≠ record.first.name)
    (first : f.Fits record.first) (second : g.Fits record.second) {fields : α × β}
    {text : List Char} (spelled : RecordText f g fields text) :
    record.reader.Takes text fields := by
  cases spelled with
  | object firstGiven secondGiven laid =>
    exact takes_objectText distinct first second firstGiven secondGiven laid
  | list laid =>
    obtain _ | laid := laid
    obtain _ | ⟨blank, spelled, blankAfter, laid⟩ := laid
    obtain ⟨blankBetween, other, blankLast⟩ | ⟨-, -, -, none⟩ := laid
    · obtain takes | _ := spelled
      obtain _ | takesOther := other
      refine Record.takes_inOrder fun rest => ?_
      simpa using Record.readFields_both blank (first.takes takes) blankAfter blankBetween
        (second.takes takesOther) blankLast rest
    · cases none
  | @short a b _ absent laid =>
    rw [second.absent] at absent
    have full : record.fill (some a) none = .ok (a, b) := Record.fill_eq_ok rfl absent
    obtain _ | laid := laid
    obtain ⟨blank, spelled, blankAfter⟩ | ⟨-, -, -, none⟩ := laid
    · obtain takes | _ := spelled
      refine Record.takes_inOrder fun rest => ?_
      simpa [Record.readFields_first blank (first.takes takes) blankAfter] using
        Record.fillList_eq_ok full rest
    · cases none
  | @bare a b _ firstAbsent secondAbsent laid =>
    rw [first.absent] at firstAbsent
    rw [second.absent] at secondAbsent
    have full : record.fill none none = .ok (a, b) := Record.fill_eq_ok firstAbsent secondAbsent
    obtain blank | laid := laid
    · refine Record.takes_inOrder fun rest => ?_
      simpa [Record.readFields_none blank] using Record.fillList_eq_ok full rest
    · cases laid

end RecordText

end Winternitz.Json
