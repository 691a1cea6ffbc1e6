import Winternitz.Json.Record

set_option autoImplicit false

namespace Winternitz.Json

variable {α β : Type}

theorem length_readString_le {before text rest : List Char} {value : String}
    (done : readString before text = .ok (value, rest)) :
    value.toList.length + rest.length ≤ before.length + text.length := by
  fun_induction readString before text with
  | case1 | case4 | case5 => cases done
  | case2 => cases done; simp
  | case3 before rest meant after read _ ih =>
    have escape := length_readEscape_lt read
    have later := ih done
    simp only [List.length_cons] at later ⊢
    omega
  | case6 before c rest _ _ _ ih =>
    have later := ih done
    simp only [List.length_cons] at later ⊢
    omega

namespace Reader

/-- A value holds no more letters than the text that was used up for it. -/
def Bounds (reader : Reader α) (letters : α → List Char) : Prop :=
  ∀ ⦃text rest : List Char⦄ ⦃value : α⦄, reader.run text = .ok (value, rest) →
    (letters value).length + rest.length ≤ text.length

theorem bounds_nil (reader : Reader α) : reader.Bounds fun _ => [] := by
  intro text rest value done
  rw [List.length_nil, Nat.zero_add]
  exact Nat.le_of_lt (reader.shrinks done)

theorem bounds_map {reader : Reader α} {f : α → β} {letters : β → List Char}
    (bounds : reader.Bounds fun value => letters (f value)) : (reader.map f).Bounds letters := by
  intro text rest value done
  obtain ⟨⟨found, after⟩, first, done⟩ := bind_eq_ok.1 done
  obtain ⟨rfl, rfl⟩ := pure_eq_ok.1 done
  exact bounds first

theorem bounds_starting {reader : Reader α} {letters : α → List Char} {expected : String}
    {starts : Char → Bool} {read : Char → List Char → Result (α × List Char)}
    (runs : reader.run = runStarting expected starts read)
    (bound : ∀ {c : Char} {tail rest : List Char} {value : α},
      read c tail = .ok (value, rest) → (letters value).length + rest.length ≤ tail.length) :
    reader.Bounds letters := by
  intro text rest value done
  rw [runs] at done
  unfold runStarting at done
  split at done
  next => cases done
  next c tail start =>
    have := length_lt_of_dropBlank start
    split at done
    next => have := bound done; omega
    next => cases done

theorem bounds_string : string.Bounds String.toList := by
  refine bounds_starting rfl fun done => ?_
  simpa only [List.length_nil, Nat.zero_add] using length_readString_le done

theorem Bounds.optional {reader : Reader α} {letters : α → List Char}
    (bounds : reader.Bounds letters) : reader.optional.Bounds fun value => value.elim [] letters := by
  intro text rest value done
  unfold Reader.optional at done
  dsimp only at done
  split at done
  next tail start =>
    have := length_lt_of_dropBlank start
    obtain ⟨after, word, done⟩ := bind_eq_ok.1 done
    obtain ⟨rfl, rfl⟩ := pure_eq_ok.1 done
    have := length_readWord_le word
    simp only [Option.elim_none, List.length_nil]
    omega
  next =>
    obtain ⟨⟨found, after⟩, first, done⟩ := bind_eq_ok.1 done
    obtain ⟨rfl, rfl⟩ := pure_eq_ok.1 done
    exact bounds first

theorem readElements_bounds {element : Reader α} {letters : α → List Char}
    (bounds : element.Bounds letters) {before values : List α} {text rest : List Char}
    (done : readElements element before text = .ok (values, rest)) :
    (values.flatMap letters).length + rest.length ≤
      (before.flatMap letters).length + text.length := by
  fun_induction readElements element before text with
  | case1 | case3 => cases done
  | case2 before text after turn =>
    cases done
    have := length_nextElement_le turn
    rw [(List.reverse_perm before).flatMap_right letters |>.length_eq]
    omega
  | case4 before text start turn value after item ih =>
    have := length_nextElement_le turn
    have := bounds item
    have := ih done
    simp only [List.flatMap_cons, List.length_append] at this
    omega

theorem Bounds.list {element : Reader α} {letters : α → List Char}
    (bounds : element.Bounds letters) : element.list.Bounds fun values => values.flatMap letters :=
  bounds_starting rfl fun done => by simpa using readElements_bounds bounds done

end Reader

namespace Record

variable {record : Record α β} {v : α → List Char} {w : β → List Char}

structure Holds (record : Record α β) (v : α → List Char) (w : β → List Char) : Prop where
  first : record.first.reader.Bounds v
  second : record.second.reader.Bounds w
  noFirst : ∀ value, record.first.fallback = some value → v value = []
  noSecond : ∀ value, record.second.fallback = some value → w value = []

theorem fill_bounds (holds : record.Holds v w) {a : Option α} {b : Option β} {fields : α × β}
    (full : record.fill a b = .ok fields) :
    (v fields.1).length + (w fields.2).length ≤ (a.elim [] v).length + (b.elim [] w).length := by
  have left {a : Option α} {value : α} (found : (a <|> record.first.fallback) = some value) :
      (v value).length ≤ (a.elim [] v).length := by
    cases a with
    | none => exact Nat.le_of_eq (congrArg List.length (holds.noFirst value found))
    | some _ => cases found; exact Nat.le_refl _
  have right {b : Option β} {value : β} (found : (b <|> record.second.fallback) = some value) :
      (w value).length ≤ (b.elim [] w).length := by
    cases b with
    | none => exact Nat.le_of_eq (congrArg List.length (holds.noSecond value found))
    | some _ => cases found; exact Nat.le_refl _
  unfold fill at full
  split at full
  next first second =>
    cases full
    exact Nat.add_le_add (left first) (right second)
  next => cases full
  next => cases full

theorem readMember_bounds {field : Field α} (bounds : field.reader.Bounds v)
    {text rest : List Char} {value : α} (done : field.readMember text = .ok (value, rest)) :
    (v value).length + rest.length ≤ text.length := by
  obtain ⟨after, colon, done⟩ := bind_eq_ok.1 done
  have := length_readColon_lt colon
  have := bounds done
  omega

theorem readMembers_bounds (holds : record.Holds v w) {start : Bool} {a : Option α}
    {b : Option β} {text rest : List Char} {fields : α × β}
    (done : record.readMembers start a b text = .ok (fields, rest)) :
    (v fields.1).length + (w fields.2).length + rest.length ≤
      (a.elim [] v).length + (b.elim [] w).length + text.length := by
  fun_induction readMembers record start a b text with
  | case1 | case3 | case4 | case5 | case7 | case8 | case10 | case11 => cases done
  | case2 _ _ _ _ _ turn _ full =>
    cases done
    have := length_nextKey_lt turn
    have := fill_bounds holds full
    omega
  | case6 _ _ _ _ _ _ _ _ member turn ih =>
    have := length_nextKey_lt turn
    have := readMember_bounds holds.first member
    have := ih done
    simp only [Option.elim_some] at this
    omega
  | case9 _ _ _ _ _ _ _ _ member turn _ ih =>
    have := length_nextKey_lt turn
    have := readMember_bounds holds.second member
    have := ih done
    simp only [Option.elim_some] at this
    omega
  | case12 _ _ _ _ _ _ turn _ _ _ colon _ value ih =>
    have := length_nextKey_lt turn
    have := length_readColon_lt colon
    have := length_skipValue_lt value
    have := ih done
    omega

theorem readFields_bounds (holds : record.Holds v w) {text rest : List Char} {fields : α × β}
    (done : record.readFields text = .ok (fields, rest)) :
    (v fields.1).length + (w fields.2).length + rest.length ≤ text.length := by
  have short {a : Option α} {text : List Char}
      (done : record.fillList a text = .ok (fields, rest)) :
      (v fields.1).length + (w fields.2).length ≤ (a.elim [] v).length := by
    unfold fillList at done
    split at done
    next full => cases done; exact fill_bounds holds full
    next => cases done
  obtain ⟨⟨more, afterTurn⟩, turn, done⟩ := bind_eq_ok.1 done
  have := Reader.length_nextElement_le turn
  dsimp only at done
  split at done
  next =>
    have := short done
    simp only [Option.elim_none, List.length_nil] at this
    rw [eq_of_fillList done]
    omega
  next =>
    obtain ⟨⟨a, afterFirst⟩, first, done⟩ := bind_eq_ok.1 done
    have := holds.first first
    obtain ⟨⟨more, afterTurn⟩, turn, done⟩ := bind_eq_ok.1 done
    dsimp only at turn done
    have := Reader.length_nextElement_le turn
    split at done
    next =>
      have := short done
      simp only [Option.elim_some] at this
      rw [eq_of_fillList done]
      omega
    next =>
      obtain ⟨⟨b, afterSecond⟩, second, done⟩ := bind_eq_ok.1 done
      have := holds.second second
      obtain ⟨last, closed, done⟩ := bind_eq_ok.1 done
      dsimp only at closed
      have := length_closeList_lt closed
      obtain ⟨rfl, rfl⟩ := pure_eq_ok.1 done
      dsimp only
      omega

theorem bounds_reader (holds : record.Holds v w) :
    record.reader.Bounds fun fields => v fields.1 ++ w fields.2 := by
  refine Reader.bounds_starting rfl fun {c tail rest fields} done => ?_
  rw [List.length_append]
  split at done
  next => simpa using readMembers_bounds holds done
  next => exact readFields_bounds holds done

end Record

end Winternitz.Json
