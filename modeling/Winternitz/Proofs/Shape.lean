import Winternitz.Proofs.Attempts

set_option autoImplicit false

namespace Winternitz

-- Two results that a function cannot tell apart are one error, or two values that it takes to one.
theorem cases_of_map_eq {α β ε : Type} {f : α → β} {result other : Except ε α}
    (same : result.map f = other.map f) :
    (∃ error, result = .error error ∧ other = .error error) ∨
      ∃ value found, result = .ok value ∧ other = .ok found ∧ f value = f found := by
  cases result with
  | error error =>
    cases other with
    | error => exact .inl ⟨error, rfl, by cases same; rfl⟩
    | ok => cases same
  | ok value =>
    cases other with
    | error => cases same
    | ok found => exact .inr ⟨value, found, rfl, rfl, Except.ok.inj same⟩

/-- What shows of a verdict: an error or the dimensions, and the log, but no byte of a key. -/
def visible {ε : Type} (verdict : Logged (Except ε PublicKey)) : Logged (Except ε Parameters) :=
  verdict.map fun result => result.map PublicKey.parameters

theorem visible_verdictOnChains (verdict : PublicKey.Verdict) :
    visible (Document.verdictOnChains verdict) =
      (visible verdict).map fun result => result.mapError .key := by
  obtain ⟨result, events⟩ := verdict
  cases result <;> rfl

theorem visible_finish {finish : PublicKey.Verdict → Document.Verdict}
    (shown : Logged (Except KeyError Parameters) → Logged (Except DocumentError Parameters))
    (through : ∀ verdict, visible (finish verdict) = shown (visible verdict))
    {verdict other : Checked PublicKey.Verdict} (same : verdict.map visible = other.map visible) :
    (verdict.map finish).map visible = (other.map finish).map visible := by
  have finished (verdict : Checked PublicKey.Verdict) :
      (verdict.map finish).map visible = (verdict.map visible).map shown := by
    cases verdict with
    | error fault => rfl
    | ok verdict => exact congrArg Except.ok (through verdict)
  rw [finished, finished, same]

theorem visible_on_chains {verdict other : Checked PublicKey.Verdict}
    (same : verdict.map visible = other.map visible) :
    (verdict.map Document.verdictOnChains).map visible =
      (other.map Document.verdictOnChains).map visible :=
  visible_finish (fun shown => shown.map fun result => result.mapError .key)
    visible_verdictOnChains same

namespace PublicKey

def widths (chains : Option (List (Option Bytes))) : Option (List (Option Nat)) :=
  chains.map fun list => list.map (Option.map List.length)

theorem fromChains_visible (params : Parameters) {chains others : List Bytes}
    (same : chains.map List.length = others.map List.length) :
    (fromChains params chains).map visible = (fromChains params others).map visible := by
  have count : chains.length = others.length := by simpa using congrArg List.length same
  have width : (chains.any fun chain => chain.length ≠ params.digestSize.toNat) =
      others.any fun chain => chain.length ≠ params.digestSize.toNat := by
    have found := congrArg (fun list => list.any fun width => width ≠ params.digestSize.toNat) same
    simpa [List.any_map, Function.comp_def] using found
  unfold fromChains
  rw [count, width]
  split
  · rfl
  · split
    · rfl
    · cases params.byteSize with
      | error fault => rfl
      | ok size =>
        simp only [bind, Except.bind]
        cases Size.reserve size 1 <;> rfl

theorem allPresent_map {α β : Type} (f : α → β) (list : List (Option α)) :
    allPresent (list.map (Option.map f)) = (allPresent list).map (List.map f) := by
  induction list with
  | nil => rfl
  | cons head rest ih =>
    cases head with
    | none => rfl
    | some value => simp [allPresent, ih, Function.comp_def]

theorem create_visible (params : Option Parameters) {chains others : Option (List (Option Bytes))}
    (same : widths chains = widths others) :
    (create params chains).map visible = (create params others).map visible := by
  match params, chains, others with
  | none, _, _ => rfl
  | some params, none, none => rfl
  | some params, some list, some other =>
    have present := congrArg allPresent (Option.some.inj same)
    rw [allPresent_map, allPresent_map] at present
    simp only [create]
    cases found : allPresent list with
    | none =>
      cases foundOther : allPresent other with
      | none => rfl
      | some values => simp [found, foundOther] at present
    | some chains =>
      cases foundOther : allPresent other with
      | none => simp [found, foundOther] at present
      | some others =>
        refine fromChains_visible params ?_
        simpa [found, foundOther] using present

theorem fromFlat_visible (params : Parameters) {bytes others : Bytes}
    (same : bytes.length = others.length) :
    (Except.ok (fromFlat params bytes) : Checked Verdict).map visible =
      (Except.ok (fromFlat params others) : Checked Verdict).map visible := by
  unfold fromFlat
  rw [same]
  split
  · rfl
  · split <;> rfl

end PublicKey

namespace Document

def width (text : String) : Except Hex.DecodeError Nat :=
  (decodeChain text).map List.length

def widths (document : Document) : Option (List (Option (Except Hex.DecodeError Nat))) :=
  document.chains.map fun list => list.map (Option.map width)

theorem decodeChains_visible (index : Nat) {texts others : List String}
    (same : texts.map width = others.map width) :
    (decodeChains index texts).map (List.map List.length) =
      (decodeChains index others).map (List.map List.length) := by
  induction texts generalizing index others with
  | nil =>
    obtain rfl : others = [] := by simpa [eq_comm] using same
    rfl
  | cons text rest ih =>
    obtain ⟨other, tail, rfl, head, later⟩ := List.map_eq_cons_iff.mp same.symm
    rw [decodeChains, decodeChains]
    rcases cases_of_map_eq head.symm with
      ⟨source, first, second⟩ | ⟨bytes, found, first, second, width⟩
    · rw [first, second]
    · rw [first, second]
      rcases cases_of_map_eq (ih (index + 1) later.symm) with
        ⟨error, first, second⟩ | ⟨decoded, others, first, second, widths⟩
      · rw [first, second]
        rfl
      · rw [first, second]
        simp [Except.map, width, widths]

theorem toKeyWith_visible (params : Option Parameters) {document other : Document}
    (same : document.widths = other.widths) :
    (document.toKeyWith params).map visible = (other.toKeyWith params).map visible := by
  have event : document.decodingEvent = other.decodingEvent := by
    have count := congrArg (Option.map List.length) same
    simpa [widths, decodingEvent, Function.comp_def] using count
  cases params with
  | none => rw [toKeyWith_of_no_params, toKeyWith_of_no_params, event]
  | some params =>
    cases given : document.chains with
    | none =>
      cases givenOther : other.chains with
      | none =>
        rw [toKeyWith_of_no_list params given, toKeyWith_of_no_list params givenOther, event]
      | some others => simp [widths, given, givenOther] at same
    | some chains =>
      cases givenOther : other.chains with
      | none => simp [widths, given, givenOther] at same
      | some others =>
        have lists : chains.map (Option.map width) = others.map (Option.map width) := by
          simpa [widths, given, givenOther] using same
        have present := congrArg PublicKey.allPresent lists
        rw [PublicKey.allPresent_map, PublicKey.allPresent_map] at present
        cases found : PublicKey.allPresent chains with
        | none =>
          have foundOther : PublicKey.allPresent others = none := by
            simpa [found] using present.symm
          have null := (PublicKey.allPresent_eq_none_iff chains).mp found
          have nullOther := (PublicKey.allPresent_eq_none_iff others).mp foundOther
          rw [toKeyWith_of_null params given null, toKeyWith_of_null params givenOther nullOther,
            event]
        | some texts =>
          rw [found, Option.map_some, eq_comm, Option.map_eq_some_iff] at present
          obtain ⟨otherTexts, foundOther, textWidths⟩ := present
          obtain rfl := (PublicKey.allPresent_eq_some_iff chains texts).mp found
          obtain rfl := (PublicKey.allPresent_eq_some_iff others otherTexts).mp foundOther
          rcases cases_of_map_eq (decodeChains_visible 0 textWidths.symm) with
            ⟨error, bad, badOther⟩ | ⟨decoded, others, read, readOther, lengths⟩
          · rw [toKeyWith_of_undecodable params given bad,
              toKeyWith_of_undecodable params givenOther badOther, event]
          · rw [toKeyWith_of_decoded params given read,
              toKeyWith_of_decoded params givenOther readOther, event]
            refine visible_finish (fun shown =>
              (shown.map fun result => result.mapError .key).after other.decodingEvent)
              (fun verdict => ?_) (PublicKey.fromChains_visible params lengths)
            exact congrArg (Logged.after _) (visible_verdictOnChains verdict)

end Document

namespace Attempt

inductive Alike : Attempt → Attempt → Prop
  | new {params : Parameters} {chains others : List Bytes} :
      chains.map List.length = others.map List.length → Alike (new params chains) (new params others)
  | fromChains {params : Parameters} {chains others : List Bytes} :
      chains.map List.length = others.map List.length →
      Alike (fromChains params chains) (fromChains params others)
  | create {params : Option Parameters} {chains others : Option (List (Option Bytes))} :
      PublicKey.widths chains = PublicKey.widths others →
      Alike (create params chains) (create params others)
  | fromFlat {params : Parameters} {bytes others : Bytes} : bytes.length = others.length →
      Alike (fromFlat params bytes) (fromFlat params others)
  | toKey {document other : Document} : document.parameters = other.parameters →
      document.widths = other.widths → Alike (toKey document) (toKey other)
  | toKeyWith {document other : Document} {params : Option Parameters} :
      document.widths = other.widths → Alike (toKeyWith document params) (toKeyWith other params)

/-- Attempts on parts of the same shape have the same outcome, but for the bytes of a key, and the
same log: the contents of a chain decide nothing and show nowhere. -/
theorem visible_of_alike {attempt other : Attempt} (alike : Alike attempt other) :
    attempt.verdict.map visible = other.verdict.map visible := by
  cases alike with
  | new same | fromChains same => exact visible_on_chains (PublicKey.fromChains_visible _ same)
  | create same => exact visible_on_chains (PublicKey.create_visible _ same)
  | fromFlat same => exact visible_on_chains (PublicKey.fromFlat_visible _ same)
  | @toKey document other recorded same =>
    rw [verdict, verdict, Document.toKey, Document.toKey, recorded]
    exact Document.toKeyWith_visible _ same
  | toKeyWith same => exact Document.toKeyWith_visible _ same

def marked : Attempt := toKeyWith ⟨none, some [some "0xAb", some "cd"]⟩ (some ⟨2, 1⟩)

def plain : Attempt := toKeyWith ⟨some ⟨7, 7⟩, some [some "00", some "0xFf"]⟩ (some ⟨2, 1⟩)

theorem visible_of_marked :
    Alike marked plain ∧ marked.verdict.map visible = plain.verdict.map visible ∧
      marked.verdict.map Logged.result = .ok (.ok ⟨[0xab, 0xcd], 2, 1⟩) ∧
      plain.verdict.map Logged.result = .ok (.ok ⟨[0x00, 0xff], 2, 1⟩) := by
  have alike : Alike marked plain := .toKeyWith rfl
  exact ⟨alike, visible_of_alike alike, rfl, rfl⟩

end Attempt

end Winternitz
