import Mathlib.Data.List.Forall2
import Winternitz.Proofs.Conversion
import Winternitz.Proofs.HexCase
import Winternitz.Proofs.Representations
import Winternitz.Proofs.Letters

set_option autoImplicit false

namespace Winternitz.Document

open PublicKey

/-- The text behind the mark, or all of the text if it does not start with the mark. -/
def Unmarked (text digits : String) : Prop :=
  text = "0x" ++ digits ∨ (digits = text ∧ ∀ rest, text ≠ "0x" ++ rest)

theorem stripMark_marked (rest : String) : stripMark ("0x" ++ rest).toList = rest.toList := by
  rw [String.toList_append]
  rfl

theorem stripMark_unmarked {text : String} (plain : ∀ rest, text ≠ "0x" ++ rest) :
    stripMark text.toList = text.toList := by
  generalize shown : text.toList = chars
  fun_cases stripMark chars with
  | case1 rest =>
    refine absurd ?_ (plain (String.ofList rest))
    have mark : "0x".toList = ['0', 'x'] := rfl
    rw [← String.toList_inj, shown, String.toList_append, mark, String.toList_ofList]
    rfl
  | case2 => rfl

theorem Unmarked.stripMark_eq {text digits : String} (unmarked : Unmarked text digits) :
    stripMark text.toList = digits.toList := by
  rcases unmarked with rfl | ⟨rfl, plain⟩
  · exact stripMark_marked digits
  · exact stripMark_unmarked plain

theorem exists_unmarked (text : String) : ∃ digits, Unmarked text digits := by
  by_cases marked : ∃ rest, text = "0x" ++ rest
  next =>
    obtain ⟨rest, rfl⟩ := marked
    exact ⟨rest, .inl rfl⟩
  next => exact ⟨text, .inr ⟨rfl, not_exists.mp marked⟩⟩

theorem unmarked_iff (text digits : String) :
    Unmarked text digits ↔ stripMark text.toList = digits.toList := by
  constructor
  · exact Unmarked.stripMark_eq
  · intro stripped
    obtain ⟨found, unmarked⟩ := exists_unmarked text
    rw [unmarked.stripMark_eq, String.toList_inj] at stripped
    exact stripped ▸ unmarked

def canonicalText (text : String) : String :=
  String.ofList ((stripMark text.toList).map Char.toLower)

theorem stripMark_of_digits {digits : List Char} (all : ∀ c ∈ digits, Hex.IsDigit c) :
    stripMark digits = digits := by
  fun_cases stripMark digits with
  | case1 rest => exact absurd (all 'x' (by simp)) (by decide)
  | case2 => rfl

theorem canonicalText_encode (bytes : Bytes) :
    canonicalText (Hex.encode bytes) = Hex.encode bytes := by
  rw [canonicalText, stripMark_of_digits fun c => Hex.isDigit_of_mem_encode,
    Hex.map_toLower_encode, String.ofList_toList]

theorem decodeChain_eq_ok_iff (text : String) (bytes : Bytes) :
    decodeChain text = .ok bytes ↔ canonicalText text = Hex.encode bytes := by
  rw [decodeChain, Hex.decode_utf8_eq_ok_iff, canonicalText, ← String.toList_inj,
    String.toList_ofList]

theorem decodeChains_cons_eq_ok_iff (index : Nat) (text : String) (rest : List String)
    (decoded : List Bytes) :
    decodeChains index (text :: rest) = .ok decoded ↔
      ∃ bytes others, decoded = bytes :: others ∧ decodeChain text = .ok bytes ∧
        decodeChains (index + 1) rest = .ok others := by
  rw [decodeChains]
  cases decodeChain text with
  | error source => simp
  | ok bytes =>
    cases decodeChains (index + 1) rest with
    | error error => simp [Except.map]
    | ok others => simp [Except.map, eq_comm]

theorem decodeChains_eq_ok_iff (index : Nat) (texts : List String) (decoded : List Bytes) :
    decodeChains index texts = .ok decoded ↔
      texts.map canonicalText = decoded.map Hex.encode := by
  induction texts generalizing index decoded with
  | nil => simp [decodeChains, eq_comm]
  | cons text rest ih =>
    rw [decodeChains_cons_eq_ok_iff, List.map_cons, eq_comm, List.map_eq_cons_iff]
    simp only [decodeChain_eq_ok_iff, ih, @eq_comm _ (Hex.encode _),
      @eq_comm _ (List.map Hex.encode _)]

theorem keyOutcome_eq_ok_iff (verdict : Checked PublicKey.Verdict) (key : PublicKey) :
    keyOutcome verdict = .ok (.ok key) ↔ Makes verdict key := by
  cases verdict with
  | error fault => simp [keyOutcome, Makes, Except.map]
  | ok verdict =>
    obtain ⟨result, events⟩ := verdict
    have same : keyOutcome (.ok ⟨result, events⟩) = .ok (result.mapError .key) := rfl
    rw [same, Except.ok.injEq, Json.mapError_eq_ok]
    simp [Makes]

theorem toKeyWith_makes_iff (document : Document) (params : Option Parameters) (key : PublicKey) :
    outcome (document.toKeyWith params) = .ok (.ok key) ↔
      ∃ (given : Parameters) (texts : List String) (decoded : List Bytes),
        params = some given ∧ document.chains = some (texts.map some) ∧
        texts.map canonicalText = decoded.map Hex.encode ∧
        Makes (fromChains given decoded) key := by
  constructor
  · intro made
    cases params with
    | none => simp [outcome_toKeyWith_none] at made
    | some given =>
      cases listed : document.chains with
      | none => simp [outcome_toKeyWith_of_no_list given listed] at made
      | some chains =>
        by_cases null : none ∈ chains
        · simp [outcome_toKeyWith_of_null given listed null] at made
        · obtain ⟨texts, rfl⟩ := exists_texts null
          cases read : decodeChains 0 texts with
          | error error => simp [outcome_toKeyWith_of_undecodable given listed read] at made
          | ok decoded =>
            rw [outcome_toKeyWith_of_decoded given listed read, keyOutcome_eq_ok_iff] at made
            exact ⟨given, texts, decoded, rfl, rfl, (decodeChains_eq_ok_iff 0 _ _).mp read, made⟩
  · rintro ⟨given, texts, decoded, rfl, listed, same, made⟩
    have read := (decodeChains_eq_ok_iff 0 texts decoded).mpr same
    rwa [outcome_toKeyWith_of_decoded given listed read, keyOutcome_eq_ok_iff]

def Spells (text : String) (width : Nat) : Prop :=
  ∃ digits, Unmarked text digits ∧ digits.length = 2 * width ∧
    ∀ c ∈ digits.toList, Hex.IsDigit c

theorem spells_iff (text : String) (width : Nat) :
    Spells text width ↔ (stripMark text.toList).length = 2 * width ∧
      ∀ c ∈ stripMark text.toList, Hex.IsDigit c := by
  obtain ⟨found, unmarked⟩ := exists_unmarked text
  rw [unmarked.stripMark_eq, String.length_toList]
  constructor
  · rintro ⟨digits, same, spelled⟩
    rw [unmarked_iff, unmarked.stripMark_eq, String.toList_inj] at same
    exact same ▸ spelled
  · exact fun spelled => ⟨found, unmarked, spelled⟩

/-- Parameters, and as many chains as they say, each of which spells as many bytes as they say. -/
def WellSpelled (document : Document) : Prop :=
  ∃ (params : Parameters) (texts : List String),
    document.parameters = some params ∧ document.chains = some (texts.map some) ∧
    texts.length = params.chainCount.toNat ∧ ∀ text ∈ texts, Spells text params.digestSize.toNat

def CanonicalText (text form : String) : Prop :=
  ∃ digits, Unmarked text digits ∧ form.toList = digits.toList.map Char.toLower

def CanonicalChains : Option (List (Option String)) → Option (List (Option String)) → Prop :=
  Option.Rel (List.Forall₂ (Option.Rel CanonicalText))

/-- A document with the same parameters and, chain by chain, the canonical texts. -/
def Canonical (document form : Document) : Prop :=
  form.parameters = document.parameters ∧ CanonicalChains document.chains form.chains

theorem canonicalText_iff (text form : String) :
    CanonicalText text form ↔ form = canonicalText text := by
  rw [canonicalText, ← String.toList_inj, String.toList_ofList]
  constructor
  · rintro ⟨digits, unmarked, lower⟩
    rw [unmarked.stripMark_eq, lower]
  · intro lower
    obtain ⟨digits, unmarked⟩ := exists_unmarked text
    exact ⟨digits, unmarked, unmarked.stripMark_eq ▸ lower⟩

section Graph

variable {α β : Type} {R : α → β → Prop} {f : α → β} (graph : ∀ a b, R a b ↔ b = f a)

include graph

theorem optionRel_iff (a : Option α) (b : Option β) : Option.Rel R a b ↔ b = a.map f := by
  cases a <;> cases b <;> simp [graph]

theorem forall₂_iff (list : List α) (others : List β) :
    List.Forall₂ R list others ↔ others = list.map f := by
  induction list generalizing others with
  | nil => simp
  | cons head rest ih => simp [List.forall₂_cons_left_iff, graph, ih]

end Graph

theorem canonicalChains_iff (chains forms : Option (List (Option String))) :
    CanonicalChains chains forms ↔ forms = chains.map (List.map (Option.map canonicalText)) :=
  optionRel_iff (forall₂_iff (optionRel_iff canonicalText_iff)) chains forms

def canonical (document : Document) : Document :=
  ⟨document.parameters, document.chains.map (List.map (Option.map canonicalText))⟩

theorem canonical_iff (document form : Document) :
    Canonical document form ↔ form = document.canonical := by
  rw [Canonical, canonicalChains_iff, canonical, Document.mk.injEq]

theorem exists_decoded_iff (texts : List String) (width : Nat) :
    (∃ decoded : List Bytes, texts.map canonicalText = decoded.map Hex.encode ∧
      Blocks.Uniform width decoded) ↔ ∀ text ∈ texts, Spells text width := by
  have chain (text : String) : (∃ bytes : Bytes, bytes.length = width ∧
      canonicalText text = Hex.encode bytes) ↔ Spells text width := by
    rw [spells_iff, ← Hex.exists_encode_iff]
    simp only [canonicalText, ← String.toList_inj, String.toList_ofList]
  simp only [← chain]
  induction texts with
  | nil => exact ⟨fun _ => by simp, fun _ => ⟨[], rfl, by simp [Blocks.Uniform]⟩⟩
  | cons text rest ih =>
    rw [List.forall_mem_cons]
    constructor
    · rintro ⟨decoded, same, uniform⟩
      obtain ⟨bytes, others, rfl, head, tail⟩ := List.map_eq_cons_iff.mp same.symm
      obtain ⟨length, uniform⟩ := List.forall_mem_cons.mp uniform
      exact ⟨⟨bytes, length, head.symm⟩, ih.mp ⟨others, tail.symm, uniform⟩⟩
    · rintro ⟨⟨bytes, length, head⟩, later⟩
      obtain ⟨others, tail, uniform⟩ := ih.mpr later
      exact ⟨bytes :: others, by simp [head, tail], List.forall_mem_cons.mpr ⟨length, uniform⟩⟩

theorem toKey_makes_iff {document : Document} (fits : document.Fits) :
    (∃ key, outcome document.toKey = .ok (.ok key)) ↔ document.WellSpelled := by
  simp only [toKey, toKeyWith_makes_iff, fromChains_makes_iff]
  constructor
  · rintro ⟨key, params, texts, decoded, recorded, listed, same, shape, -, -⟩
    have count : texts.length = decoded.length := by simpa using congrArg List.length same
    exact ⟨params, texts, recorded, listed, count.trans shape.count,
      (exists_decoded_iff texts _).mp ⟨decoded, same, shape.widths⟩⟩
  · rintro ⟨params, texts, recorded, listed, length, digits⟩
    obtain ⟨decoded, same, widths⟩ := (exists_decoded_iff texts _).mpr digits
    have count : texts.length = decoded.length := by simpa using congrArg List.length same
    have shape : Matches params decoded := ⟨count ▸ length, widths⟩
    have spelled := length_le_weight listed ((decodeChains_eq_ok_iff 0 _ _).mpr same)
    have room : params.product < Size.bufferLimit :=
      shape.length_flatten ▸ Nat.lt_of_le_of_lt spelled fits
    exact ⟨_, params, texts, decoded, recorded, listed, same, shape, room, rfl⟩

theorem canonical_of_toKey {document : Document} {key : PublicKey}
    (made : outcome document.toKey = .ok (.ok key)) :
    key.Valid ∧ key.Held ∧ document.canonical = written key := by
  obtain ⟨params, texts, decoded, recorded, listed, same, made⟩ :=
    (toKeyWith_makes_iff document _ key).mp made
  have blocks := blocks_of_fromChains made
  have ⟨valid, held⟩ := valid_of_fromChains made
  obtain ⟨-, -, rfl⟩ := (fromChains_makes_iff params decoded key).mp made
  refine ⟨valid, held, ?_⟩
  rw [written, blocks, ← same, canonical, recorded, listed]
  simp only [Option.map_some, List.map_map]
  rfl

theorem toKeyWith_written (key : PublicKey) (params : Parameters) :
    outcome ((written key).toKeyWith (some params)) = keyOutcome (fromChains params key.blocks) := by
  refine outcome_toKeyWith_of_decoded params rfl ((decodeChains_eq_ok_iff 0 _ _).mpr ?_)
  rw [List.map_map]
  exact List.map_congr_left fun chain _ => canonicalText_encode chain

theorem toKey_written {key : PublicKey} (valid : key.Valid) (held : key.Held) :
    outcome (written key).toKey = .ok (.ok key) := by
  have read := toKeyWith_written key key.parameters
  rwa [(keyOutcome_eq_ok_iff _ key).mpr (fromChains_blocks valid held)] at read

/-- There is room for another list as long as that of the chains, as there is for one in memory. -/
def Listable (document : Document) : Prop :=
  (document.chains.getD []).length * PublicKey.handleSize < Size.bufferLimit

theorem listable_written_iff (key : PublicKey) : (written key).Listable ↔ key.Listable := by
  simp [Listable, PublicKey.Listable, written]

theorem Listable.canonical {document : Document} (listable : document.Listable) :
    document.canonical.Listable := by
  cases given : document.chains <;> simpa [Listable, Document.canonical, given] using listable

/-- A document makes a key exactly when it is well spelled. The key has the canonical form of the
document as its own document, and two documents make one key exactly when these forms agree. -/
theorem toKey_canonical_spelling (document : Document) :
    (∃ form, ∀ other, Canonical document other ↔ other = form) ∧
    (document.Fits →
      ((∃ key, outcome document.toKey = .ok (.ok key)) ↔ document.WellSpelled)) ∧
    (∀ key form, outcome document.toKey = .ok (.ok key) → Canonical document form →
      (document.Listable → ofKey key = .ok form) ∧
        outcome form.toKey = .ok (.ok key) ∧ Canonical form form) ∧
    ∀ (other : Document) key otherKey, outcome document.toKey = .ok (.ok key) →
      outcome other.toKey = .ok (.ok otherKey) →
        (key = otherKey ↔ document.parameters = other.parameters ∧
          ∃ chains, CanonicalChains document.chains chains ∧
            CanonicalChains other.chains chains) := by
  refine ⟨⟨document.canonical, canonical_iff document⟩, toKey_makes_iff, ?canonical, ?equal⟩
  case canonical =>
    intro key form made given
    obtain rfl := (canonical_iff document form).mp given
    obtain ⟨valid, held, same⟩ := canonical_of_toKey made
    have again := toKey_written valid held
    refine ⟨fun listable => ?_, same ▸ again, ?_⟩
    · have room := listable.canonical
      rw [same, listable_written_iff] at room
      exact (ofKey_eq_ok_iff valid _).mpr ⟨room, same⟩
    · rw [canonical_iff, same, (canonical_of_toKey again).2.2]
  case equal =>
    intro other key otherKey made otherMade
    obtain ⟨valid, held, same⟩ := canonical_of_toKey made
    obtain ⟨otherValid, otherHeld, otherSame⟩ := canonical_of_toKey otherMade
    simp only [canonicalChains_iff]
    constructor
    · rintro rfl
      have forms := Document.mk.inj (same.trans otherSame.symm)
      exact ⟨forms.1, _, rfl, forms.2⟩
    · rintro ⟨recorded, chains, first, second⟩
      have forms : document.canonical = other.canonical := by
        rw [canonical, canonical, recorded, ← first, ← second]
      have back := toKey_written valid held
      rw [← same, forms, otherSame, toKey_written otherValid otherHeld] at back
      exact (Except.ok.inj (Except.ok.inj back)).symm

def mixedCase : Document := ⟨some ⟨2, 1⟩, some [some "0xAb", some "cD"]⟩

theorem toKey_of_mixed_case :
    mixedCase.Fits ∧ mixedCase.WellSpelled ∧ mixedCase.Listable ∧
      outcome mixedCase.toKey = .ok (.ok ⟨[0xab, 0xcd], 2, 1⟩) ∧
      ofKey ⟨[0xab, 0xcd], 2, 1⟩ = .ok ⟨some ⟨2, 1⟩, some [some "ab", some "cd"]⟩ := by
  have fits : mixedCase.Fits := by
    simp [Fits, weight, letters, mixedCase, chainLetters, Size.bufferLimit]
  have listable : mixedCase.Listable := by
    simp [Listable, mixedCase, handleSize, Size.bufferLimit]
  have made : outcome mixedCase.toKey = .ok (.ok ⟨[0xab, 0xcd], 2, 1⟩) := rfl
  have form : Canonical mixedCase ⟨some ⟨2, 1⟩, some [some "ab", some "cd"]⟩ := by
    rw [canonical_iff]
    rfl
  obtain ⟨-, accepted, kept, -⟩ := toKey_canonical_spelling mixedCase
  exact ⟨fits, (accepted fits).mp ⟨_, made⟩, listable, made, (kept _ _ made form).1 listable⟩

end Winternitz.Document
