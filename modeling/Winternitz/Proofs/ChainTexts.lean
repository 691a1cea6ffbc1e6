import Winternitz.Proofs.Canonical
import Winternitz.Proofs.DigitBytes

set_option autoImplicit false

namespace Winternitz.Document

open PublicKey

def utf8 (text : String) : Bytes :=
  text.toUTF8.data.toList

theorem utf8_eq (text : String) : utf8 text = text.toList.flatMap String.utf8EncodeChar := by
  rw [utf8, String.toUTF8, ← String.utf8Encode_toList, List.utf8Encode,
    List.toList_data_toByteArray]

theorem utf8_marked (rest : String) : utf8 ("0x" ++ rest) = 0x30 :: 0x78 :: utf8 rest := by
  rw [utf8_eq, utf8_eq, String.toList_append]
  rfl

theorem decodeChain_eq {text digits : String} (unmarked : Unmarked text digits) :
    decodeChain text = Hex.decode (utf8 digits) := by
  rw [decodeChain, utf8_eq, unmarked.stripMark_eq]

theorem decodeChain_marked {text : String} (plain : ∀ rest, text ≠ "0x" ++ rest) :
    decodeChain ("0x" ++ text) = decodeChain text := by
  rw [decodeChain_eq (.inl rfl), decodeChain_eq (.inr ⟨rfl, plain⟩)]

-- Behind the first mark the second one is no digit.
theorem decodeChain_twice_marked (rest : String) :
    ∃ source, decodeChain ("0x" ++ ("0x" ++ rest)) = .error source := by
  cases decoded : decodeChain ("0x" ++ ("0x" ++ rest)) with
  | error source => exact ⟨source, rfl⟩
  | ok bytes =>
    rw [decodeChain_eq (.inl rfl), utf8_marked, Hex.decode_eq_ok_iff] at decoded
    have second : (0x78 : UInt8) ∈ 0x30 :: 0x78 :: utf8 rest := by simp
    obtain ⟨value, found⟩ := decoded.value second
    cases found

theorem decodeChains_append (index : Nat) {earlier : List String}
    (decodes : ∀ text ∈ earlier, ∃ bytes, decodeChain text = .ok bytes) (rest : List String) :
    decodeChains index (earlier ++ rest) =
      (decodeChains (index + earlier.length) rest).map (earlier.map spelled ++ ·) := by
  induction earlier generalizing index with
  | nil => cases h : decodeChains index rest <;> simp [h, Except.map]
  | cons text others ih =>
    obtain ⟨bytes, head⟩ := decodes text (by simp)
    have tail := ih (index + 1) fun other member => decodes other (by simp [member])
    have place : index + 1 + others.length = index + (text :: others).length := by
      rw [List.length_cons]
      omega
    rw [List.cons_append, decodeChains, head, tail, place]
    cases decodeChains (index + (text :: others).length) rest <;>
      simp [Except.map, spelled_of_decodes head]

def holding (recorded : Option Parameters) (earlier : List String) (text : String)
    (later : List String) : Document :=
  ⟨recorded, some ((earlier ++ text :: later).map some)⟩

section Among

variable {recorded : Option Parameters} {params : Parameters} {earlier later : List String}
  {text other : String}

theorem outcome_holding_of_error
    (decodes : ∀ text ∈ earlier, ∃ bytes, decodeChain text = .ok bytes) {source : Hex.DecodeError}
    (refused : decodeChain text = .error source) :
    outcome ((holding recorded earlier text later).toKeyWith (some params)) =
      .ok (.error (.hex earlier.length source)) := by
  apply outcome_toKeyWith_of_undecodable params rfl
  rw [decodeChains_append 0 decodes, decodeChains, refused, Nat.zero_add]
  rfl

variable (recorded params later) in
theorem outcome_holding_of_ok
    (decodes : ∀ text ∈ earlier, ∃ bytes, decodeChain text = .ok bytes) {bytes : Bytes}
    (decoded : decodeChain text = .ok bytes) :
    (∃ index source, earlier.length < index ∧
      outcome ((holding recorded earlier text later).toKeyWith (some params)) =
        .ok (.error (.hex index source))) ∨
    ∃ others, others.length = later.length ∧
      outcome ((holding recorded earlier text later).toKeyWith (some params)) =
        keyOutcome (fromChains params (earlier.map spelled ++ bytes :: others)) := by
  have start := decodeChains_append 0 decodes (text :: later)
  rw [decodeChains, decoded, Nat.zero_add] at start
  rcases decodeChains_cases (earlier.length + 1) later with ⟨offset, source, -, found⟩ | found
  · rw [found] at start
    exact .inl ⟨_, source, by omega, outcome_toKeyWith_of_undecodable params rfl start⟩
  · rw [found] at start
    exact .inr ⟨later.map spelled, by simp, outcome_toKeyWith_of_decoded params rfl start⟩

theorem chain_of_holding (decodes : ∀ text ∈ earlier, ∃ bytes, decodeChain text = .ok bytes)
    {bytes : Bytes} (decoded : decodeChain text = .ok bytes) {key : PublicKey}
    (made : outcome ((holding recorded earlier text later).toKeyWith (some params)) =
      .ok (.ok key)) :
    ∃ chains, key.window 0 key.chainCount.toNat = .ok chains ∧
      chains[earlier.length]? = some bytes := by
  rcases outcome_holding_of_ok recorded params later decodes decoded with
    ⟨index, source, -, refused⟩ | ⟨others, -, accepted⟩
  · simp [refused] at made
  · rw [accepted, keyOutcome_eq_ok_iff] at made
    refine ⟨_, window_of_fromChains made, ?_⟩
    rw [List.getElem?_append_right (by simp), List.length_map, Nat.sub_self]
    rfl

theorem decodeChains_congr (index : Nat) (same : decodeChain text = decodeChain other) :
    decodeChains index (earlier ++ text :: later) =
      decodeChains index (earlier ++ other :: later) := by
  induction earlier generalizing index with
  | nil => simp only [List.nil_append, decodeChains, same]
  | cons head rest ih => simp only [List.cons_append, decodeChains, ih]

theorem toKeyWith_holding_congr (same : decodeChain text = decodeChain other) :
    (holding recorded earlier text later).toKeyWith (some params) =
      (holding recorded earlier other later).toKeyWith (some params) := by
  have decoded : decodeChains 0 (earlier ++ text :: later) =
      decodeChains 0 (earlier ++ other :: later) := decodeChains_congr 0 same
  simp only [toKeyWith, holding, decodingEvent, allPresent_map_some, decoded, List.length_map,
    List.length_append, List.length_cons, Option.map_some]

end Among

/-- A chain's text is decoded behind its mark, byte by byte of its UTF-8. An odd number of bytes is
refused first, then the first byte that is no digit, and all else spells a byte by each pair. A mark
before a text that has none changes nothing, and before one that has one it is refused. -/
theorem toKeyWith_reads_text (recorded : Option Parameters) (params : Parameters)
    (earlier later : List String)
    (decodes : ∀ text ∈ earlier, ∃ bytes, decodeChain text = .ok bytes) (text : String) :
    (∃ digits, Unmarked text digits) ∧
    (∀ digits, Unmarked text digits →
      (∀ result, decodeChain text = result ↔ Hex.Decoded (utf8 digits) result) ∧
      ((utf8 digits).length % 2 = 1 →
        outcome ((holding recorded earlier text later).toKeyWith (some params)) =
          .ok (.error (.hex earlier.length .oddLength))) ∧
      (∀ byte index, (utf8 digits).length % 2 = 0 → Hex.FirstWrong (utf8 digits) byte index →
        outcome ((holding recorded earlier text later).toKeyWith (some params)) =
          .ok (.error (.hex earlier.length (.invalidCharacter byte index)))) ∧
      ((utf8 digits).length % 2 = 0 → (∀ byte ∈ utf8 digits, Hex.IsDigitByte byte) →
        ∃ bytes, decodeChain text = .ok bytes ∧ Hex.Paired (utf8 digits) bytes ∧
          ((∃ index source, earlier.length < index ∧
            outcome ((holding recorded earlier text later).toKeyWith (some params)) =
              .ok (.error (.hex index source))) ∨
          ∃ others, others.length = later.length ∧
            outcome ((holding recorded earlier text later).toKeyWith (some params)) =
              keyOutcome (fromChains params (earlier.map spelled ++ bytes :: others))) ∧
          ∀ key, outcome ((holding recorded earlier text later).toKeyWith (some params)) =
              .ok (.ok key) →
            ∃ chains, key.window 0 key.chainCount.toNat = .ok chains ∧
              chains[earlier.length]? = some bytes)) ∧
    (∀ byte index, ∃ shown : Char, shown.toNat = byte.toNat ∧
      (DocumentError.hex earlier.length (.invalidCharacter byte index)).message =
        "Chain " ++ toString earlier.length ++ " is not valid hex: " ++
          ("Invalid character " ++ Text.quoteChar shown ++ " at position " ++ toString index)) ∧
    ((∀ rest, text ≠ "0x" ++ rest) →
      (holding recorded earlier ("0x" ++ text) later).toKeyWith (some params) =
        (holding recorded earlier text later).toKeyWith (some params)) ∧
    (∀ rest, text = "0x" ++ rest → ∃ source,
      outcome ((holding recorded earlier ("0x" ++ text) later).toKeyWith (some params)) =
        .ok (.error (.hex earlier.length source))) := by
  refine ⟨exists_unmarked text, ?meaning, ?shown, ?marked, ?twice⟩
  case meaning =>
    intro digits unmarked
    have meaning (result : Except Hex.DecodeError Bytes) :
        decodeChain text = result ↔ Hex.Decoded (utf8 digits) result := by
      rw [decodeChain_eq unmarked, Hex.decode_eq_iff]
    refine ⟨meaning, ?odd, ?wrong, ?pairs⟩
    case odd =>
      intro odd
      exact outcome_holding_of_error decodes ((meaning _).mpr odd)
    case wrong =>
      intro byte index even first
      exact outcome_holding_of_error decodes ((meaning _).mpr ⟨even, first⟩)
    case pairs =>
      intro even all
      obtain ⟨bytes, pairs⟩ := Hex.exists_pairs even all
      have decoded : decodeChain text = .ok bytes := (meaning _).mpr pairs.paired
      exact ⟨bytes, decoded, pairs.paired,
        outcome_holding_of_ok recorded params later decodes decoded,
        fun key => chain_of_holding decodes decoded⟩
  case shown =>
    intro byte index
    exact ⟨Char.ofNat byte.toNat, Hex.toNat_ofByte byte, rfl⟩
  case marked =>
    intro plain
    exact toKeyWith_holding_congr (decodeChain_marked plain)
  case twice =>
    rintro rest rfl
    obtain ⟨source, refused⟩ := decodeChain_twice_marked rest
    exact ⟨source, outcome_holding_of_error decodes refused⟩

theorem toKeyWith_reads_accented_text :
    (∀ text ∈ ["00"], ∃ bytes, decodeChain text = .ok bytes) ∧
      Hex.FirstWrong (utf8 "0é1") 0xc3 1 ∧
      outcome ((holding none ["00"] "0x0é1" ["x"]).toKeyWith (some ⟨1, 1⟩)) =
        .ok (.error (.hex 1 (.invalidCharacter 0xc3 1))) := by
  have decodes : ∀ text ∈ ["00"], ∃ bytes, decodeChain text = .ok bytes := by
    intro text member
    cases List.mem_singleton.mp member
    exact ⟨[0], rfl⟩
  have bytes : utf8 "0é1" = [0x30, 0xc3, 0xa9, 0x31] := by
    rw [utf8_eq]
    rfl
  have first : Hex.FirstWrong (utf8 "0é1") 0xc3 1 := by
    rw [bytes]
    refine ⟨rfl, by decide, fun earlier below other found => ?_⟩
    obtain rfl : earlier = 0 := by omega
    cases found
    decide
  have read := (toKeyWith_reads_text none ⟨1, 1⟩ ["00"] ["x"] decodes "0x0é1").2.1 "0é1" (.inl rfl)
  exact ⟨decodes, first, read.2.2.1 _ _ (by rw [bytes]; rfl) first⟩

end Winternitz.Document
