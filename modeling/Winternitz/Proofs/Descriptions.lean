import Winternitz.Proofs.HexCase
import Winternitz.Proofs.Json.Numerals
import Winternitz.Proofs.Views

set_option autoImplicit false

namespace Winternitz

theorem intercalate_unique {α : Type} {separator : List α} {pieces others : List (List α)}
    (lengths : pieces.map List.length = others.map List.length)
    (same : separator.intercalate pieces = separator.intercalate others) : pieces = others := by
  induction pieces generalizing others with
  | nil =>
    cases others with
    | nil => rfl
    | cons => simp at lengths
  | cons piece rest ih =>
    cases others with
    | nil => simp at lengths
    | cons other tail =>
      obtain ⟨head, later⟩ := List.cons.inj lengths
      cases rest with
      | nil =>
        cases tail with
        | nil => simpa using same
        | cons => simp at later
      | cons next rest =>
        cases tail with
        | nil => simp at later
        | cons after tail =>
          rw [List.intercalate_cons_cons, List.intercalate_cons_cons, List.append_assoc,
            List.append_assoc] at same
          obtain ⟨first, same⟩ := List.append_inj same head
          rw [first, ih later (List.append_cancel_left same)]

namespace Text

theorem unprintable_of_ascii {c : Char} (visible : 0x20 ≤ c.toNat) (ascii : c.toNat < 0x7f) :
    unprintable c = false := by
  have late : ∀ range ∈ unprintableRanges, 0x7f ≤ range.1 := by decide +kernel
  have outside : ∀ range ∈ unprintableRanges,
      ¬ (range.1 ≤ c.toNat && c.toNat ≤ range.2) = true := by
    intro range member
    have := late range member
    simp only [Bool.and_eq_true, decide_eq_true_eq]
    omega
  simp only [unprintable, Bool.or_eq_false_iff, decide_eq_false_iff_not, Nat.not_lt]
  exact ⟨visible, List.any_eq_false.mpr outside⟩

theorem shown_digit {value : Nat} (below : value < 16) :
    shown '"' (Hex.digit value) = (Hex.digit value).toString := by
  have plain : ∀ value < 16, 0x20 ≤ (Hex.digit value).toNat ∧ (Hex.digit value).toNat < 0x7f ∧
      Hex.digit value ∉ ['"', '\\', '\x00', '\t', '\n', '\r'] := by decide
  obtain ⟨visible, ascii, other⟩ := plain value below
  have printable := unprintable_of_ascii visible ascii
  simp only [List.mem_cons, List.not_mem_nil, or_false, not_or] at other
  simp [shown, other, printable]

theorem toList_quote_encode (bytes : Bytes) :
    (quote (Hex.encode bytes)).toList = '"' :: ((Hex.encode bytes).toList ++ ['"']) := by
  have unchanged : ∀ c ∈ (Hex.encode bytes).toList, (shown '"' c).toList = [c] := by
    intro c member
    obtain ⟨value, below, rfl⟩ := Hex.digit_of_mem_encode member
    rw [shown_digit below]
    simp
  have pieces : (Hex.encode bytes).toList.flatMap (fun c => (shown '"' c).toList) =
      (Hex.encode bytes).toList := by
    rw [List.flatMap_def, List.map_congr_left unchanged, ← List.flatMap_def,
      List.flatMap_singleton']
  simp [quote, String.toList_join, List.flatMap_map, pieces]

end Text

namespace PublicKey

def withDimensions (opening between : String) (key : PublicKey) (rest : String) : String :=
  opening ++ (toString key.chainCount ++ (between ++ (toString key.digestSize ++ rest)))

def inlineChains (chains : List Bytes) : String :=
  ", chains: [" ++
    (String.intercalate ", " (chains.map fun chain => Text.quote (Hex.encode chain)) ++
    "] \x7d")

def chainOnLine (chain : Bytes) : String :=
  "        " ++ (Text.quote (Hex.encode chain) ++ ",\n")

def fullChains (chains : List Bytes) : String :=
  ",\n    chains: " ++ ((if (chains.map chainOnLine).isEmpty then "[]"
    else "[\n" ++ String.join (chains.map chainOnLine) ++ "    ]") ++ ",\n\x7d")

theorem describe_of_not_listable {key : PublicKey} (full : ¬ key.Listable) :
    key.describe = .error .capacityOverflow :=
  listing_of_not_listable _ full

theorem describeInFull_of_not_listable {key : PublicKey} (full : ¬ key.Listable) :
    key.describeInFull = .error .capacityOverflow :=
  listing_of_not_listable _ full

theorem Valid.describe_eq_ok_iff {key : PublicKey} (valid : key.Valid) (text : String) :
    key.describe = .ok text ↔ key.Listable ∧ text =
      withDimensions "WotsPlusPublicKey \x7b chain_count: " ", digest_size: " key
        (inlineChains key.blocks) := by
  simp only [describe, valid.listing_eq_ok_iff, withDimensions, inlineChains, String.append_assoc]

theorem Valid.describeInFull_eq_ok_iff {key : PublicKey} (valid : key.Valid) (text : String) :
    key.describeInFull = .ok text ↔ key.Listable ∧ text =
      withDimensions "WotsPlusPublicKey \x7b\n    chain_count: " ",\n    digest_size: " key
        (fullChains key.blocks) := by
  have line :
      (fun chain => "        " ++ (Text.quote (Hex.encode chain) ++ ",\n")) = chainOnLine := rfl
  simp only [describeInFull, valid.listing_eq_ok_iff, withDimensions, fullChains,
    String.append_assoc, line]

theorem endsDigits_append {text : String} {c : Char} {tail : List Char}
    (letters : text.toList = c :: tail) (other : c.isDigit = false) (rest : String) :
    Json.EndsDigits (text ++ rest).toList := by
  rw [String.toList_append, letters]
  exact other

theorem endsDigits_inlineChains (chains : List Bytes) :
    Json.EndsDigits (inlineChains chains).toList := by
  rw [inlineChains]
  exact endsDigits_append rfl rfl _

theorem endsDigits_fullChains (chains : List Bytes) :
    Json.EndsDigits (fullChains chains).toList := by
  rw [fullChains]
  exact endsDigits_append rfl rfl _

theorem withDimensions_unique {opening between : String} {key other : PublicKey}
    {rest left : String}
    (same : withDimensions opening between key rest = withDimensions opening between other left)
    {c : Char} {tail : List Char} (letters : between.toList = c :: tail) (solid : c.isDigit = false)
    (endsRest : Json.EndsDigits rest.toList) (endsLeft : Json.EndsDigits left.toList) :
    key.parameters = other.parameters ∧ rest = left := by
  -- A decimal number ends where the first character comes that is no digit.
  have number {m n : UInt64} {text shown : String} (ends : Json.EndsDigits text.toList)
      (endsShown : Json.EndsDigits shown.toList)
      (same : toString m ++ text = toString n ++ shown) : m = n ∧ text = shown := by
    have letters : Nat.toDigits 10 m.toNat ++ text.toList =
        Nat.toDigits 10 n.toNat ++ shown.toList := by
      simpa [toString] using congrArg String.toList same
    obtain ⟨value, rest⟩ := Json.Literal.toDigits_unique letters ends endsShown
    exact ⟨UInt64.toNat_inj.mp value, String.toList_inj.mp rest⟩
  have first := (String.append_right_inj opening).mp same
  obtain ⟨counts, second⟩ := number (endsDigits_append letters solid _)
    (endsDigits_append letters solid _) first
  obtain ⟨sizes, last⟩ := number endsRest endsLeft ((String.append_right_inj between).mp second)
  exact ⟨Parameters.mk.injEq .. ▸ ⟨counts, sizes⟩, last⟩

def quoteLetters (chain : Bytes) : List Char := (Text.quote (Hex.encode chain)).toList

theorem quoteLetters_injective : Function.Injective quoteLetters := by
  intro chain other same
  rw [quoteLetters, quoteLetters, Text.toList_quote_encode, Text.toList_quote_encode] at same
  have letters := List.append_cancel_right (List.cons.inj same).2
  exact Hex.encode_injective (String.toList_inj.mp letters)

theorem length_quoteLetters (chain : Bytes) :
    (quoteLetters chain).length = 2 * chain.length + 2 := by
  rw [quoteLetters, Text.toList_quote_encode, List.length_cons, List.length_append,
    String.length_toList, Hex.length_encode]
  rfl

def lineLetters (chain : Bytes) : List Char := (chainOnLine chain).toList

theorem lineLetters_eq (chain : Bytes) :
    lineLetters chain = "        ".toList ++ (quoteLetters chain ++ [',', '\n']) := by
  rw [lineLetters, chainOnLine, String.toList_append, String.toList_append]
  rfl

theorem lineLetters_injective : Function.Injective lineLetters := by
  intro chain other same
  rw [lineLetters_eq, lineLetters_eq] at same
  exact quoteLetters_injective (List.append_cancel_right (List.append_cancel_left same))

theorem length_lineLetters (chain : Bytes) :
    (lineLetters chain).length = 2 * chain.length + 12 := by
  rw [lineLetters_eq, List.length_append, List.length_append, length_quoteLetters]
  simp
  omega

theorem lengths_of_uniform {width : Nat} {chains : List Bytes}
    (uniform : Blocks.Uniform width chains)
    {letters : Bytes → List Char} {extra : Nat}
    (lengths : ∀ chain, (letters chain).length = 2 * chain.length + extra) :
    (chains.map letters).map List.length = List.replicate chains.length (2 * width + extra) := by
  rw [List.map_map, List.eq_replicate_iff]
  refine ⟨List.length_map .., fun length member => ?_⟩
  obtain ⟨chain, inside, rfl⟩ := List.mem_map.mp member
  rw [Function.comp_apply, lengths, uniform chain inside]

section Same

variable {key other : PublicKey} (valid : key.Valid) (validOther : other.Valid)
  (params : key.parameters = other.parameters)

include valid validOther params

theorem lengths_of_parameters {letters : Bytes → List Char} {extra : Nat}
    (lengths : ∀ chain, (letters chain).length = 2 * chain.length + extra) :
    (key.blocks.map letters).map List.length = (other.blocks.map letters).map List.length := by
  obtain ⟨counts, sizes⟩ := Parameters.mk.inj params
  rw [lengths_of_uniform valid.blocks_uniform lengths,
    lengths_of_uniform validOther.blocks_uniform lengths, length_blocks, length_blocks, counts,
    sizes]

theorem inlineChains_unique (same : inlineChains key.blocks = inlineChains other.blocks) :
    key.blocks = other.blocks := by
  have inner := (String.append_left_inj _).mp ((String.append_right_inj _).mp same)
  have letters := congrArg String.toList inner
  simp only [String.toList_intercalate, List.map_map] at letters
  have pieces : key.blocks.map quoteLetters = other.blocks.map quoteLetters :=
    intercalate_unique (lengths_of_parameters valid validOther params length_quoteLetters) letters
  exact (List.map_inj_right fun _ _ found => quoteLetters_injective found).mp pieces

theorem fullChains_unique (same : fullChains key.blocks = fullChains other.blocks) :
    key.blocks = other.blocks := by
  have count : key.blocks.length = other.blocks.length := by
    rw [length_blocks, length_blocks, (Parameters.mk.inj params).1]
  have inner := (String.append_left_inj _).mp ((String.append_right_inj _).mp same)
  cases first : key.blocks with
  | nil =>
    rw [first] at count
    exact (List.eq_nil_of_length_eq_zero count.symm).symm
  | cons chain rest =>
    cases second : other.blocks with
    | nil =>
      rw [first, second] at count
      cases count
    | cons found tail =>
      rw [first, second] at inner
      have joined := (String.append_right_inj _).mp ((String.append_left_inj _).mp inner)
      have letters := congrArg String.toList joined
      rw [← first, ← second] at letters ⊢
      simp only [String.toList_join, List.flatMap_map] at letters
      have pieces : key.blocks.map lineLetters = other.blocks.map lineLetters :=
        List.eq_iff_flatten_eq.mpr
          ⟨letters, lengths_of_parameters valid validOther params length_lineLetters⟩
      exact (List.map_inj_right fun _ _ found => lineLetters_injective found).mp pieces

theorem eq_of_blocks (same : key.blocks = other.blocks) : key = other := by
  obtain ⟨counts, sizes⟩ := Parameters.mk.inj params
  rw [PublicKey.mk.injEq]
  exact ⟨by rw [← valid.flatten_blocks, same, validOther.flatten_blocks], counts, sizes⟩

end Same

theorem describe_unique {key other : PublicKey} (valid : key.Valid) (validOther : other.Valid)
    {text : String} (shown : key.describe = .ok text) (shownOther : other.describe = .ok text) :
    key = other := by
  have same := ((valid.describe_eq_ok_iff text).mp shown).2.symm.trans
    ((validOther.describe_eq_ok_iff text).mp shownOther).2
  obtain ⟨params, chains⟩ := withDimensions_unique same rfl rfl
    (endsDigits_inlineChains _) (endsDigits_inlineChains _)
  exact eq_of_blocks valid validOther params (inlineChains_unique valid validOther params chains)

theorem describeInFull_unique {key other : PublicKey} (valid : key.Valid) (validOther : other.Valid)
    {text : String} (shown : key.describeInFull = .ok text)
    (shownOther : other.describeInFull = .ok text) : key = other := by
  have same := ((valid.describeInFull_eq_ok_iff text).mp shown).2.symm.trans
    ((validOther.describeInFull_eq_ok_iff text).mp shownOther).2
  obtain ⟨params, chains⟩ := withDimensions_unique same rfl rfl
    (endsDigits_fullChains _) (endsDigits_fullChains _)
  exact eq_of_blocks valid validOther params (fullChains_unique valid validOther params chains)

end PublicKey

end Winternitz
