import Winternitz.Document
import Winternitz.Proofs.Construction

set_option autoImplicit false

namespace Winternitz.Document

open PublicKey

def outcome (verdict : Checked Verdict) : Checked (Except DocumentError PublicKey) :=
  verdict.map Logged.result

def keyOutcome (verdict : Checked PublicKey.Verdict) : Checked (Except DocumentError PublicKey) :=
  verdict.map fun verdict => verdict.result.mapError .key

def Present (document : Document) (text : String) : Prop :=
  ∃ chains, document.chains = some chains ∧ some text ∈ chains

def spelled (text : String) : Bytes :=
  match decodeChain text with
  | .ok bytes => bytes
  | .error _ => []

theorem spelled_of_decodes {text : String} {bytes : Bytes}
    (decodes : decodeChain text = .ok bytes) : spelled text = bytes := by
  simp [spelled, decodes]

def spelledChains (document : Document) : Option (List (Option Bytes)) :=
  document.chains.map fun chains => chains.map (Option.map spelled)

structure FirstUndecodable (texts : List String) (index : Nat) (source : Hex.DecodeError) :
    Prop where
  refused : ∃ text, texts[index]? = some text ∧ decodeChain text = .error source
  before : ∀ earlier < index,
    ∃ text bytes, texts[earlier]? = some text ∧ decodeChain text = .ok bytes

theorem firstUndecodable_zero {text : String} {rest : List String} {source : Hex.DecodeError}
    (refused : decodeChain text = .error source) : FirstUndecodable (text :: rest) 0 source :=
  ⟨⟨text, rfl, refused⟩, fun _ below => absurd below (Nat.not_lt_zero _)⟩

theorem FirstUndecodable.succ {text : String} {bytes : Bytes} {rest : List String} {index : Nat}
    {source : Hex.DecodeError} (decodes : decodeChain text = .ok bytes)
    (first : FirstUndecodable rest index source) :
    FirstUndecodable (text :: rest) (index + 1) source := by
  refine ⟨by simpa using first.refused, fun earlier below => ?_⟩
  cases earlier with
  | zero => exact ⟨text, bytes, rfl, decodes⟩
  | succ earlier => simpa using first.before earlier (Nat.lt_of_succ_lt_succ below)

theorem decodeChains_of_decodes (index : Nat) {texts : List String}
    (decodes : ∀ text ∈ texts, ∃ bytes, decodeChain text = .ok bytes) :
    decodeChains index texts = .ok (texts.map spelled) := by
  induction texts generalizing index with
  | nil => rfl
  | cons text rest ih =>
    obtain ⟨bytes, head⟩ := decodes text (by simp)
    have tail := ih (index + 1) fun other member => decodes other (by simp [member])
    simp only [decodeChains, head, tail, List.map_cons, spelled_of_decodes head]
    rfl

theorem decodeChains_of_undecodable (index : Nat) {texts : List String}
    (refused : ∃ text ∈ texts, ∃ source, decodeChain text = .error source) :
    ∃ offset source, FirstUndecodable texts offset source ∧
      decodeChains index texts = .error (.hex (index + offset) source) := by
  induction texts generalizing index with
  | nil => simp at refused
  | cons text rest ih =>
    cases head : decodeChain text with
    | error source => exact ⟨0, source, firstUndecodable_zero head, by simp [decodeChains, head]⟩
    | ok bytes =>
      have later : ∃ text ∈ rest, ∃ source, decodeChain text = .error source := by
        obtain ⟨other, member, source, bad⟩ := refused
        rcases List.mem_cons.mp member with rfl | member
        · simp [head] at bad
        · exact ⟨other, member, source, bad⟩
      obtain ⟨offset, source, first, decoded⟩ := ih (index + 1) later
      refine ⟨offset + 1, source, first.succ head, ?_⟩
      simp only [decodeChains, head, decoded, Except.map]
      rw [Nat.add_assoc, Nat.add_comm 1 offset]

theorem decodeChains_cases (index : Nat) (texts : List String) :
    (∃ offset source, FirstUndecodable texts offset source ∧
      decodeChains index texts = .error (.hex (index + offset) source)) ∨
    decodeChains index texts = .ok (texts.map spelled) := by
  by_cases refused : ∃ text ∈ texts, ∃ source, decodeChain text = .error source
  next => exact .inl (decodeChains_of_undecodable index refused)
  next =>
    right
    apply decodeChains_of_decodes
    intro text member
    cases head : decodeChain text with
    | error source => exact absurd ⟨text, member, source, head⟩ refused
    | ok bytes => exact ⟨bytes, rfl⟩

theorem exists_texts {chains : List (Option String)} (full : none ∉ chains) :
    ∃ texts : List String, chains = texts.map some := by
  cases found : allPresent chains with
  | none => exact absurd ((allPresent_eq_none_iff chains).mp found) full
  | some texts => exact ⟨texts, (allPresent_eq_some_iff chains texts).mp found⟩

theorem toKeyWith_of_no_params (document : Document) :
    document.toKeyWith none = .ok ⟨.error (.key .paramsAbsent), [document.decodingEvent]⟩ := rfl

section Course

variable {document : Document} (params : Parameters)

theorem toKeyWith_of_no_list (absent : document.chains = none) :
    document.toKeyWith (some params) =
      .ok ⟨.error (.key .keyAbsent), [document.decodingEvent]⟩ := by
  simp only [toKeyWith, absent]
  rfl

theorem toKeyWith_of_null {chains : List (Option String)} (given : document.chains = some chains)
    (null : none ∈ chains) :
    document.toKeyWith (some params) =
      .ok ⟨.error (.key .elementAbsent), [document.decodingEvent]⟩ := by
  have missing := (allPresent_eq_none_iff chains).mpr null
  simp only [toKeyWith, given, missing]
  rfl

variable {texts : List String} (given : document.chains = some (texts.map some))

include given

theorem toKeyWith_of_undecodable {error : DocumentError}
    (bad : decodeChains 0 texts = .error error) :
    document.toKeyWith (some params) = .ok ⟨.error error, [document.decodingEvent]⟩ := by
  simp only [toKeyWith, given, allPresent_map_some, bad]
  rfl

theorem toKeyWith_of_decoded {decoded : List Bytes} (read : decodeChains 0 texts = .ok decoded) :
    document.toKeyWith (some params) =
      (fromChains params decoded).map fun verdict =>
        (verdictOnChains verdict).after document.decodingEvent := by
  simp only [toKeyWith, given, allPresent_map_some, read, PublicKey.new]
  cases fromChains params decoded <;> rfl

end Course

theorem outcome_toKeyWith_none (document : Document) :
    outcome (document.toKeyWith none) = .ok (.error (.key .paramsAbsent)) := rfl

section Outcome

variable {document : Document} (params : Parameters)

theorem outcome_toKeyWith_of_no_list (absent : document.chains = none) :
    outcome (document.toKeyWith (some params)) = .ok (.error (.key .keyAbsent)) := by
  rw [toKeyWith_of_no_list params absent]
  rfl

theorem outcome_toKeyWith_of_null {chains : List (Option String)}
    (given : document.chains = some chains) (null : none ∈ chains) :
    outcome (document.toKeyWith (some params)) = .ok (.error (.key .elementAbsent)) := by
  rw [toKeyWith_of_null params given null]
  rfl

variable {texts : List String} (given : document.chains = some (texts.map some))

include given

theorem outcome_toKeyWith_of_undecodable {error : DocumentError}
    (bad : decodeChains 0 texts = .error error) :
    outcome (document.toKeyWith (some params)) = .ok (.error error) := by
  rw [toKeyWith_of_undecodable params given bad]
  rfl

theorem outcome_toKeyWith_of_decoded {decoded : List Bytes}
    (read : decodeChains 0 texts = .ok decoded) :
    outcome (document.toKeyWith (some params)) = keyOutcome (fromChains params decoded) := by
  rw [toKeyWith_of_decoded params given read]
  cases fromChains params decoded <;> rfl

end Outcome

theorem keyOutcome_create_none (chains : Option (List (Option Bytes))) :
    keyOutcome (create none chains) = .ok (.error (.key .paramsAbsent)) := rfl

theorem keyOutcome_create_of_no_list (params : Parameters) :
    keyOutcome (create (some params) none) = .ok (.error (.key .keyAbsent)) := rfl

theorem keyOutcome_create_of_null (params : Parameters) {chains : List (Option Bytes)}
    (null : none ∈ chains) :
    keyOutcome (create (some params) (some chains)) = .ok (.error (.key .elementAbsent)) := by
  have missing := (allPresent_eq_none_iff chains).mpr null
  simp only [create, missing, keyOutcome, reject, Except.map]
  rfl

theorem outcome_eq_create_of_no_list {document : Document} (params : Parameters)
    (absent : document.chains = none) :
    outcome (document.toKeyWith (some params)) =
      keyOutcome (create (some params) document.spelledChains) := by
  rw [outcome_toKeyWith_of_no_list params absent, spelledChains, absent]
  exact (keyOutcome_create_of_no_list params).symm

theorem outcome_eq_create_of_null {document : Document} (params : Parameters)
    {chains : List (Option String)} (given : document.chains = some chains) (null : none ∈ chains) :
    outcome (document.toKeyWith (some params)) =
      keyOutcome (create (some params) document.spelledChains) := by
  have spelledNull : none ∈ chains.map (Option.map spelled) := List.mem_map.mpr ⟨none, null, rfl⟩
  rw [outcome_toKeyWith_of_null params given null, spelledChains, given]
  exact (keyOutcome_create_of_null params spelledNull).symm

theorem outcome_eq_create_of_decodes {document : Document} (params : Parameters)
    {texts : List String} (given : document.chains = some (texts.map some))
    (decodes : ∀ text ∈ texts, ∃ bytes, decodeChain text = .ok bytes) :
    outcome (document.toKeyWith (some params)) =
      keyOutcome (create (some params) document.spelledChains) := by
  have every : document.spelledChains = some ((texts.map spelled).map some) := by
    simp [spelledChains, given]
  rw [outcome_toKeyWith_of_decoded params given (decodeChains_of_decodes 0 decodes), every,
    create_of_all_present]

/-- Converting a document follows the checks of creating a key of what its chains spell. A chain
that spells nothing is reported after every absence and before every wrong shape. -/
theorem toKeyWith_follows_create (document : Document) (params : Option Parameters) :
    document.toKey = document.toKeyWith document.parameters ∧
    (∀ recorded, ({ document with parameters := recorded } : Document).toKeyWith params =
      document.toKeyWith params) ∧
    ((∀ text, document.Present text → ∃ bytes, decodeChain text = .ok bytes) →
      outcome (document.toKeyWith params) = keyOutcome (create params document.spelledChains)) ∧
    (params = none →
      outcome (document.toKeyWith params) = keyOutcome (create params document.spelledChains) ∧
      outcome (document.toKeyWith params) = .ok (.error (.key .paramsAbsent))) ∧
    (params ≠ none → document.chains = none →
      outcome (document.toKeyWith params) = keyOutcome (create params document.spelledChains) ∧
      outcome (document.toKeyWith params) = .ok (.error (.key .keyAbsent))) ∧
    (∀ chains, params ≠ none → document.chains = some chains → none ∈ chains →
      outcome (document.toKeyWith params) = keyOutcome (create params document.spelledChains) ∧
      outcome (document.toKeyWith params) = .ok (.error (.key .elementAbsent))) ∧
    (∀ texts : List String, params ≠ none → document.chains = some (texts.map some) →
      (∃ text ∈ texts, ∃ source, decodeChain text = .error source) →
      ∃ index source, FirstUndecodable texts index source ∧
        outcome (document.toKeyWith params) = .ok (.error (.hex index source))) := by
  refine ⟨rfl, fun _ => rfl, ?decodes, ?noParams, ?noList, ?null, ?undecodable⟩
  case decodes =>
    intro decodes
    cases params with
    | none => rfl
    | some params =>
      cases given : document.chains with
      | none => exact outcome_eq_create_of_no_list params given
      | some chains =>
        by_cases null : none ∈ chains
        · exact outcome_eq_create_of_null params given null
        · obtain ⟨texts, rfl⟩ := exists_texts null
          refine outcome_eq_create_of_decodes params given fun text member => ?_
          exact decodes text ⟨_, given, List.mem_map_of_mem member⟩
  case noParams =>
    rintro rfl
    have absent := outcome_toKeyWith_none document
    exact ⟨absent.trans (keyOutcome_create_none _).symm, absent⟩
  case noList =>
    intro some absent
    obtain ⟨params, rfl⟩ := Option.ne_none_iff_exists'.mp some
    exact ⟨outcome_eq_create_of_no_list params absent, outcome_toKeyWith_of_no_list params absent⟩
  case null =>
    intro chains some given null
    obtain ⟨params, rfl⟩ := Option.ne_none_iff_exists'.mp some
    exact ⟨outcome_eq_create_of_null params given null, outcome_toKeyWith_of_null params given null⟩
  case undecodable =>
    intro texts some given refused
    obtain ⟨params, rfl⟩ := Option.ne_none_iff_exists'.mp some
    obtain ⟨index, source, first, decoded⟩ := decodeChains_of_undecodable 0 refused
    rw [Nat.zero_add] at decoded
    exact ⟨index, source, first, outcome_toKeyWith_of_undecodable params given decoded⟩

theorem toKeyWith_of_two_undecodable :
    ∃ index source, FirstUndecodable ["00", "0g", "x"] index source ∧
      outcome ((⟨none, some [some "00", some "0g", some "x"]⟩ : Document).toKeyWith (some ⟨7, 2⟩)) =
        .ok (.error (.hex index source)) := by
  have refused : ∃ text ∈ ["00", "0g", "x"], ∃ source, decodeChain text = .error source :=
    ⟨"x", by simp, .oddLength, rfl⟩
  exact (toKeyWith_follows_create _ _).2.2.2.2.2.2 _ (by simp) rfl refused

end Winternitz.Document
