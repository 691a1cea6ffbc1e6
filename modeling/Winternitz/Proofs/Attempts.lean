import Winternitz.Proofs.Conversion
import Winternitz.Proofs.Letters

set_option autoImplicit false

namespace Winternitz

open PublicKey (Makes Matches)

theorem map_eq_ok {α β : Type} {f : α → β} {result : Checked α} {value : β}
    (done : result.map f = .ok value) : ∃ found, result = .ok found ∧ f found = value := by
  cases result with
  | error fault => cases done
  | ok found => exact ⟨found, rfl, Except.ok.inj done⟩

inductive Attempt
  | new (params : Parameters) (chains : List Bytes)
  | fromChains (params : Parameters) (chains : List Bytes)
  | create (params : Option Parameters) (chains : Option (List (Option Bytes)))
  | fromFlat (params : Parameters) (bytes : Bytes)
  | toKey (document : Document)
  | toKeyWith (document : Document) (params : Option Parameters)

-- The chains of a document as bytes, once all of them are there and are hex.
def Document.decoded? (document : Document) : Option (List Bytes) := do
  let chains ← document.chains
  let texts ← PublicKey.allPresent chains
  (decodeChains 0 texts).toOption

namespace Attempt

def verdict : Attempt → Checked Document.Verdict
  | new params chains => (PublicKey.new params chains).map Document.verdictOnChains
  | fromChains params chains => (PublicKey.fromChains params chains).map Document.verdictOnChains
  | create params chains => (PublicKey.create params chains).map Document.verdictOnChains
  | fromFlat params bytes => .ok (Document.verdictOnChains (PublicKey.fromFlat params bytes))
  | toKey document => document.toKey
  | toKeyWith document params => document.toKeyWith params

def params : Attempt → Option Parameters
  | new params _ | fromChains params _ | fromFlat params _ => some params
  | create params _ | toKeyWith _ params => params
  | toKey document => document.parameters

def chains? : Attempt → Option (List Bytes)
  | new _ chains | fromChains _ chains => some chains
  | create _ chains => chains.bind PublicKey.allPresent
  | fromFlat _ _ => none
  | toKey document | toKeyWith document _ => document.decoded?

-- The event of a result: that some dimensions were refused, or that a key was constructed.
def report (params : Parameters) : Except DocumentError PublicKey → List Event
  | .ok key => [.constructed key.parameters]
  | .error (.key error) => [.rejected error params]
  | .error _ => []

-- A conversion says first how many chains it decodes, and reports no absence.
def conversionLog (document : Document) (params : Option Parameters) :
    Except DocumentError PublicKey → List Event
  | .error (.key error) =>
    document.decodingEvent ::
      if error.kind = .invalidFormat then [.rejected error (params.getD ⟨0, 0⟩)] else []
  | result => document.decodingEvent :: report (params.getD ⟨0, 0⟩) result

def log : Attempt → Except DocumentError PublicKey → List Event
  | new params _, result | fromChains params _, result => report params result
  | create params _, result => report (params.getD ⟨0, 0⟩) result
  | fromFlat _ _, .ok _ => []
  | fromFlat params _, .error error => report params (.error error)
  | toKey document, result => conversionLog document document.parameters result
  | toKeyWith document params, result => conversionLog document params result

def opening : Attempt → List Event
  | toKey document | toKeyWith document _ => [document.decodingEvent]
  | _ => []

def conclude (attempt : Attempt) (verdict : PublicKey.Verdict) : Document.Verdict :=
  ⟨verdict.result.mapError .key, attempt.opening ++ verdict.events⟩

-- An attempt joins its chains, or takes its bytes as they are, or ends at what is absent or bad.
inductive Course (attempt : Attempt) : Prop
  | joins (params : Parameters) (chains : List Bytes) (given : attempt.params = some params)
      (gathered : attempt.chains? = some chains)
      (answers : attempt.verdict = (PublicKey.fromChains params chains).map attempt.conclude)
  | takes (params : Parameters) (bytes : Bytes) (same : attempt = .fromFlat params bytes)
  | ends (error : DocumentError) (noText : ∀ cause, error ≠ .json cause)
      (apart : attempt.params = none ∨ attempt.chains? = none)
      (answers : attempt.verdict = .ok ⟨.error error, attempt.log (.error error)⟩)

end Attempt

namespace Document

theorem hex_of_decodeChains {texts : List String} {index : Nat} {error : DocumentError}
    (bad : decodeChains index texts = .error error) : ∃ place source, error = .hex place source := by
  rcases decodeChains_cases index texts with ⟨offset, source, -, found⟩ | decoded
  · cases found.symm.trans bad
    exact ⟨_, source, rfl⟩
  · cases decoded.symm.trans bad

theorem decoded?_of_null {document : Document} {chains : List (Option String)}
    (given : document.chains = some chains) (null : none ∈ chains) : document.decoded? = none := by
  have missing := (PublicKey.allPresent_eq_none_iff chains).mpr null
  simp [decoded?, given, missing]

theorem decoded?_of_texts {document : Document} {texts : List String}
    (given : document.chains = some (texts.map some)) :
    document.decoded? = (decodeChains 0 texts).toOption := by
  simp [decoded?, given]

theorem course_toKeyWith (document : Document) (params : Option Parameters) :
    (Attempt.toKeyWith document params).Course := by
  match params, given : document.chains with
  | none, _ => exact .ends (.key .paramsAbsent) nofun (.inl rfl) (toKeyWith_of_no_params document)
  | some params, none =>
    exact .ends (.key .keyAbsent) nofun (.inr (by simp [Attempt.chains?, decoded?, given]))
      (toKeyWith_of_no_list params given)
  | some params, some chains =>
    by_cases null : none ∈ chains
    next =>
      exact .ends (.key .elementAbsent) nofun (.inr (decoded?_of_null given null))
        (toKeyWith_of_null params given null)
    next =>
      obtain ⟨texts, rfl⟩ := exists_texts null
      have gathered := decoded?_of_texts given
      cases read : decodeChains 0 texts with
      | error error =>
        obtain ⟨index, source, rfl⟩ := hex_of_decodeChains read
        rw [read] at gathered
        exact .ends (.hex index source) nofun (.inr gathered)
          (toKeyWith_of_undecodable params given read)
      | ok decoded =>
        rw [read] at gathered
        exact .joins params decoded rfl gathered (toKeyWith_of_decoded params given read)

end Document

namespace Attempt

theorem course_create (params : Option Parameters) (chains : Option (List (Option Bytes))) :
    (create params chains).Course := by
  match params, chains with
  | none, _ => exact .ends (.key .paramsAbsent) nofun (.inl rfl) rfl
  | some params, none => exact .ends (.key .keyAbsent) nofun (.inr rfl) rfl
  | some params, some list =>
    cases found : PublicKey.allPresent list with
    | none =>
      refine .ends (.key .elementAbsent) nofun (.inr found) ?_
      rw [verdict, PublicKey.create, found]
      rfl
    | some present =>
      refine .joins params present rfl found ?_
      rw [verdict, PublicKey.create, found]
      rfl

theorem course (attempt : Attempt) : attempt.Course := by
  cases attempt with
  | new params chains | fromChains params chains => exact .joins params chains rfl rfl rfl
  | create params chains => exact course_create params chains
  | fromFlat params bytes => exact .takes params bytes rfl
  | toKey document =>
    cases document.course_toKeyWith document.parameters with
    | joins params chains given gathered answers =>
      exact .joins params chains given gathered answers
    | takes params bytes same => cases same
    | ends error noText apart answers => exact .ends error noText apart answers
  | toKeyWith document params => exact document.course_toKeyWith params

theorem verdict_eq_error_iff (attempt : Attempt) (fault : Fault) :
    attempt.verdict = .error fault ↔
      ∃ params chains, attempt.params = some params ∧ attempt.chains? = some chains ∧
        Matches params chains ∧ Size.Stops chains.flatten.length fault := by
  cases attempt.course with
  | joins params chains given gathered answers =>
    have stops : attempt.verdict = .error fault ↔
        PublicKey.fromChains params chains = .error fault := by
      rw [answers]
      cases PublicKey.fromChains params chains <;> simp [Except.map]
    rw [stops, PublicKey.fromChains_eq_error_iff, given, gathered]
    simp
  | takes params bytes same =>
    subst same
    simp [verdict, chains?]
  | ends error noText apart answers =>
    rw [answers]
    rcases apart with absent | absent <;> simp [absent]

def weight : Attempt → Nat
  | new _ chains | fromChains _ chains => chains.flatten.length
  | create _ chains => PublicKey.weight chains
  | fromFlat _ bytes => bytes.length
  | toKey document | toKeyWith document _ => document.weight

/-- One buffer has room for all that is handed over, as it has for whatever lies in memory. -/
def Fits (attempt : Attempt) : Prop :=
  attempt.weight < Size.bufferLimit

instance (attempt : Attempt) : Decidable attempt.Fits :=
  inferInstanceAs (Decidable (_ < _))

theorem length_le_weight {attempt : Attempt} {chains : List Bytes}
    (gathered : attempt.chains? = some chains) : chains.flatten.length ≤ attempt.weight := by
  have spelled (document : Document) (decoded : document.decoded? = some chains) :
      chains.flatten.length ≤ document.weight := by
    simp only [Document.decoded?, Option.bind_eq_bind, Option.bind_eq_some_iff] at decoded
    obtain ⟨list, given, texts, present, read⟩ := decoded
    obtain rfl := (PublicKey.allPresent_eq_some_iff list texts).mp present
    cases found : Document.decodeChains 0 texts with
    | error error => simp [found, Except.toOption] at read
    | ok bytes =>
      simp only [found, Except.toOption, Option.some.injEq] at read
      exact read ▸ Document.length_le_weight given found
  cases attempt with
  | new params found | fromChains params found =>
    cases gathered
    exact Nat.le_refl _
  | create params list =>
    obtain ⟨parts, rfl, present⟩ := Option.bind_eq_some_iff.mp gathered
    obtain rfl := (PublicKey.allPresent_eq_some_iff parts chains).mp present
    exact Nat.le_of_eq (PublicKey.weight_map_some chains).symm
  | fromFlat params bytes => cases gathered
  | toKey document | toKeyWith document params => exact spelled document gathered

theorem full_of_error {attempt : Attempt} {fault : Fault}
    (stopped : attempt.verdict = .error fault) :
    fault = .multiplyOverflow ∧ UInt64.size ≤ attempt.weight ∨
      fault = .capacityOverflow ∧ Size.bufferLimit ≤ attempt.weight := by
  obtain ⟨params, chains, -, gathered, -, stops⟩ := (verdict_eq_error_iff attempt fault).mp stopped
  have handed := length_le_weight gathered
  rcases stops with ⟨rfl, large⟩ | ⟨rfl, full, -⟩
  · exact .inl ⟨rfl, Nat.le_trans large handed⟩
  · exact .inr ⟨rfl, Nat.le_trans full handed⟩

theorem answers_or_full {attempt : Attempt} (handed : attempt.weight < UInt64.size) :
    (∃ verdict, attempt.verdict = .ok verdict) ∨
      Size.bufferLimit ≤ attempt.weight ∧ attempt.verdict = .error .capacityOverflow := by
  cases answered : attempt.verdict with
  | ok verdict => exact .inl ⟨verdict, rfl⟩
  | error fault =>
    rcases full_of_error answered with ⟨-, large⟩ | ⟨rfl, full⟩
    · exact absurd handed (Nat.not_lt_of_le large)
    · exact .inr ⟨full, rfl⟩

theorem answers_of_fits {attempt : Attempt} (fits : attempt.Fits) :
    ∃ verdict, attempt.verdict = .ok verdict := by
  rcases answers_or_full (Nat.lt_trans fits Size.bufferLimit_lt) with answered | ⟨full, -⟩
  · exact answered
  · exact absurd fits (Nat.not_lt_of_le full)

theorem key_of_verdict {attempt : Attempt} {verdict : Document.Verdict} {key : PublicKey}
    (answered : attempt.verdict = .ok verdict) (made : verdict.result = .ok key) :
    attempt.params = some key.parameters ∧ key.Valid ∧ (attempt.Fits → key.Held) := by
  cases attempt.course with
  | joins params chains given gathered answers =>
    obtain ⟨⟨result, events⟩, joined, rfl⟩ := map_eq_ok (answers.symm.trans answered)
    obtain rfl : result = .ok key := Json.mapError_eq_ok.mp made
    have makes : Makes (PublicKey.fromChains params chains) key := ⟨events, joined⟩
    have ⟨valid, held⟩ := PublicKey.valid_of_fromChains makes
    obtain ⟨-, -, rfl⟩ := (PublicKey.fromChains_makes_iff params chains key).mp makes
    exact ⟨given, valid, fun _ => held⟩
  | takes params bytes same =>
    subst same
    cases answered
    have makes : Makes (.ok (PublicKey.fromFlat params bytes)) key := by
      refine ⟨(PublicKey.fromFlat params bytes).events, ?_⟩
      rw [← Json.mapError_eq_ok.mp made]
    have valid := PublicKey.valid_of_fromFlat makes
    obtain ⟨-, -, rfl⟩ := (PublicKey.fromFlat_makes_iff params bytes key).mp makes
    exact ⟨rfl, valid, fun fits => fits⟩
  | ends error noText apart answers =>
    cases answers.symm.trans answered
    cases made

end Attempt

/-- A key that some attempt brings, in which nothing is handed over but what lies in memory. -/
def Built (key : PublicKey) : Prop :=
  ∃ attempt verdict, Attempt.Fits attempt ∧ attempt.verdict = .ok verdict ∧
    verdict.result = .ok key

theorem Built.valid {key : PublicKey} (built : Built key) : key.Valid := by
  obtain ⟨attempt, verdict, -, answered, made⟩ := built
  exact (Attempt.key_of_verdict answered made).2.1

theorem Built.held {key : PublicKey} (built : Built key) : key.Held := by
  obtain ⟨attempt, verdict, fits, answered, made⟩ := built
  exact (Attempt.key_of_verdict answered made).2.2 fits

end Winternitz
