import Winternitz.Proofs.Attempts

set_option autoImplicit false

namespace Winternitz

/-- What a log shows of an event: its level, what it says, and the fields that it names. -/
inductive Event.Reads : Event → Level → String → List (String × FieldValue) → Prop
  | rejected (error : KeyError) (params : Parameters) :
    Reads (.rejected error params) .debug "rejected WOTS+ public key"
      [("reason", .text error.reason), ("chain_count", .number params.chainCount.toNat),
        ("digest_size", .number params.digestSize.toNat)]
  | constructed (params : Parameters) :
    Reads (.constructed params) .trace "constructed WOTS+ public key"
      [("chain_count", .number params.chainCount.toNat),
        ("digest_size", .number params.digestSize.toNat)]
  | decodingList (count : Nat) :
    Reads (.decoding (some count)) .debug "decoding WOTS+ public key document"
      [("chains", .number count)]
  | decodingNothing : Reads (.decoding none) .debug "decoding WOTS+ public key document" []

theorem Event.reads (event : Event) : event.Reads event.level event.message event.fields := by
  cases event with
  | rejected error params => exact .rejected error params
  | constructed params => exact .constructed params
  | decoding chains =>
    cases chains with
    | none => exact .decodingNothing
    | some count => exact .decodingList count

namespace Attempt

def rejections (events : List Event) : List KeyError :=
  events.filterMap fun
    | .rejected error _ => some error
    | _ => none

def constructions (events : List Event) : List Parameters :=
  events.filterMap fun
    | .constructed params => some params
    | _ => none

theorem log_of_format (attempt : Attempt) {error : KeyError}
    (format : error.kind = .invalidFormat) :
    attempt.log (.error (.key error)) =
      attempt.opening ++ [.rejected error (attempt.params.getD ⟨0, 0⟩)] := by
  cases attempt <;> simp [log, report, conversionLog, format, opening, params]

theorem log_of_joined {attempt : Attempt} {chains : List Bytes}
    (gathered : attempt.chains? = some chains) (key : PublicKey) :
    attempt.log (.ok key) = attempt.opening ++ [.constructed key.parameters] := by
  cases attempt with
  | fromFlat => cases gathered
  | new | fromChains | create | toKey | toKeyWith => rfl

structure Recorded (attempt : Attempt) (verdict : Document.Verdict) : Prop where
  events : verdict.events = attempt.log verdict.result
  noText : ∀ error, verdict.result ≠ .error (.json error)

theorem recorded_fromFlat (params : Parameters) (bytes : Bytes) :
    (fromFlat params bytes).Recorded
      (Document.verdictOnChains (PublicKey.fromFlat params bytes)) := by
  by_cases size : params.product = bytes.length ∧ bytes.length < UInt64.size
  · rw [PublicKey.fromFlat_of_length size.1 size.2]
    exact ⟨rfl, nofun⟩
  · rw [PublicKey.fromFlat_of_wrong fun product same => size ⟨same, same ▸ product⟩]
    exact ⟨rfl, nofun⟩

theorem recorded {attempt : Attempt} {verdict : Document.Verdict}
    (answered : attempt.verdict = .ok verdict) : attempt.Recorded verdict := by
  cases attempt.course with
  | joins params chains given gathered answers =>
    obtain ⟨inner, joined, rfl⟩ := map_eq_ok (answers.symm.trans answered)
    rcases PublicKey.fromChains_cases params chains with
      ⟨-, error, format, rejected⟩ | ⟨-, -, accepted⟩ | ⟨fault, -, -, stopped⟩
    · cases rejected.symm.trans joined
      have log := attempt.log_of_format format
      rw [given, Option.getD_some] at log
      exact ⟨log.symm, nofun⟩
    · cases accepted.symm.trans joined
      exact ⟨(log_of_joined gathered _).symm, nofun⟩
    · cases stopped.symm.trans joined
  | takes params bytes same =>
    subst same
    cases answered
    exact recorded_fromFlat params bytes
  | ends error noText apart answers =>
    cases answers.symm.trans answered
    refine ⟨rfl, fun cause same => noText cause ?_⟩
    simpa using same

theorem rejections_opening (attempt : Attempt) (rest : List Event) :
    rejections (attempt.opening ++ rest) = rejections rest := by
  cases attempt <;> rfl

theorem constructions_log (attempt : Attempt) (error : DocumentError) :
    constructions (attempt.log (.error error)) = [] := by
  cases error with
  | key error =>
    by_cases format : error.kind = .invalidFormat <;> cases attempt <;>
      simp [log, report, conversionLog, format, constructions, Document.decodingEvent]
  | json error | hex index source => cases attempt <;> rfl

end Attempt

end Winternitz
