import Winternitz.Workbench
import Winternitz.Proofs.Attempts
import Winternitz.Proofs.Representations
import Winternitz.Proofs.RoundTrip

set_option autoImplicit false

namespace Winternitz

/-- Sizes can count what is handed over. Letters get twice the room of bytes, since the document of
a key has two to a byte. -/
def Command.Fits : Command → Prop
  | .new _ _ chains => chains.flatten.length < UInt64.size
  | .fromChains _ _ chains => chains.flatten.length < UInt64.size
  | .create _ _ chains => PublicKey.weight chains < UInt64.size
  | .putDocument _ document => document.weight < UInt64.size
  | .readDocument _ text => text.length < 2 * UInt64.size
  | _ => True

namespace Workbench

/-- A command has more to lay out at once than a buffer holds: chains to join, or a list of all
chains of a key. -/
def Oversized (bench : Workbench) : Command → Prop
  | .new _ _ chains => Size.bufferLimit ≤ chains.flatten.length
  | .fromChains _ _ chains => Size.bufferLimit ≤ chains.flatten.length
  | .create _ _ chains => Size.bufferLimit ≤ PublicKey.weight chains
  | .keyOfDocument name _ | .keyOfDocumentWith name _ _ =>
    ∃ document, bench.document name = .ok document ∧ Size.bufferLimit ≤ document.weight
  | .documentOfKey name _ | .maskChains name _ | .describe name =>
    ∃ key, bench.key name = .ok key ∧ ¬ key.Listable
  | _ => False

structure Sound (bench : Workbench) : Prop where
  keys : ∀ entry ∈ bench.keys, entry.2.Valid
  documents : ∀ entry ∈ bench.documents, entry.2.weight < UInt64.size

theorem empty_sound : empty.Sound where
  keys := by simp [empty]
  documents := by simp [empty]

theorem Sound.putKey {bench : Workbench} (sound : bench.Sound) (name : String) {key : PublicKey}
    (valid : key.Valid) : (bench.putKey name key).Sound where
  keys := List.forall_mem_cons.mpr ⟨valid, sound.keys⟩
  documents := sound.documents

theorem Sound.putDocument {bench : Workbench} (sound : bench.Sound) (name : String)
    {document : Document} (small : document.weight < UInt64.size) :
    (bench.putDocument name document).Sound where
  keys := sound.keys
  documents := List.forall_mem_cons.mpr ⟨small, sound.documents⟩

theorem mem_of_lookup {α : Type} {entries : List (String × α)} {name : String} {value : α}
    (found : entries.lookup name = some value) : (name, value) ∈ entries := by
  obtain ⟨before, after, rfl, _⟩ := List.lookup_eq_some_iff.mp found
  simp

theorem Sound.key {bench : Workbench} (sound : bench.Sound) {name : String} {key : PublicKey}
    (found : bench.key name = .ok key) : key.Valid := by
  unfold Workbench.key at found
  split at found
  next held stored =>
    cases found
    exact sound.keys (name, key) (mem_of_lookup stored)
  next => cases found

theorem Sound.document {bench : Workbench} (sound : bench.Sound) {name : String}
    {document : Document} (found : bench.document name = .ok document) :
    document.weight < UInt64.size := by
  unfold Workbench.document at found
  split at found
  next held stored =>
    cases found
    exact sound.documents (name, document) (mem_of_lookup stored)
  next => cases found

def Proceeds (oversized : Prop) (outcome : Checked Outcome) : Prop :=
  (∃ next answer, outcome = .ok (next, answer) ∧ next.Sound) ∨
    oversized ∧ outcome = .error .capacityOverflow

section Step

variable {bench : Workbench} (sound : bench.Sound) {oversized : Prop}

include sound

theorem Sound.stay (answer : Logged (Except Problem Answer)) :
    Proceeds oversized (.ok (bench, answer)) :=
  .inl ⟨bench, answer, rfl, sound⟩

theorem Sound.keepKey (target : String) {verdict : Document.Verdict}
    (valid : ∀ key, verdict.result = .ok key → key.Valid) :
    Proceeds oversized (.ok (bench.keepKey target verdict)) := by
  unfold Workbench.keepKey
  split
  next key made => exact (sound.putKey target (valid key made)).stay _
  next => exact sound.stay _

theorem Sound.keepAttempt (target : String) (attempt : Attempt)
    (handed : attempt.weight < UInt64.size)
    (full : Size.bufferLimit ≤ attempt.weight → oversized) :
    Proceeds oversized (do return bench.keepKey target (← attempt.verdict)) := by
  rcases Attempt.answers_or_full handed with ⟨verdict, answered⟩ | ⟨large, stopped⟩
  · rw [answered]
    exact sound.keepKey target fun key made => (Attempt.key_of_verdict answered made).2.1
  · rw [stopped]
    exact .inr ⟨full large, rfl⟩

theorem Sound.keepMade (target : String) (attempt : Attempt) {verdict : Checked PublicKey.Verdict}
    (same : attempt.verdict = verdict.map Document.verdictOnChains)
    (handed : attempt.weight < UInt64.size)
    (full : Size.bufferLimit ≤ attempt.weight → oversized) :
    Proceeds oversized
      (do return bench.keepKey target (Document.verdictOnChains (← verdict))) := by
  have kept := sound.keepAttempt target attempt handed full
  rw [same] at kept
  cases verdict <;> exact kept

theorem Sound.keepDocument (target : String) {result : Except DocumentError Document}
    (small : ∀ document, result = .ok document → document.weight < UInt64.size) :
    Proceeds oversized (.ok (bench.keepDocument target result)) := by
  cases result with
  | error => exact sound.stay _
  | ok document => exact (sound.putDocument target (small document rfl)).stay _

theorem Sound.withKey (name : String) {next : PublicKey → Checked Outcome}
    (each : ∀ key, bench.key name = .ok key → key.Valid → Proceeds oversized (next key)) :
    Proceeds oversized (bench.withKey name next) := by
  unfold Workbench.withKey
  split
  next key found => exact each key found (sound.key found)
  next => exact sound.stay _

theorem Sound.withDocument (name : String) {next : Document → Checked Outcome}
    (each : ∀ document, bench.document name = .ok document → document.weight < UInt64.size →
      Proceeds oversized (next document)) :
    Proceeds oversized (bench.withDocument name next) := by
  unfold Workbench.withDocument
  split
  next document found => exact each document found (sound.document found)
  next => exact sound.stay _

theorem Sound.view (name : String) {look : PublicKey → Checked Answer}
    (sees : ∀ key, key.Valid → ∃ answer, look key = .ok answer) :
    Proceeds oversized (bench.view name look) := by
  refine sound.withKey name fun key _ valid => ?_
  obtain ⟨answer, seen⟩ := sees key valid
  rw [seen]
  exact sound.stay _

-- A view of a list of all chains needs room for the list, and nothing else.
theorem Sound.listing (name : String) {look : PublicKey → Checked Answer}
    (sees : ∀ key, key.Valid → key.Listable → ∃ answer, look key = .ok answer)
    (stops : ∀ key : PublicKey, ¬ key.Listable → look key = .error .capacityOverflow) :
    Proceeds (∃ key, bench.key name = .ok key ∧ ¬ key.Listable) (bench.view name look) := by
  refine sound.withKey name fun key found valid => ?_
  by_cases listable : key.Listable
  · obtain ⟨answer, seen⟩ := sees key valid listable
    rw [seen]
    exact sound.stay _
  · rw [stops key listable]
    exact .inr ⟨⟨key, found, listable⟩, rfl⟩

end Step

-- A command takes from a sound bench or is handed what fits, so all that it puts there is sound.
theorem step_proceeds {bench : Workbench} (sound : bench.Sound) {command : Command}
    (fits : command.Fits) : Proceeds (bench.Oversized command) (bench.step command) := by
  cases command with
  | new target params chains =>
    exact sound.keepMade target (.new params chains) rfl fits fun large => large
  | fromChains target params chains =>
    exact sound.keepMade target (.fromChains params chains) rfl fits fun large => large
  | create target params chains =>
    exact sound.keepMade target (.create params chains) rfl fits fun large => large
  | fromFlat target params bytes =>
    have answered : (Attempt.fromFlat params bytes).verdict =
        .ok (Document.verdictOnChains (PublicKey.fromFlat params bytes)) := rfl
    exact sound.keepKey target fun key made => (Attempt.key_of_verdict answered made).2.1
  | copy source target =>
    refine sound.withKey source fun key _ valid => sound.keepKey target fun _ same => ?_
    cases same
    exact valid
  | putDocument target document =>
    refine sound.keepDocument target fun _ same => ?_
    cases same
    exact fits
  | readDocument target text =>
    refine sound.keepDocument target fun document read => ?_
    have letters := Document.letters_le_of_ofText read
    simp only [Command.Fits] at fits
    rw [Document.weight]
    omega
  | documentOfKey name target =>
    refine sound.withKey name fun key found valid => ?_
    by_cases listable : key.Listable
    · rw [(Document.ofKey_eq_ok_iff valid _).mpr ⟨listable, rfl⟩]
      refine sound.keepDocument target fun _ same => ?_
      cases same
      exact (Document.weight_written valid).symm ▸ valid.2
    · rw [Document.ofKey_of_not_listable listable]
      exact .inr ⟨⟨key, found, listable⟩, rfl⟩
  | rereadDocument name target =>
    refine sound.withDocument name fun document _ small => ?_
    -- The text is longer than the document, but it reads back as the document itself.
    have back := Document.ofText_of_read document.read_toText
    refine sound.keepDocument target fun _ same => ?_
    cases back.symm.trans same
    exact small
  | keyOfDocument name target =>
    refine sound.withDocument name fun document found small => ?_
    exact sound.keepAttempt target (.toKey document) small fun large => ⟨document, found, large⟩
  | keyOfDocumentWith name target params =>
    refine sound.withDocument name fun document found small => ?_
    exact sound.keepAttempt target (.toKeyWith document params) small fun large =>
      ⟨document, found, large⟩
  | writeDocument name => exact sound.withDocument name fun _ _ _ => sound.stay _
  | compareDocuments a b =>
    exact sound.withDocument a fun _ _ _ => sound.withDocument b fun _ _ _ => sound.stay _
  | compareKeys a b => exact sound.withKey a fun _ _ _ => sound.view b fun _ _ => ⟨_, rfl⟩
  | countDistinct names => exact sound.stay _
  | chain name index =>
    refine sound.view name fun key valid => ?_
    rw [valid.chain?_eq]
    exact ⟨_, rfl⟩
  | window name skip take =>
    refine sound.view name fun key valid => ?_
    rw [valid.window_eq]
    exact ⟨_, rfl⟩
  | maskChains name byte =>
    refine sound.listing name (fun key valid listable => ?_) fun key full => ?_
    · rw [valid.toChains_eq listable]
      exact ⟨_, rfl⟩
    · exact PublicKey.listing_of_not_listable _ full
  | maskFlat name byte => exact sound.view name fun _ _ => ⟨_, rfl⟩
  | describe name =>
    refine sound.listing name (fun key valid listable => ?_) fun key full => ?_
    · rw [PublicKey.describe, PublicKey.describeInFull, valid.toChains_eq listable]
      exact ⟨_, rfl⟩
    · rw [PublicKey.describe, PublicKey.toChains_of_not_listable full]
      rfl

-- A run that stops does so at one command, which comes upon a sound bench like any other.
theorem run_cases {bench : Workbench} (sound : bench.Sound) {commands : List Command}
    (fits : ∀ command ∈ commands, command.Fits) :
    (∃ last answers, bench.run commands = .ok (last, answers) ∧ last.Sound) ∨
      bench.run commands = .error .capacityOverflow ∧
        ∃ before command after next answers, commands = before ++ command :: after ∧
          bench.run before = .ok (next, answers) ∧ next.Oversized command := by
  induction commands generalizing bench with
  | nil => exact .inl ⟨bench, [], rfl, sound⟩
  | cons command rest ih =>
    rcases step_proceeds sound (fits command (by simp)) with
      ⟨next, answer, done, sound⟩ | ⟨oversized, stopped⟩
    · rcases ih sound fun other member => fits other (by simp [member]) with
        ⟨last, answers, ran, sound⟩ | ⟨stopped, before, later, after, next, answers, rfl, ran, large⟩
      · refine .inl ⟨last, answer :: answers, ?_, sound⟩
        simp only [run, done, ran, bind, Except.bind]
        rfl
      · refine .inr ⟨?_, command :: before, later, after, next, answer :: answers, rfl, ?_, large⟩
        · simp only [run, done, stopped, bind, Except.bind]
        · simp only [run, done, ran, bind, Except.bind]
          rfl
    · refine .inr ⟨?_, [], command, rest, bench, [], rfl, rfl, oversized⟩
      simp only [run, stopped, bind, Except.bind]

/-- A run stops only where something is too large for a buffer. After any run a key has as many
bytes as its dimensions say, and no view of its chains one by one can fault. The first part of a run
is a run too, so this holds of a key from the moment there is one. -/
theorem views_of_every_run (commands : List Command) (fits : ∀ command ∈ commands, command.Fits) :
    (∀ fault, empty.run commands = .error fault → fault = .capacityOverflow ∧
      ∃ before command after bench answers, commands = before ++ command :: after ∧
        empty.run before = .ok (bench, answers) ∧ bench.Oversized command) ∧
    ∀ bench answers, empty.run commands = .ok (bench, answers) →
      ∀ name key, (name, key) ∈ bench.keys →
        key.chainCount.toNat * key.digestSize.toNat < UInt64.size ∧
        key.chainCount.toNat * key.digestSize.toNat = key.bytes.length ∧
        (∀ index : UInt64, index < key.chainCount →
          index.toNat * key.digestSize.toNat < UInt64.size ∧
          index.toNat * key.digestSize.toNat + key.digestSize.toNat < UInt64.size ∧
          index.toNat * key.digestSize.toNat + key.digestSize.toNat ≤ key.bytes.length ∧
          ∃ chain, key.chainAt index = .ok chain) ∧
        (∀ index, ∃ chain, key.chain? index = .ok chain) ∧
        ∀ skip take, ∃ chains, key.window skip take = .ok chains := by
  constructor
  · intro fault faulty
    rcases run_cases empty_sound fits with ⟨last, answers, ran, -⟩ | ⟨stopped, place⟩
    · cases ran.symm.trans faulty
    · cases stopped.symm.trans faulty
      exact ⟨rfl, place⟩
  · intro bench answers done name key member
    rcases run_cases empty_sound fits with ⟨last, answers, ran, sound⟩ | ⟨stopped, -⟩
    · cases ran.symm.trans done
      have valid : key.Valid := sound.keys (name, key) member
      have room := valid.2
      refine ⟨valid.1 ▸ room, valid.1, fun index inside => ?_,
        fun index => ⟨_, valid.chain?_eq index⟩, fun skip take => ⟨_, valid.window_eq skip take⟩⟩
      have stop := valid.end_le (UInt64.lt_iff_toNat_lt.mp inside)
      exact ⟨by omega, by omega, stop, _, valid.chainAt_eq inside⟩
    · cases stopped.symm.trans done

def wideRun : List Command :=
  [.fromFlat "wide" PublicKey.widestKey.parameters PublicKey.widestKey.bytes,
    .new "none" ⟨0, 3⟩ [], .create "pair" (some ⟨2, 1⟩) (some [some [7], some [8]]),
    .documentOfKey "pair" "text", .keyOfDocument "text" "again", .copy "again" "pair",
    .chain "wide" 18446744073709551614]

theorem views_of_wide_run :
    (∀ command ∈ wideRun, command.Fits) ∧
      ∃ bench answers, empty.run wideRun = .ok (bench, answers) ∧
        ("wide", PublicKey.widestKey) ∈ bench.keys ∧
        ∃ chain, PublicKey.widestKey.chainAt 18446744073709551614 = .ok chain := by
  have fits : ∀ command ∈ wideRun, command.Fits := by
    simp [wideRun, Command.Fits, PublicKey.weight, UInt64.size]
  have kept : (empty.run wideRun).map (fun outcome => outcome.1.keys.getLast?) =
      .ok (some ("wide", PublicKey.widestKey)) := rfl
  obtain ⟨⟨bench, answers⟩, ran, last⟩ := map_eq_ok kept
  have member : ("wide", PublicKey.widestKey) ∈ bench.keys := List.mem_of_getLast? last
  obtain ⟨_, _, inside, _⟩ := (views_of_every_run wideRun fits).2 bench answers ran _ _ member
  exact ⟨fits, bench, answers, ran, member, (inside 18446744073709551614 (by decide)).2.2.2⟩

end Workbench

end Winternitz
