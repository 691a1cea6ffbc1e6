import Winternitz.Document.Text

set_option autoImplicit false

namespace Winternitz

/-- Keys and documents at hand by name. Of several under one name, the first is meant. -/
structure Workbench where
  keys : List (String × PublicKey)
  documents : List (String × Document)
deriving DecidableEq, Repr

inductive Command
  | new (target : String) (params : Parameters) (chains : List Bytes)
  | fromChains (target : String) (params : Parameters) (chains : List Bytes)
  | create (target : String) (params : Option Parameters) (chains : Option (List (Option Bytes)))
  | fromFlat (target : String) (params : Parameters) (bytes : Bytes)
  | copy (source target : String)
  | putDocument (target : String) (document : Document)
  | readDocument (target : String) (text : String)
  | documentOfKey (key target : String)
  | rereadDocument (document target : String)
  | keyOfDocument (document target : String)
  | keyOfDocumentWith (document target : String) (params : Option Parameters)
  | writeDocument (document : String)
  | compareDocuments (a b : String)
  | compareKeys (a b : String)
  | countDistinct (keys : List String)
  | chain (key : String) (index : UInt64)
  | window (key : String) (skip take : Nat)
  | maskChains (key : String) (mask : UInt8)
  | maskFlat (key : String) (mask : UInt8)
  | describe (key : String)

inductive Answer
  | key (key : PublicKey)
  | document (document : Document)
  | text (text : String)
  | equal (same : Bool)
  | distinct (count : Nat)
  | chain (bytes : Option Bytes)
  | window (chainCount : UInt64) (chains : List Bytes)
  | maskedChains (chains : List Bytes) (key : PublicKey)
  | maskedFlat (bytes : Bytes) (key : PublicKey)
  | description (inline full : String)
deriving DecidableEq, Repr

inductive Problem
  | noSuchKey
  | noSuchDocument
  | refused (error : DocumentError)
deriving DecidableEq, Repr

namespace Workbench

def empty : Workbench := ⟨[], []⟩

abbrev Outcome := Workbench × Logged (Except Problem Answer)

def key (bench : Workbench) (name : String) : Except Problem PublicKey :=
  match bench.keys.lookup name with
  | some key => .ok key
  | none => .error .noSuchKey

def document (bench : Workbench) (name : String) : Except Problem Document :=
  match bench.documents.lookup name with
  | some document => .ok document
  | none => .error .noSuchDocument

def putKey (bench : Workbench) (name : String) (key : PublicKey) : Workbench :=
  { bench with keys := (name, key) :: bench.keys }

def putDocument (bench : Workbench) (name : String) (document : Document) : Workbench :=
  { bench with documents := (name, document) :: bench.documents }

-- Answer with a key and keep it, or leave the bench as it is.
def keepKey (bench : Workbench) (target : String) (verdict : Document.Verdict) : Outcome :=
  match verdict.result with
  | .ok key => (bench.putKey target key, ⟨.ok (.key key), verdict.events⟩)
  | .error error => (bench, ⟨.error (.refused error), verdict.events⟩)

def keepDocument (bench : Workbench) (target : String) (result : Except DocumentError Document) :
    Outcome :=
  match result with
  | .ok document => (bench.putDocument target document, .silent (.ok (.document document)))
  | .error error => (bench, .silent (.error (.refused error)))

def withKey (bench : Workbench) (name : String) (next : PublicKey → Checked Outcome) :
    Checked Outcome :=
  match bench.key name with
  | .ok key => next key
  | .error problem => .ok (bench, .silent (.error problem))

def withDocument (bench : Workbench) (name : String) (next : Document → Checked Outcome) :
    Checked Outcome :=
  match bench.document name with
  | .ok document => next document
  | .error problem => .ok (bench, .silent (.error problem))

def mask (mask : UInt8) (bytes : Bytes) : Bytes :=
  bytes.map (· ^^^ mask)

def view (bench : Workbench) (name : String) (look : PublicKey → Checked Answer) :
    Checked Outcome :=
  bench.withKey name fun key => do
    let answer ← look key
    return (bench, .silent (.ok answer))

-- Carry out a command. One that has no answer changes nothing.
def step (bench : Workbench) : Command → Checked Outcome
  | .new target params chains => do
    return bench.keepKey target (Document.verdictOnChains (← PublicKey.new params chains))
  | .fromChains target params chains => do
    return bench.keepKey target (Document.verdictOnChains (← PublicKey.fromChains params chains))
  | .create target params chains => do
    return bench.keepKey target (Document.verdictOnChains (← PublicKey.create params chains))
  | .fromFlat target params bytes =>
    .ok (bench.keepKey target (Document.verdictOnChains (PublicKey.fromFlat params bytes)))
  | .copy source target =>
    bench.withKey source fun key => .ok (bench.keepKey target (.silent (.ok key)))
  | .putDocument target document => .ok (bench.keepDocument target (.ok document))
  | .readDocument target text => .ok (bench.keepDocument target (Document.ofText text))
  | .documentOfKey key target =>
    bench.withKey key fun key => do
      return bench.keepDocument target (.ok (← Document.ofKey key))
  | .rereadDocument document target =>
    bench.withDocument document fun document =>
      .ok (bench.keepDocument target (Document.ofText document.toText))
  | .keyOfDocument document target =>
    bench.withDocument document fun document => do
      return bench.keepKey target (← document.toKey)
  | .keyOfDocumentWith document target params =>
    bench.withDocument document fun document => do
      return bench.keepKey target (← document.toKeyWith params)
  | .writeDocument document =>
    bench.withDocument document fun document =>
      .ok (bench, .silent (.ok (.text document.toText)))
  | .compareDocuments a b =>
    bench.withDocument a fun first => bench.withDocument b fun second =>
      .ok (bench, .silent (.ok (.equal (first = second))))
  | .compareKeys a b =>
    bench.withKey a fun first => bench.view b fun second => .ok (.equal (first = second))
  | .countDistinct names =>
    let found := names.filterMap fun name => bench.keys.lookup name
    .ok (bench, .silent (.ok (.distinct found.eraseDups.length)))
  | .chain key index => bench.view key fun key => return .chain (← key.chain? index)
  | .window key skip take =>
    bench.view key fun key => return .window key.chainCount (← key.window skip take)
  | .maskChains key byte =>
    bench.view key fun key => return .maskedChains ((← key.toChains).map (mask byte)) key
  | .maskFlat key byte => bench.view key fun key => return .maskedFlat (mask byte key.bytes) key
  | .describe key =>
    bench.view key fun key => return .description (← key.describe) (← key.describeInFull)

def run (bench : Workbench) :
    List Command → Checked (Workbench × List (Logged (Except Problem Answer)))
  | [] => .ok (bench, [])
  | command :: rest => do
    let (next, answer) ← bench.step command
    let (last, answers) ← next.run rest
    return (last, answer :: answers)

end Workbench

end Winternitz
