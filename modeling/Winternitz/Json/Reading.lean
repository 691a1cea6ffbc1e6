import Winternitz.Json.Error

set_option autoImplicit false

namespace Winternitz.Json

def byteLength (text : List Char) : Nat :=
  (text.flatMap String.utf8EncodeChar).length

/-- A cause found while reading, placed by how many bytes of the text come after it. -/
structure Failure where
  cause : Cause
  bytesAfter : Nat
deriving DecidableEq, Repr

-- What comes of reading; a reader that goes on pairs its value with the text that remains.
abbrev Result (α : Type) := Except Failure α

theorem bind_eq_ok {α β : Type} {first : Result α} {next : α → Result β} {value : β} :
    first >>= next = .ok value ↔ ∃ a, first = .ok a ∧ next a = .ok value := by
  cases first with
  | error failure => simp [bind, Except.bind]
  | ok a => simp [bind, Except.bind]

theorem pure_eq_ok {α β : Type} {a b : α} {c d : β} :
    (pure (a, c) : Result (α × β)) = .ok (b, d) ↔ a = b ∧ c = d := by
  simp [pure, Except.pure]

theorem mapError_eq_ok {α ε ζ : Type} {result : Except ε α} {f : ε → ζ} {value : α} :
    result.mapError f = .ok value ↔ result = .ok value := by
  cases result with
  | error => exact ⟨nofun, nofun⟩
  | ok found => exact ⟨fun same => by cases same; rfl, fun same => by cases same; rfl⟩

-- Place a cause in front of what remains.
def Failure.here (cause : Cause) (rest : List Char) : Failure :=
  ⟨cause, byteLength rest⟩

-- Place a cause one byte into what remains, or at the end of the text.
def Failure.peek (cause : Cause) (rest : List Char) : Failure :=
  ⟨cause, byteLength rest - 1⟩

-- Find the line and column that lie `offset` bytes into a text, given those of its start.
def locate (line column offset : Nat) : List Char → Nat × Nat
  | [] => (line, column + offset)
  | c :: rest =>
    if offset < c.utf8Size then (line, column + offset)
    else if c = '\n' then locate (line + 1) 0 (offset - 1) rest
    else locate line (column + c.utf8Size) (offset - c.utf8Size) rest

def Failure.toError (failure : Failure) (text : List Char) : Error :=
  let (line, column) := locate 1 0 (byteLength text - failure.bytesAfter) text
  ⟨failure.cause, line, column⟩

def isBlank (c : Char) : Bool :=
  c == ' ' || c == '\n' || c == '\t' || c == '\r'

def dropBlank (text : List Char) : List Char :=
  text.dropWhile isBlank

theorem length_dropBlank_le (text : List Char) : (dropBlank text).length ≤ text.length :=
  (List.dropWhile_suffix isBlank).length_le

theorem length_lt_of_dropBlank {text rest : List Char} {c : Char}
    (start : dropBlank text = c :: rest) : rest.length < text.length := by
  have := length_dropBlank_le text
  rw [start] at this
  exact this

def readColon (text : List Char) : Result (List Char) :=
  match dropBlank text with
  | [] => .error (.peek (.endOfText (.inside .object)) [])
  | c :: rest => if c = ':' then .ok rest else .error (.peek .expectedColon (c :: rest))

theorem length_readColon_lt {text rest : List Char} (done : readColon text = .ok rest) :
    rest.length < text.length := by
  unfold readColon at done
  split at done
  next => cases done
  next c tail start =>
    have := length_lt_of_dropBlank start
    split at done
    next => cases done; exact this
    next => cases done

-- Read the rest of a word of which the first letter is known.
def readWord : List Char → List Char → Result (List Char)
  | [], text => .ok text
  | _ :: _, [] => .error (.here (.endOfText .value) [])
  | letter :: word, c :: rest =>
    if c = letter then readWord word rest else .error (.peek .expectedIdentifier (c :: rest))

theorem length_readWord_le {word text rest : List Char} (read : readWord word text = .ok rest) :
    rest.length ≤ text.length := by
  induction word generalizing text with
  | nil => cases read; exact Nat.le_refl _
  | cons letter word ih =>
    cases text with
    | nil => simp [readWord] at read
    | cons c tail =>
      simp only [readWord] at read
      split at read
      · exact Nat.le_succ_of_le (ih read)
      · simp at read

end Winternitz.Json
