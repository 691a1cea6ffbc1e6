set_option autoImplicit false

namespace Winternitz

inductive Fault
  | multiplyOverflow
  | addOverflow
  | outOfBounds
  | capacityOverflow
deriving DecidableEq, Repr

def Fault.message : Fault → String
  | .multiplyOverflow => "attempt to multiply with overflow"
  | .addOverflow => "attempt to add with overflow"
  | .outOfBounds => "range out of bounds"
  | .capacityOverflow => "capacity overflow"

/-- A computation on sizes, which are 64-bit words and never wrap around. -/
abbrev Checked (α : Type) := Except Fault α

abbrev Bytes := List UInt8

namespace Size

/-- Every buffer has fewer bytes than this, which is half of the sizes there are. -/
def bufferLimit : Nat := 0x8000000000000000

def mul? (a b : UInt64) : Option UInt64 :=
  if a.toNat * b.toNat < UInt64.size then some (a * b) else none

def mul (a b : UInt64) : Checked UInt64 :=
  match mul? a b with
  | some product => .ok product
  | none => .error .multiplyOverflow

def add (a b : UInt64) : Checked UInt64 :=
  if a.toNat + b.toNat < UInt64.size then .ok (a + b) else .error .addOverflow

-- Make room for elements of one width.
def reserve (count : UInt64) (width : Nat) : Checked Unit :=
  if count.toNat * width < bufferLimit then .ok () else .error .capacityOverflow

def slice (bytes : Bytes) (start stop : UInt64) : Checked Bytes :=
  if start ≤ stop ∧ stop.toNat ≤ bytes.length then
    .ok ((bytes.drop start.toNat).take (stop.toNat - start.toNat))
  else
    .error .outOfBounds

theorem toNat_mul {a b : UInt64} (fits : a.toNat * b.toNat < UInt64.size) :
    (a * b).toNat = a.toNat * b.toNat := by
  simpa using Nat.mod_eq_of_lt fits

theorem toNat_add {a b : UInt64} (fits : a.toNat + b.toNat < UInt64.size) :
    (a + b).toNat = a.toNat + b.toNat := by
  simpa using Nat.mod_eq_of_lt fits

theorem mul_eq_ok {a b : UInt64} (fits : a.toNat * b.toNat < UInt64.size) :
    mul a b = .ok (a * b) := by
  simp [mul, mul?, fits]

theorem add_eq_ok {a b : UInt64} (fits : a.toNat + b.toNat < UInt64.size) :
    add a b = .ok (a + b) := by
  simp [add, fits]

theorem reserve_eq_ok {count : UInt64} {width : Nat} (room : count.toNat * width < bufferLimit) :
    reserve count width = .ok () := by
  simp [reserve, room]

theorem reserve_eq_error {count : UInt64} {width : Nat}
    (full : bufferLimit ≤ count.toNat * width) : reserve count width = .error .capacityOverflow := by
  simp [reserve, full]

theorem bufferLimit_lt : bufferLimit < UInt64.size := by decide

theorem slice_eq_ok {bytes : Bytes} {start stop : UInt64} (order : start ≤ stop)
    (inside : stop.toNat ≤ bytes.length) :
    slice bytes start stop = .ok ((bytes.drop start.toNat).take (stop.toNat - start.toNat)) := by
  simp [slice, order, inside]

theorem mul?_eq_none_iff (a b : UInt64) : mul? a b = none ↔ UInt64.size ≤ a.toNat * b.toNat := by
  simp [mul?]

theorem mul?_eq_some_iff (a b product : UInt64) :
    mul? a b = some product ↔ product.toNat = a.toNat * b.toNat := by
  unfold mul?
  split
  next fits =>
    rw [Option.some.injEq, ← UInt64.toNat_inj, toNat_mul fits]
    exact eq_comm
  next big =>
    have := product.toNat_lt
    constructor
    · simp
    · intro same
      simp only [UInt64.size] at big
      omega

end Size

end Winternitz
