/-
MmorpgServer.Lib.FlatBuffers — reading and verifying FlatBuffers.

A buffer is a list of bytes and a pointer into it a position, which an
offset can take anywhere: positions are integers, and a read outside the
buffer has no value.

* The accessors (`getRoot`, `getField`, `getPointer`) follow the offsets
  of the layout: the root offset, the table's offset back to its vtable,
  the vtable's entry of a field.
* The verifier (`verifyBuffer`, `verifyTableStart`, `verifyField`,
  `verifyOffset`, `verifyTable`, `verifyString`) checks that what it
  follows lies inside the buffer. Its checks of alignment and depth are
  left out: a verifier with them accepts fewer buffers.

A verified field is exactly one whose accessor stays in the buffer
(`verifyField_eq_isSome`, `verifyOffset_eq_isSome`), which is how a
verified buffer is safe to read.
-/
import Mathlib.Algebra.Group.Int.Defs
import Mathlib.Algebra.Group.Nat.Defs
import Mathlib.Data.List.Basic

namespace MmorpgServer.Lib.FlatBuffers

abbrev Buffer := List UInt8

/-! ## Scalars -/

/-- Bytes as a number, least significant first. -/
def leNat : List UInt8 → Nat
  | [] => 0
  | x :: xs => x.toNat + 256 * leNat xs

/-- The `size` bytes from `pos` on lie inside the buffer. -/
def inBounds (b : Buffer) (pos : Int) (size : Nat) : Bool :=
  decide (0 ≤ pos) && decide (pos + size ≤ b.length)

/-- `ReadScalar` of an unsigned scalar of `size` bytes. -/
def readScalar (b : Buffer) (pos : Int) (size : Nat) : Option Nat :=
  if inBounds b pos size then some (leNat ((b.drop pos.toNat).take size)) else none

/-- `ReadScalar<soffset_t>`: four bytes in two's complement. -/
def readSOffset (b : Buffer) (pos : Int) : Option Int :=
  (readScalar b pos 4).map fun (v : Nat) => if v < 2 ^ 31 then (v : Int) else v - 2 ^ 32

/-! ## Accessors -/

/-- `GetRoot`: where the root table is. -/
def getRoot (b : Buffer) : Option Int := (readScalar b 0 4).map fun (o : Nat) => (o : Int)

/-- `Table::GetVTable`. -/
def getVTable (b : Buffer) (t : Int) : Option Int := (readSOffset b t).map fun o => t - o

/-- `Table::GetOptionalFieldOffset`: the vtable's entry of a field, 0 for
a field the vtable is too short for. -/
def getOptionalFieldOffset (b : Buffer) (t : Int) (field : Nat) : Option Nat := do
  let vtable ← getVTable b t
  let vtsize ← readScalar b vtable 2
  if field < vtsize then readScalar b (vtable + field) 2 else some 0

/-- `Table::GetField`, for a scalar of `size` bytes. -/
def getField (b : Buffer) (t : Int) (field size default : Nat) : Option Nat := do
  let fo ← getOptionalFieldOffset b t field
  if fo ≠ 0 then readScalar b (t + fo) size else some default

/-- `Table::GetPointer`: where the offset of a field leads; the inner
`none` is the null pointer of an absent field. -/
def getPointer (b : Buffer) (t : Int) (field : Nat) : Option (Option Int) := do
  let fo ← getOptionalFieldOffset b t field
  if fo ≠ 0 then
    (readScalar b (t + fo) 4).map fun (o : Nat) => some (t + fo + (o : Int))
  else some none

/-! ## Verifier -/

/-- `Table::VerifyTableStart`: the vtable lies inside the buffer. -/
def verifyTableStart (b : Buffer) (t : Int) : Bool :=
  match getVTable b t with
  | none => false
  | some vtable =>
    match readScalar b vtable 2 with
    | none => false
    | some vtsize => inBounds b vtable vtsize

/-- `Table::VerifyField`. -/
def verifyField (b : Buffer) (t : Int) (field size : Nat) : Bool :=
  match getOptionalFieldOffset b t field with
  | none => false
  | some fo => fo == 0 || inBounds b (t + fo) size

/-- `Table::VerifyOffset`: an offset has four bytes. -/
def verifyOffset (b : Buffer) (t : Int) (field : Nat) : Bool := verifyField b t field 4

/-- `Verifier::VerifyTable` of what a pointer leads to. -/
def verifyTable (verify : Int → Bool) : Option (Option Int) → Bool
  | none => false
  | some none => true
  | some (some t) => verify t

/-- `Verifier::VerifyString`: the length and that many bytes. -/
def verifyString (b : Buffer) : Option (Option Int) → Bool
  | none => false
  | some none => true
  | some (some p) =>
    match readScalar b p 4 with
    | none => false
    | some len => inBounds b (p + 4) len

/-- `Verifier::VerifyBuffer`, for the `Verify` of the root's type. -/
def verifyBuffer (b : Buffer) (verify : Int → Bool) : Bool :=
  match getRoot b with
  | none => false
  | some t => verify t

/-! ## Verified fields can be read -/

theorem readScalar_isSome (b : Buffer) (pos : Int) (size : Nat) :
    (readScalar b pos size).isSome = inBounds b pos size := by
  unfold readScalar
  cases inBounds b pos size <;> rfl

/-- A field passes the verifier exactly when its accessor has a value. -/
theorem verifyField_eq_isSome (b : Buffer) (t : Int) (field size default : Nat) :
    verifyField b t field size = (getField b t field size default).isSome := by
  unfold verifyField getField
  cases getOptionalFieldOffset b t field with
  | none => rfl
  | some fo =>
    by_cases h : fo = 0
    · simp [h]
    · simp [h, readScalar_isSome]

theorem verifyOffset_eq_isSome (b : Buffer) (t : Int) (field : Nat) :
    verifyOffset b t field = (getPointer b t field).isSome := by
  unfold verifyOffset verifyField getPointer
  cases getOptionalFieldOffset b t field with
  | none => rfl
  | some fo =>
    by_cases h : fo = 0
    · simp [h]
    · simp [h, readScalar_isSome]

/-- What a verified buffer has: a root table that passes its `Verify`. -/
theorem verifyBuffer_eq_true {b : Buffer} {verify : Int → Bool} :
    verifyBuffer b verify = true ↔ ∃ t, getRoot b = some t ∧ verify t = true := by
  unfold verifyBuffer
  cases getRoot b with
  | none => simp
  | some t => simp

end MmorpgServer.Lib.FlatBuffers
