import Mathlib.Data.List.Basic
import Mathlib.Algebra.Group.Nat.Basic

/-!
# Go values the autoretrieve package computes with

The package works on Go `uint`s (64 bits on the platforms the service is built for),
truncates them to `uint32` in context IDs, and slices `[]byte` values. This file fixes
the meaning of those operations: wrapping arithmetic, the byte order of
`binary.BigEndian`, and slice expressions that panic when out of range.

A Go call either returns an `error`, panics, or returns a value; `Fault` names the first
two, so that a function of the package that can do all three returns `Except Fault α`.

## Main definitions

* `uintAdd`, `uintSub`, `toUint32` — `uint` arithmetic and the `uint32(x)` conversion
* `sliceFrom`, `slice` — the slice expressions `b[lo:]` and `b[lo:hi]`
* `putUint32`, `uint32BE` — `binary.BigEndian.PutUint32` and `binary.BigEndian.Uint32`

## Main results

* `bigEndian_putUint32` — reading back four written bytes gives the value, below `2 ^ 32`
* `putUint32_bigEndian` — writing back a read value gives the four bytes read
-/

namespace Estuary

/-- A Go `byte`. -/
abbrev Byte := Fin 256

/-- A Go `[]byte`. Capacity beyond the length is not modelled: every slice expression of
the package is bounded by the length. -/
abbrev Bytes := List Byte

/-- `a + b` on Go `uint`. -/
def uintAdd (a b : Nat) : Nat := (a + b) % 2 ^ 64

/-- `a - b` on Go `uint`, for `b < 2 ^ 64`. -/
def uintSub (a b : Nat) : Nat := (a + (2 ^ 64 - b)) % 2 ^ 64

/-- The conversion `uint32(x)`: the low 32 bits. -/
def toUint32 (x : Nat) : Nat := x % 2 ^ 32

theorem uintAdd_of_lt {a b : Nat} (h : a + b < 2 ^ 64) : uintAdd a b = a + b :=
  Nat.mod_eq_of_lt h

theorem uintSub_of_le {a b : Nat} (ha : a < 2 ^ 64) (h : b ≤ a) : uintSub a b = a - b := by
  unfold uintSub
  rw [show a + (2 ^ 64 - b) = (a - b) + 2 ^ 64 by omega, Nat.add_mod_right]
  exact Nat.mod_eq_of_lt (by omega)

theorem uintAdd_lt (a b : Nat) : uintAdd a b < 2 ^ 64 := Nat.mod_lt _ (by decide)

theorem toUint32_of_lt {x : Nat} (h : x < 2 ^ 32) : toUint32 x = x := Nat.mod_eq_of_lt h

theorem toUint32_lt (x : Nat) : toUint32 x < 2 ^ 32 := Nat.mod_lt _ (by decide)

/-- What a Go call ends in when it returns no value. -/
inductive Fault
  /-- The call returned an `error` with this message. -/
  | error (msg : String)
  /-- The call panicked at run time. -/
  | panic (msg : String)
  deriving DecidableEq, Repr

/-- The slice expression `b[lo:]`, which panics unless `lo ≤ len(b)`. -/
def sliceFrom (b : Bytes) (lo : Nat) : Except Fault Bytes :=
  if lo ≤ b.length then .ok (b.drop lo) else .error (.panic "slice bounds out of range")

/-- The slice expression `b[lo:hi]`, which panics unless `lo ≤ hi ≤ len(b)`. -/
def slice (b : Bytes) (lo hi : Nat) : Except Fault Bytes :=
  if lo ≤ hi ∧ hi ≤ b.length then .ok ((b.drop lo).take (hi - lo))
  else .error (.panic "slice bounds out of range")

theorem sliceFrom_of_le {b : Bytes} {lo : Nat} (h : lo ≤ b.length) :
    sliceFrom b lo = .ok (b.drop lo) := if_pos h

theorem sliceFrom_of_lt {b : Bytes} {lo : Nat} (h : b.length < lo) :
    sliceFrom b lo = .error (.panic "slice bounds out of range") := if_neg (by omega)

theorem slice_of_le {b : Bytes} {lo hi : Nat} (h : lo ≤ hi) (h' : hi ≤ b.length) :
    slice b lo hi = .ok ((b.drop lo).take (hi - lo)) := if_pos ⟨h, h'⟩

/-- The conversion `byte(x)`: the low 8 bits. -/
def toByte (x : Nat) : Byte := ⟨x % 256, Nat.mod_lt _ (by decide)⟩

/-- `binary.BigEndian.PutUint32`: the four bytes of `v`, most significant first. -/
def putUint32 (v : Nat) : Bytes :=
  [toByte (v / 2 ^ 24), toByte (v / 2 ^ 16), toByte (v / 2 ^ 8), toByte v]

/-- The number four bytes spell, most significant first. -/
def bigEndian (b0 b1 b2 b3 : Byte) : Nat :=
  b0.val * 2 ^ 24 + b1.val * 2 ^ 16 + b2.val * 2 ^ 8 + b3.val

/-- `binary.BigEndian.Uint32`, which panics on fewer than four bytes (`_ = b[3]`). The
library ors the four shifted bytes together; they occupy disjoint bits, so this is the
number they spell. -/
def uint32BE : Bytes → Except Fault Nat
  | b0 :: b1 :: b2 :: b3 :: _ => .ok (bigEndian b0 b1 b2 b3)
  | _ => .error (.panic "index out of range [3]")

@[simp] theorem length_putUint32 (v : Nat) : (putUint32 v).length = 4 := rfl

theorem bigEndian_lt (b0 b1 b2 b3 : Byte) : bigEndian b0 b1 b2 b3 < 2 ^ 32 := by
  simp only [bigEndian]
  omega

theorem bigEndian_putUint32 {v : Nat} (h : v < 2 ^ 32) :
    bigEndian (toByte (v / 2 ^ 24)) (toByte (v / 2 ^ 16)) (toByte (v / 2 ^ 8)) (toByte v) = v := by
  simp only [bigEndian, toByte]
  omega

theorem putUint32_bigEndian (b0 b1 b2 b3 : Byte) :
    putUint32 (bigEndian b0 b1 b2 b3) = [b0, b1, b2, b3] := by
  simp only [putUint32, bigEndian, toByte, List.cons.injEq, and_true]
  refine ⟨?_, ?_, ?_, ?_⟩ <;> ext <;> simp only <;> omega

theorem uint32BE_putUint32 {v : Nat} (h : v < 2 ^ 32) (rest : Bytes) :
    uint32BE (putUint32 v ++ rest) = .ok v :=
  congrArg Except.ok (bigEndian_putUint32 h)

end Estuary
