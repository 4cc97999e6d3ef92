import Mathlib

/-!
# A file of bytes

A file opened for reading: its bytes and a position.  `fseek` takes any position that fits
a signed integer of 64 bits, also one past the end; `fread` of one object reads all its bytes
or fails (an object of no bytes cannot be read), `fread` of single bytes reads what is left.
Numbers are stored with the least byte first.
-/

namespace ByteFile

abbrev Bytes := List UInt8

/-- The bytes from a position on, at most `n`. -/
def range (bytes : Bytes) (pos n : Nat) : Bytes := (bytes.drop pos).take n

structure File where
  bytes : Bytes
  pos : Nat := 0
  deriving DecidableEq

def File.fseek (f : File) (pos : Nat) : Option File := if pos < 2 ^ 63 then some { f with pos := pos } else none

/-- `fread` of one object of `size` bytes. -/
def File.freadObject (f : File) (size : Nat) : Option (Bytes × File) :=
  if size = 0 ∨ f.bytes.length < f.pos + size then none
  else some (range f.bytes f.pos size, { f with pos := f.pos + size })

/-- `fread` of `n` objects of one byte. -/
def File.freadBytes (f : File) (n : Nat) : Bytes × File :=
  (range f.bytes f.pos n, { f with pos := f.pos + (range f.bytes f.pos n).length })

def u16At (b : Bytes) (i : Nat) : UInt16 := UInt16.ofNat ((b.getD i 0).toNat + 2 ^ 8 * (b.getD (i + 1) 0).toNat)

def u32At (b : Bytes) (i : Nat) : UInt32 :=
  UInt32.ofNat ((u16At b i).toNat + 2 ^ 16 * (u16At b (i + 2)).toNat)

/-! ## Lemmas -/

theorem length_range (bytes : Bytes) (pos n : Nat) : (range bytes pos n).length = min n (bytes.length - pos) := by
  simp [range]

theorem length_range_of_le {bytes : Bytes} {pos n : Nat} (h : pos + n ≤ bytes.length) :
    (range bytes pos n).length = n := by
  rw [length_range]
  omega

@[simp] theorem range_zero (bytes : Bytes) (pos : Nat) : range bytes pos 0 = [] := List.take_zero

/-- Two ranges in a row. -/
theorem range_append (bytes : Bytes) (pos m n : Nat) :
    range bytes pos m ++ range bytes (pos + m) n = range bytes pos (m + n) := by
  unfold range
  rw [List.take_add, List.drop_drop]

theorem fseek_eq_some {f f' : File} {pos : Nat} (h : f.fseek pos = some f') : f' = { f with pos := pos } := by
  unfold File.fseek at h
  split at h
  · exact (Option.some.inj h).symm
  · cases h

theorem freadObject_eq_some {f f' : File} {size : Nat} {b : Bytes} (h : f.freadObject size = some (b, f')) :
    f.pos + size ≤ f.bytes.length ∧ b = range f.bytes f.pos size ∧ f' = { f with pos := f.pos + size } := by
  unfold File.freadObject at h
  split at h
  · cases h
  · next hlt =>
    rw [not_or] at hlt
    obtain ⟨rfl, rfl⟩ := Prod.mk.inj (Option.some.inj h)
    exact ⟨by omega, rfl, rfl⟩

end ByteFile
