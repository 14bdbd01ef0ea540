import Mathlib.Logic.Function.Basic
import Mathlib.Data.Nat.Defs
import Mathlib.Algebra.Group.Nat.Basic

/-! Blocks of the device and the little-endian fields the checker reads from them.
A block is a function on byte offsets; the device holds offsets below `blockSize`,
and what lies past them is only ever reached by an out-of-bounds index. -/
namespace MinixFsck

/-- `BLOCK_SIZE`. -/
def blockSize : Nat := 1024

abbrev Block := Nat → UInt8

namespace Block

/-- The buffer `read_block` returns for block 0 and for a failed read. -/
def zero : Block := fun _ => 0

def get8 (b : Block) (o : Nat) : Nat := (b o).toNat

def get16 (b : Block) (o : Nat) : Nat := b.get8 o + 256 * b.get8 (o + 1)

def get32 (b : Block) (o : Nat) : Nat := b.get16 o + 65536 * b.get16 (o + 2)

def set8 (b : Block) (o v : Nat) : Block := Function.update b o (UInt8.ofNat v)

def set16 (b : Block) (o v : Nat) : Block := (b.set8 o (v % 256)).set8 (o + 1) (v / 256)

def set32 (b : Block) (o v : Nat) : Block := (b.set16 o (v % 65536)).set16 (o + 2) (v / 65536)

/-- What a 1024-byte `write` leaves in a device block: the buffer's bytes, and the
block's own past its end. -/
def overwrite (old new : Block) : Block := fun o => if o < blockSize then new o else old o

/-- Bytes `o, o+1, ...` up to `n` of them, the way a `char *` into the block is read. -/
def bytes (b : Block) (o n : Nat) : List UInt8 := (List.range n).map fun j => b (o + j)

theorem bytes_getD (b : Block) {o n j : Nat} (h : j < n) : (b.bytes o n).getD j 0 = b (o + j) := by
  simp [bytes, h]

@[simp] theorem get8_lt (b : Block) (o : Nat) : b.get8 o < 256 := (b o).toNat_lt_size

@[simp] theorem zero_get8 (o : Nat) : zero.get8 o = 0 := rfl

@[simp] theorem zero_get16 (o : Nat) : zero.get16 o = 0 := rfl

@[simp] theorem zero_get32 (o : Nat) : zero.get32 o = 0 := rfl

theorem get16_lt (b : Block) (o : Nat) : b.get16 o < 65536 := by
  have := b.get8_lt o; have := b.get8_lt (o + 1); unfold get16; omega

theorem get32_lt (b : Block) (o : Nat) : b.get32 o < 2 ^ 32 := by
  have := b.get16_lt o; have := b.get16_lt (o + 2); unfold get32; omega

theorem get8_set8 (b : Block) (o v p : Nat) :
    (b.set8 o v).get8 p = if p = o then v % 256 else b.get8 p := by
  unfold get8 set8
  by_cases h : p = o
  · subst h; simp [UInt8.ofNat, UInt8.toNat, BitVec.toNat_ofNat]
  · simp [Function.update_noteq h, h]

theorem get8_set16_of_ne (b : Block) (o v p : Nat) (h1 : p ≠ o) (h2 : p ≠ o + 1) :
    (b.set16 o v).get8 p = b.get8 p := by
  simp [set16, get8_set8, h1, h2]

theorem set16_apply_of_ne (b : Block) (o v p : Nat) (h1 : p ≠ o) (h2 : p ≠ o + 1) :
    b.set16 o v p = b p := by
  simp only [set16, set8, Function.update_noteq h1, Function.update_noteq h2]

theorem get16_set16 (b : Block) (o v : Nat) : (b.set16 o v).get16 o = v % 65536 := by
  simp only [get16, set16, get8_set8, if_true, if_neg (by omega : o ≠ o + 1)]
  omega

theorem get16_set16_of_disjoint (b : Block) (o v p : Nat) (h : p + 2 ≤ o ∨ o + 2 ≤ p) :
    (b.set16 o v).get16 p = b.get16 p := by
  unfold get16
  rw [get8_set16_of_ne _ _ _ _ (by omega) (by omega), get8_set16_of_ne _ _ _ _ (by omega) (by omega)]

theorem get32_set32_same (b : Block) (o : Nat) : (b.set32 o 0).get32 o = 0 := by
  simp [get32, set32, get16, set16, get8_set8]

theorem get32_set32_of_disjoint (b : Block) (o v p : Nat) (h : p + 4 ≤ o ∨ o + 4 ≤ p) :
    (b.set32 o v).get32 p = b.get32 p := by
  unfold get32 set32
  rw [get16_set16_of_disjoint _ _ _ _ (by omega), get16_set16_of_disjoint _ _ _ _ (by omega),
    get16_set16_of_disjoint _ _ _ _ (by omega), get16_set16_of_disjoint _ _ _ _ (by omega)]

end Block

/-- The physical block `lseek(IN, BLOCK_SIZE*nr, SEEK_SET)` reaches: the product is an
`unsigned int` and wraps at 2^32. -/
def phys (nr : Nat) : Nat := blockSize * nr % 2 ^ 32 / blockSize

/-- The I/O behaviour of the device, fixed for a run: which physical blocks a full
1024-byte read or write succeeds on. -/
structure Io where
  readOk : Nat → Bool
  writeOk : Nat → Bool

/-- Byte `o` of the region of consecutive blocks starting at block `start`, as one
`read` of many blocks places it in memory. -/
def regionByte (disk : Nat → Block) (start o : Nat) : UInt8 :=
  disk (start + o / blockSize) (o % blockSize)

/-- Bit `i` of a byte array, least significant bit first (`bit` of bitops.h). -/
def bitOf (bytes : Nat → UInt8) (i : Nat) : Bool := (bytes (i / 8)).toNat.testBit (i % 8)

/-- Byte `j` of the packed form of a bit map, the inverse of `bitOf`. -/
def packByte (m : Nat → Bool) (j : Nat) : UInt8 :=
  UInt8.ofNat ((List.range 8).foldr (fun k acc => (if m (8 * j + k) then 2 ^ k else 0) + acc) 0)

end MinixFsck
