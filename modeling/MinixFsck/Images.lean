import MinixFsck.Main

/-! Small version 1 images laid out as `mkfs` lays them out: the superblock in block 1, one
block for each bitmap, one block of inodes, then the data zones. The superblock encoder
`superV1` and `read_superblock` agree on every geometry the checks admit. -/
namespace MinixFsck

/-- A version 1 superblock with 14-character names, one block for each bitmap, marked
valid. -/
def superV1 (ninodes nzones firstzone : Nat) : Block :=
  ((((((Block.zero.set16 0 ninodes).set16 2 nzones).set16 4 1).set16 6 1).set16 8 firstzone).set16
    16 minixSuperMagic).set16 stateOffset minixValidFs

/-- `read_superblock` reads back the geometry `superV1` wrote, whenever it fits the checks. -/
theorem readSuperblock_superV1 {io : Io} {disk : Nat → Block} {ninodes nzones firstzone : Nat}
    (hio : io.readOk 1) (hd : disk 1 = superV1 ninodes nzones firstzone)
    (hi : ninodes < 8192) (hz : nzones < 8192) (hf : firstzone ≤ nzones) :
    readSuperblock io disk = .ok ⟨false, ninodes, nzones, 1, 1, firstzone, 16, 14⟩ := by
  have hsb : Super.decode (disk 1) =
      ⟨ninodes, nzones, 1, 1, firstzone, 0, 0, minixSuperMagic, minixValidFs, 0⟩ := by
    rw [hd]
    simp (disch := omega) only [Super.decode, superV1, Block.get32, Block.get16_set16,
      Block.get16_set16_of_disjoint, stateOffset, minixSuperMagic, minixValidFs, Block.zero_get16,
      Super.mk.injEq, Nat.mod_eq_of_lt, and_true]
  unfold readSuperblock checkGeometry
  simp only [hio, hsb, Bool.not_true, if_false, Bool.false_eq_true]
  simp only [versionOf, if_true, Geo.zmapNeed, blockSize, ite_false, Bool.false_eq_true]
  rw [if_neg (by omega), if_neg (by omega), if_neg (by omega)]

/-- `inode_map` or `zone_map` with the bits of `bits` set; bit 0 is always set. -/
def bitmapBlock (bits : List Nat) : Block :=
  (0 :: bits).foldl (fun b i => b.set8 (i / 8) (b.get8 (i / 8) ||| 2 ^ (i % 8))) Block.zero

/-- Inode `nr` of a version 1 inode-table block: mode, size, link count and direct zones. -/
def withInodeV1 (b : Block) (nr mode size nlinks : Nat) (zones : List Nat) : Block :=
  let o := (nr - 1) * 32
  let b := ((b.set16 o mode).set32 (o + 4) size).set8 (o + 13) nlinks
  (List.range zones.length).foldl (fun b k => b.set16 (o + 14 + 2 * k) (zones.getD k 0)) b

/-- A directory block of 16-byte entries: inode number, then the name. -/
def dirBlock (entries : List (Nat × String)) : Block :=
  (List.range entries.length).foldl (fun b i =>
    let (ino, name) := entries.getD i (0, "")
    (List.range name.length).foldl (fun b j => b.set8 (16 * i + 2 + j) (name.toList.getD j ' ').toNat)
      (b.set16 (16 * i) ino)) Block.zero

/-- A version 1 image of 16 inodes and 20 zones with data from zone 5: its bitmaps, its one
inode-table block, and its data zones. -/
def tinyImage (imap zmap inodes : Block) (data : Nat → Block) : Nat → Block
  | 1 => superV1 16 20 5
  | 2 => imap
  | 3 => zmap
  | 4 => inodes
  | n => data n

/-- The geometry `read_superblock` reads from `tinyImage`: version 1, 16 inodes, 20 zones, one
bitmap block each, data from zone 5, 16-byte entries. -/
def tinyGeo : Geo := ⟨false, 16, 20, 1, 1, 5, 16, 14⟩

/-- Every block of a 20-block image reads and writes. -/
def tinyIo : Io := ⟨fun n => decide (n < 20), fun n => decide (n < 20)⟩

/-- The run environment `main` sets up for a `tinyImage`. -/
def tinyEnv (o : Opts) : Env := ⟨o, tinyIo, tinyGeo⟩

/-- The globals as `read_tables` leaves them for a `tinyImage`: the bitmaps from blocks 2 and
3, the inode table from block 4, the superblock buffer from block 1. -/
def tinyTables (disk : Nat → Block) : St :=
  { St.start disk [] with
    imap := bitOf (regionByte disk 2), zmap := bitOf (regionByte disk 3), ibuf := regionByte disk 4,
    super := disk 1 }

/-- `-r`: interactive repair, with `force` and `verbose` set as `main` starts them. -/
def interactiveOpts : Opts :=
  { repair := true, automatic := false, warnMode := false, list := false, verbose := true,
    force := true }

/-- `-a`: automatic repair. -/
def automaticOpts : Opts := { interactiveOpts with automatic := true }

/-- No option: read-only. -/
def readOnlyOpts : Opts := { interactiveOpts with repair := false }

/-- The root directory, 48 bytes in zone 5, holds `.`, `..` and `x`, which names inode 40,
past the 16 inodes. -/
def danglingImage : Nat → Block :=
  tinyImage (bitmapBlock [1]) (bitmapBlock [1]) (withInodeV1 Block.zero 1 0o40755 48 2 [5])
    fun n => if n = 5 then dirBlock [(1, "."), (1, ".."), (40, "x")] else Block.zero

/-- The root directory, 48 bytes in zone 5, holds `.`, `..` and `a`, which names the root
itself: a hard link to the directory it is in. -/
def selfLinkImage : Nat → Block :=
  tinyImage (bitmapBlock [1]) (bitmapBlock [1]) (withInodeV1 Block.zero 1 0o40755 48 3 [5])
    fun n => if n = 5 then dirBlock [(1, "."), (1, ".."), (1, "a")] else Block.zero

/-- The root directory holds `.`, `..` and `f`, which names inode 2: marked in use, linked
once, and of mode 0, none of the seven file types. -/
def oddModeImage : Nat → Block :=
  tinyImage (bitmapBlock [1, 2]) (bitmapBlock [1])
    (withInodeV1 (withInodeV1 Block.zero 1 0o40755 48 2 [5]) 2 0 0 1 []) fun n =>
      if n = 5 then dirBlock [(1, "."), (1, ".."), (2, "f")] else Block.zero

/-- The root directory, 64 bytes in zone 5, holds `.`, `..`, and `a` and `b`, which both name
directory 2; directory 2, 32 bytes in zone 6, holds `.` and `..`. -/
def twoLinkImage : Nat → Block :=
  tinyImage (bitmapBlock [1, 2]) (bitmapBlock [1, 2])
    (withInodeV1 (withInodeV1 Block.zero 1 0o40755 64 3 [5]) 2 0o40755 32 3 [6]) fun n =>
      if n = 5 then dirBlock [(1, "."), (1, ".."), (2, "a"), (2, "b")]
      else if n = 6 then dirBlock [(2, "."), (1, "..")] else Block.zero

/-- The root directory, 48 bytes in zone 5, holds `.`, `..` and `d`, which names directory 2;
directory 2, 32 bytes in zone 6, holds `.` and `..`. Bitmaps and link counts agree. -/
def nestedImage : Nat → Block :=
  tinyImage (bitmapBlock [1, 2]) (bitmapBlock [1, 2])
    (withInodeV1 (withInodeV1 Block.zero 1 0o40755 48 3 [5]) 2 0o40755 32 2 [6]) fun n =>
      if n = 5 then dirBlock [(1, "."), (1, ".."), (2, "d")]
      else if n = 6 then dirBlock [(2, "."), (1, "..")] else Block.zero

/-- The root directory holds `.`, `..` and `f`, which names the regular file 2: zone 6 in its
first slot, and in `i_zone[7]` the indirect block 7, whose first entry is zone 8. -/
def indirectImage : Nat → Block :=
  tinyImage (bitmapBlock [1, 2]) (bitmapBlock [1, 2, 3, 4])
    (withInodeV1 (withInodeV1 Block.zero 1 0o40755 48 2 [5]) 2 0o100644 8192 1 [6, 0, 0, 0, 0, 0, 0, 7])
    fun n => if n = 5 then dirBlock [(1, "."), (1, ".."), (2, "f")]
      else if n = 7 then Block.zero.set16 0 8 else Block.zero

/-- The root directory's `i_size` is `2^32 - 1`, and all its zones are 0. -/
def wrapRootImage : Nat → Block :=
  tinyImage (bitmapBlock [1]) (bitmapBlock []) (withInodeV1 Block.zero 1 0o40755 (2 ^ 32 - 1) 2 [])
    fun _ => Block.zero

end MinixFsck
