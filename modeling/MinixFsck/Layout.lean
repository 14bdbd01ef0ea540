import MinixFsck.Disk

/-! The superblock, the geometry `read_superblock` derives from it and checks, and the
layout of inodes and indirect blocks for the two file-system versions. -/
namespace MinixFsck

/-- Modelled from the spec: `MINIX_SUPER_MAGIC`, version 1 with 14-character names. -/
def minixSuperMagic : Nat := 0x137F

/-- Modelled from the spec: `MINIX_SUPER_MAGIC2`, version 1 with 30-character names. -/
def minixSuperMagic2 : Nat := 0x138F

/-- Modelled from the spec: `MINIX2_SUPER_MAGIC`, version 2 with 14-character names. -/
def minix2SuperMagic : Nat := 0x2468

/-- Modelled from the spec: `MINIX2_SUPER_MAGIC2`, version 2 with 30-character names. -/
def minix2SuperMagic2 : Nat := 0x2478

/-- Modelled from the spec: `MINIX_VALID_FS`. -/
def minixValidFs : Nat := 1

/-- Modelled from the spec: `MINIX_ERROR_FS`. -/
def minixErrorFs : Nat := 2

/-- `ROOT_INO`. -/
def rootIno : Nat := 1

/-- Modelled from the spec: `struct minix_super_block`, little-endian; `s_zones` is the
32-bit count that version 2 uses in place of `s_nzones`. -/
structure Super where
  ninodes : Nat
  nzones : Nat
  imapBlocks : Nat
  zmapBlocks : Nat
  firstdatazone : Nat
  logZoneSize : Nat
  maxSize : Nat
  magic : Nat
  state : Nat
  zones : Nat

def Super.decode (b : Block) : Super :=
  ⟨b.get16 0, b.get16 2, b.get16 4, b.get16 6, b.get16 8, b.get16 10, b.get32 12, b.get16 16,
    b.get16 18, b.get32 20⟩

/-- Byte offset of `s_state` in the superblock buffer. -/
def stateOffset : Nat := 18

/-- The globals fixed once the superblock and the root directory's first block are read:
`version2`, `INODES`, `ZONES`, `IMAPS`, `ZMAPS`, `FIRSTZONE`, `dirsize`, `namelen`. -/
structure Geo where
  version2 : Bool
  ninodes : Nat
  zones : Nat
  imaps : Nat
  zmaps : Nat
  firstzone : Nat
  dirsize : Nat
  namelen : Nat
  deriving DecidableEq, Repr

namespace Geo

variable (g : Geo)

/-- `INODE_SIZE` or `INODE_SIZE2`. -/
def inodeSize : Nat := if g.version2 then 64 else 32

/-- `MINIX_INODES_PER_BLOCK` or `MINIX2_INODES_PER_BLOCK`. -/
def inodesPerBlock : Nat := blockSize / g.inodeSize

/-- `INODE_BLOCKS`, that is `UPPER(INODES, inodes per block)`. -/
def inodeBlocks : Nat := (g.ninodes + (g.inodesPerBlock - 1)) / g.inodesPerBlock

/-- `INODE_BUFFER_SIZE`. -/
def inodeBufferSize : Nat := g.inodeBlocks * blockSize

/-- `NORM_FIRSTZONE`. -/
def normFirstzone : Nat := 2 + g.imaps + g.zmaps + g.inodeBlocks

/-- `ZONES - FIRSTZONE + 1` computed in 64-bit `unsigned long`. -/
def zmapNeed : Nat := (g.zones + 2 ^ 64 + 1 - g.firstzone) % 2 ^ 64

/-- Byte offset of `Inode + nr` (or `Inode2 + nr`) in `inode_buffer`. -/
def inodeOffset (nr : Nat) : Nat := (nr - 1) * g.inodeSize

def modeOf (ibuf : Block) (nr : Nat) : Nat := ibuf.get16 (g.inodeOffset nr)

def nlinksOf (ibuf : Block) (nr : Nat) : Nat :=
  if g.version2 then ibuf.get16 (g.inodeOffset nr + 2) else ibuf.get8 (g.inodeOffset nr + 13)

def sizeOf (ibuf : Block) (nr : Nat) : Nat :=
  ibuf.get32 (g.inodeOffset nr + if g.version2 then 8 else 4)

/-- Byte offset of `i_zone[k]` of inode `nr`. -/
def zoneOffset (nr k : Nat) : Nat :=
  if g.version2 then g.inodeOffset nr + 24 + 4 * k else g.inodeOffset nr + 14 + 2 * k

def zoneOf (ibuf : Block) (nr k : Nat) : Nat :=
  if g.version2 then ibuf.get32 (g.zoneOffset nr k) else ibuf.get16 (g.zoneOffset nr k)

def setZone (ibuf : Block) (nr k v : Nat) : Block :=
  if g.version2 then ibuf.set32 (g.zoneOffset nr k) v else ibuf.set16 (g.zoneOffset nr k) v

def setMode (ibuf : Block) (nr v : Nat) : Block := ibuf.set16 (g.inodeOffset nr) v

@[simp] theorem modeOf_setMode_zero (ibuf : Block) (nr : Nat) : g.modeOf (g.setMode ibuf nr 0) nr = 0 :=
  Block.get16_set16 _ _ _

def setNlinks (ibuf : Block) (nr v : Nat) : Block :=
  if g.version2 then ibuf.set16 (g.inodeOffset nr + 2) v else ibuf.set8 (g.inodeOffset nr + 13) v

/-- Clearing a mode never reaches a link count: inode slots are 32 or 64 bytes apart, the mode
at offset 0 and the link count at 13 (version 1) or 2 (version 2). -/
theorem nlinksOf_setMode (ibuf : Block) (i j v : Nat) :
    g.nlinksOf (g.setMode ibuf i v) j = g.nlinksOf ibuf j := by
  unfold nlinksOf setMode inodeOffset inodeSize
  split_ifs
  · exact Block.get16_set16_of_disjoint _ _ _ _ (by omega)
  · exact Block.get8_set16_of_ne _ _ _ _ (by omega) (by omega)

theorem nlinksOf_setNlinks_of_ne (ibuf : Block) {i j : Nat} (v : Nat) (hi : 1 ≤ i) (hj : 1 ≤ j)
    (h : j ≠ i) : g.nlinksOf (g.setNlinks ibuf i v) j = g.nlinksOf ibuf j := by
  unfold nlinksOf setNlinks inodeOffset inodeSize
  split_ifs
  · exact Block.get16_set16_of_disjoint _ _ _ _ (by omega)
  · rw [Block.get8_set8, if_neg (by omega)]

theorem nlinksOf_setNlinks_self (ibuf : Block) (i : Nat) {v : Nat} (hv : v < 256) :
    g.nlinksOf (g.setNlinks ibuf i v) i = v := by
  unfold nlinksOf setNlinks
  split_ifs
  · rw [Block.get16_set16]
    omega
  · rw [Block.get8_set8, if_pos rfl]
    omega

/-- Zone numbers in an indirect block: `BLOCK_SIZE>>1` shorts or `BLOCK_SIZE>>2` ints. -/
def fanout : Nat := if g.version2 then blockSize / 4 else blockSize / 2

theorem fanout_of_v1 (hv : g.version2 = false) : g.fanout = 512 := by simp [fanout, hv, blockSize]

theorem fanout_of_v2 (hv : g.version2 = true) : g.fanout = 256 := by simp [fanout, hv, blockSize]

def entry (b : Block) (i : Nat) : Nat := if g.version2 then b.get32 (4 * i) else b.get16 (2 * i)

def clearEntry (b : Block) (i : Nat) : Block :=
  if g.version2 then b.set32 (4 * i) 0 else b.set16 (2 * i) 0

/-- Levels of indirection below the direct slots: `i_zone[7]`, `i_zone[8]` and, for
version 2, `i_zone[9]`. -/
def indirections : Nat := if g.version2 then 3 else 2

end Geo

/-- The version, `namelen` and `dirsize` that `read_superblock` takes from the magic number. -/
def versionOf (magic : Nat) : Option (Bool × Nat × Nat) :=
  if magic = minixSuperMagic then some (false, 14, 16)
  else if magic = minixSuperMagic2 then some (false, 30, 32)
  else if magic = minix2SuperMagic then some (true, 14, 16)
  else if magic = minix2SuperMagic2 then some (true, 30, 32)
  else none

/-- The checks of `read_superblock` on the zone size and the bitmap sizes, with the message
`die` prints. -/
def checkGeometry (sb : Super) (g : Geo) : Except String Geo :=
  if sb.logZoneSize ≠ 0 then .error "Only 1k blocks/zones supported"
  else if g.imaps * blockSize * 8 < g.ninodes + 1 then .error "bad s_imap_blocks field in super-block"
  else if g.zmaps * blockSize * 8 < g.zmapNeed then .error "bad s_zmap_blocks field in super-block"
  else .ok g

/-- `read_superblock`. -/
def readSuperblock (io : Io) (disk : Nat → Block) : Except String Geo :=
  if !io.readOk 1 then .error "unable to read super block" else
  let sb := Super.decode (disk 1)
  match versionOf sb.magic with
  | none => .error "bad magic number in super-block"
  | some (v2, namelen, dirsize) =>
    checkGeometry sb ⟨v2, sb.ninodes, if v2 then sb.zones else sb.nzones, sb.imapBlocks,
      sb.zmapBlocks, sb.firstdatazone, dirsize, namelen⟩

theorem checkGeometry_ok {sb : Super} {g g' : Geo} (h : checkGeometry sb g = .ok g') :
    g' = g ∧ g.ninodes + 1 ≤ g.imaps * blockSize * 8 ∧ g.zmapNeed ≤ g.zmaps * blockSize * 8 := by
  unfold checkGeometry at h
  split_ifs at h
  cases h
  exact ⟨rfl, by omega, by omega⟩

/-- A geometry `read_superblock` accepts is the superblock's, as `checkGeometry` let it
through. -/
theorem readSuperblock_ok {io : Io} {disk : Nat → Block} {g : Geo}
    (h : readSuperblock io disk = .ok g) :
    ∃ v2 namelen dirsize, versionOf (Super.decode (disk 1)).magic = some (v2, namelen, dirsize) ∧
      checkGeometry (Super.decode (disk 1))
        ⟨v2, (Super.decode (disk 1)).ninodes,
          if v2 then (Super.decode (disk 1)).zones else (Super.decode (disk 1)).nzones,
          (Super.decode (disk 1)).imapBlocks, (Super.decode (disk 1)).zmapBlocks,
          (Super.decode (disk 1)).firstdatazone, dirsize, namelen⟩ = .ok g := by
  unfold readSuperblock at h
  split_ifs at h
  dsimp only at h
  split at h
  · cases h
  · exact ⟨_, _, _, ‹_›, h⟩

/-! File modes, with the values of `<sys/stat.h>`. -/

def sIfmt : Nat := 0o170000

def isDir (m : Nat) : Bool := m &&& sIfmt = 0o040000
def isReg (m : Nat) : Bool := m &&& sIfmt = 0o100000
def isChr (m : Nat) : Bool := m &&& sIfmt = 0o020000
def isBlk (m : Nat) : Bool := m &&& sIfmt = 0o060000
def isLnk (m : Nat) : Bool := m &&& sIfmt = 0o120000
def isSock (m : Nat) : Bool := m &&& sIfmt = 0o140000
def isFifo (m : Nat) : Bool := m &&& sIfmt = 0o010000

end MinixFsck
