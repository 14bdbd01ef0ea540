import MinixFsck.Layout

/-! The checker's globals as one record, the operator interface `ask`, the path renderer
`get_current_name`, positioned block I/O, and the bitmap and counter updates. -/
namespace MinixFsck

/-- The command-line flags the modelled functions read. -/
structure Opts where
  repair : Bool
  automatic : Bool
  warnMode : Bool
  list : Bool
  verbose : Bool
  force : Bool
  deriving DecidableEq, Repr

/-- What the traversal reads and never changes. -/
structure Env where
  opts : Opts
  io : Io
  geo : Geo

/-- `current_name`, as bytes. -/
abbrev Path := List UInt8

/-- The lines the modelled functions print, with the data each one formats. -/
inductive Msg where
  /-- "Zone nr < FIRSTZONE in file `%s'." -/
  | zoneLow (file : Path)
  /-- "Zone nr >= ZONES in file `%s'." -/
  | zoneHigh (file : Path)
  /-- "Read error: bad block in file '%s'" -/
  | readBad (file : Path)
  /-- "Internal error: trying to write bad block" and "Write request ignored" -/
  | writeIgnored
  /-- "Write error: bad block in file '%s'" -/
  | writeBad (file : Path)
  /-- "Inode %d marked unused, but used for file '%s'" -/
  | markedUnused (nr : Nat) (file : Path)
  /-- "The file `%s' has mode %05o" -/
  | oddMode (file : Path) (mode : Nat)
  /-- "Warning: inode count too big." -/
  | countTooBig
  /-- "Block has been used before. Now in file `%s'." -/
  | usedBefore (file : Path)
  /-- "Block %d in file `%s' is marked not in use." -/
  | blockNotInUse (block : Nat) (file : Path)
  /-- "The directory '%s' contains a bad inode number for file '%.*s'." -/
  | badInodeNr (dir : Path) (name : List UInt8)
  /-- "%s: bad directory: '.' isn't first" -/
  | dotNotFirst (dir : Path)
  /-- "%s: bad directory: '..' isn't second" -/
  | dotdotNotSecond (dir : Path)
  /-- The `-l` line: with `-v`, inode number, mode and link count come first. -/
  | listing (info : Option (Nat × Nat × Nat)) (file : Path) (isDir : Bool)
  /-- "%s: bad directory: size < 32" -/
  | dirTooSmall (dir : Path)
  /-- "Inode %d mode not cleared." -/
  | modeNotCleared (nr : Nat)
  /-- "Inode %d not used, marked used in the bitmap." -/
  | inodeNotUsed (nr : Nat)
  /-- "Inode %d used, marked unused in the bitmap." -/
  | inodeUsedUnmarked (nr : Nat)
  /-- "Inode %d (mode = %07o), i_nlinks=%d, counted=%d." -/
  | nlinksDiffer (nr mode nlinks count : Nat)
  /-- "Zone %d: marked in use, no file uses it." -/
  | zoneNoFile (z : Nat)
  /-- "Zone %d: in use, counted=%d" -/
  | zoneInUseCounted (z count : Nat)
  /-- "Zone %d: not in use, counted=%d" -/
  | zoneNotInUseCounted (z count : Nat)
  /-- "Warning: Firstzone != Norm_firstzone" -/
  | firstzoneWarning
  /-- A question `ask` put, its default, and the answer it returned. -/
  | question (prompt : String) (dflt answer : Bool)
  deriving DecidableEq, Repr

/-- The globals the checker mutates: the device, `inode_buffer`, the two bitmaps, the two
counter arrays, `changed`, `errors_uncorrected`, the name stack, the unread operator
input, what was printed, and the block numbers passed to `write_block`. -/
structure St where
  disk : Nat → Block
  ibuf : Block
  imap : Nat → Bool
  zmap : Nat → Bool
  icount : Nat → Nat
  zcount : Nat → Nat
  changed : Bool
  errors : Bool
  depth : Nat
  names : Block
  input : List Char
  out : List Msg
  writes : List Nat
  super : Block

/-- `MAX_DEPTH`. -/
def maxDepth : Nat := 50

/-- `NAME_MAX + 1`, the length of a row of `name_list`. -/
def nameRow : Nat := 256

namespace St

def say (s : St) (m : Msg) : St := { s with out := s.out ++ [m] }

/-- `mark_inode` and `unmark_inode`. -/
def markInode (s : St) (x : Nat) : St := { s with imap := Function.update s.imap x true, changed := true }

def unmarkInode (s : St) (x : Nat) : St :=
  { s with imap := Function.update s.imap x false, changed := true }

@[simp] theorem say_icount (s : St) (m : Msg) : (s.say m).icount = s.icount := rfl

@[simp] theorem markInode_icount (s : St) (x : Nat) : (s.markInode x).icount = s.icount := rfl

@[simp] theorem unmarkInode_icount (s : St) (x : Nat) : (s.unmarkInode x).icount = s.icount := rfl

@[simp] theorem say_zcount (s : St) (m : Msg) : (s.say m).zcount = s.zcount := rfl

@[simp] theorem markInode_zcount (s : St) (x : Nat) : (s.markInode x).zcount = s.zcount := rfl

@[simp] theorem unmarkInode_zcount (s : St) (x : Nat) : (s.unmarkInode x).zcount = s.zcount := rfl

end St

/-- Bit of `zone_map` that records zone `x`: `(x)-FIRSTZONE+1`. -/
def zoneBit (g : Geo) (x : Nat) : Nat := x - g.firstzone + 1

def zoneInUse (g : Geo) (s : St) (x : Nat) : Bool := s.zmap (zoneBit g x)

def markZone (g : Geo) (s : St) (x : Nat) : St :=
  { s with zmap := Function.update s.zmap (zoneBit g x) true, changed := true }

def unmarkZone (g : Geo) (s : St) (x : Nat) : St :=
  { s with zmap := Function.update s.zmap (zoneBit g x) false, changed := true }

@[simp] theorem markZone_icount (g : Geo) (s : St) (x : Nat) : (markZone g s x).icount = s.icount :=
  rfl

@[simp] theorem unmarkZone_icount (g : Geo) (s : St) (x : Nat) :
    (unmarkZone g s x).icount = s.icount := rfl

@[simp] theorem markZone_zcount (g : Geo) (s : St) (x : Nat) : (markZone g s x).zcount = s.zcount :=
  rfl

@[simp] theorem unmarkZone_zcount (g : Geo) (s : St) (x : Nat) :
    (unmarkZone g s x).zcount = s.zcount := rfl

/-- `if (!++c) c--` on an `unsigned char` counter. -/
def bump (c : Nat) : Nat := if c = 255 then 255 else c + 1

theorem one_le_bump (c : Nat) : 1 ≤ bump c := by
  unfold bump
  split_ifs <;> omega

theorem one_lt_bump {c : Nat} (h : 1 ≤ c) : 1 < bump c := by
  unfold bump
  split_ifs <;> omega

/-- The keyboard loop of `ask`: `Y` or `N` in either case answers, a space or newline takes
the default, anything else is skipped; `none` is end of file. -/
def readAnswer (dflt : Bool) : List Char → Option Bool × List Char
  | [] => (none, [])
  | c :: cs =>
    if c.toUpper = 'Y' then (some true, cs)
    else if c.toUpper = 'N' then (some false, cs)
    else if c = ' ' ∨ c = '\n' then (some dflt, cs)
    else readAnswer dflt cs

/-- `ask`: no without `-r`/`-a`, the default with `-a`, else the operator's answer. Every
answer other than yes sets `errors_uncorrected`. -/
def ask (o : Opts) (prompt : String) (dflt : Bool) (s : St) : Bool × St :=
  let answer (a : Bool) (s : St) : Bool × St :=
    (a, { s.say (.question prompt dflt a) with errors := s.errors || !a })
  if !o.repair then answer false s
  else if o.automatic then answer dflt s
  else match readAnswer dflt s.input with
    | (none, rest) => answer dflt { s with input := rest }
    | (some a, rest) => answer a { s with input := rest }

/-- What `ask` does to the globals: it consumes input, logs the question with its answer, and
records an error unless the answer is yes; without `-r`/`-a` the answer is no. -/
theorem ask_spec (o : Opts) (p : String) (d : Bool) (s : St) :
    (∃ inp, (ask o p d s).2 =
      { s with input := inp, out := s.out ++ [.question p d (ask o p d s).1],
               errors := s.errors || !(ask o p d s).1 }) ∧
    (o.repair = false → (ask o p d s).1 = false) := by
  unfold ask
  split_ifs with hr ha
  · exact ⟨⟨_, rfl⟩, fun _ => rfl⟩
  all_goals
    refine ⟨?_, fun h => by simp [h] at hr⟩
    try split
    all_goals exact ⟨_, rfl⟩

@[simp] theorem ask_icount (o : Opts) (p : String) (d : Bool) (s : St) :
    (ask o p d s).2.icount = s.icount := by
  obtain ⟨⟨_, h⟩, -⟩ := ask_spec o p d s
  rw [h]

@[simp] theorem ask_zcount (o : Opts) (p : String) (d : Bool) (s : St) :
    (ask o p d s).2.zcount = s.zcount := by
  obtain ⟨⟨_, h⟩, -⟩ := ask_spec o p d s
  rw [h]

@[simp] theorem ask_disk (o : Opts) (p : String) (d : Bool) (s : St) :
    (ask o p d s).2.disk = s.disk := by
  obtain ⟨⟨_, h⟩, -⟩ := ask_spec o p d s
  rw [h]

theorem ask_errors (o : Opts) (p : String) (d : Bool) (s : St) :
    (ask o p d s).2.errors = (s.errors || !(ask o p d s).1) := by
  obtain ⟨⟨_, h⟩, -⟩ := ask_spec o p d s
  rw [h]

@[simp] theorem ask_imap (o : Opts) (p : String) (d : Bool) (s : St) :
    (ask o p d s).2.imap = s.imap := by
  obtain ⟨⟨_, h⟩, -⟩ := ask_spec o p d s
  rw [h]

@[simp] theorem ask_ibuf (o : Opts) (p : String) (d : Bool) (s : St) :
    (ask o p d s).2.ibuf = s.ibuf := by
  obtain ⟨⟨_, h⟩, -⟩ := ask_spec o p d s
  rw [h]

@[simp] theorem ask_zmap (o : Opts) (p : String) (d : Bool) (s : St) :
    (ask o p d s).2.zmap = s.zmap := by
  obtain ⟨⟨_, h⟩, -⟩ := ask_spec o p d s
  rw [h]

/-- With `-a`, `ask` takes the default. -/
theorem ask_automatic {o : Opts} (ha : o.automatic = true) (hr : o.repair = true) (p : String)
    (d : Bool) (s : St) : (ask o p d s).1 = d := by
  simp [ask, ha, hr]

/-- `if (ask(prompt, dflt)) fix;` -/
def offer (o : Opts) (prompt : String) (dflt : Bool) (fix : St → St) (s : St) : St :=
  let (a, s) := ask o prompt dflt s
  if a then fix s else s

theorem offer_icount {o : Opts} {p : String} {d : Bool} {fix : St → St}
    (hfix : ∀ t, (fix t).icount = t.icount) (s : St) : (offer o p d fix s).icount = s.icount := by
  unfold offer
  dsimp only
  split_ifs <;> simp only [hfix, ask_icount]

theorem offer_zcount {o : Opts} {p : String} {d : Bool} {fix : St → St}
    (hfix : ∀ t, (fix t).zcount = t.zcount) (s : St) : (offer o p d fix s).zcount = s.zcount := by
  unfold offer
  dsimp only
  split_ifs <;> simp only [hfix, ask_zcount]

theorem offer_disk {o : Opts} {p : String} {d : Bool} {fix : St → St}
    (hfix : ∀ t, (fix t).disk = t.disk) (s : St) : (offer o p d fix s).disk = s.disk := by
  unfold offer
  dsimp only
  split_ifs <;> simp only [hfix, ask_disk]

@[simp] theorem ask_super (o : Opts) (p : String) (d : Bool) (s : St) :
    (ask o p d s).2.super = s.super := by
  obtain ⟨⟨_, h⟩, -⟩ := ask_spec o p d s
  rw [h]

theorem offer_super {o : Opts} {p : String} {d : Bool} {fix : St → St}
    (hfix : ∀ t, (fix t).super = t.super) (s : St) : (offer o p d fix s).super = s.super := by
  unfold offer
  dsimp only
  split_ifs <;> simp only [hfix, ask_super]

/-- With `-a`, `offer` makes the repair. -/
theorem offer_automatic {o : Opts} (ha : o.automatic = true) (hr : o.repair = true) (p : String)
    (fix : St → St) (s : St) : offer o p true fix s = fix (ask o p true s).2 := by
  unfold offer
  simp only [ask_automatic ha hr, if_true]

/-- Row `i` of `name_list` as `get_current_name` copies it: at most `namelen` bytes, up to
the first NUL. -/
def rowName (g : Geo) (names : Block) (i : Nat) : Path :=
  (names.bytes (i * nameRow) g.namelen).takeWhile (· ≠ 0)

/-- `get_current_name`: a `/` before each of the first `name_depth` rows. -/
def getCurrentName (g : Geo) (s : St) : Path :=
  if s.depth = 0 then [47] else (List.range s.depth).flatMap fun i => 47 :: rowName g s.names i

/-- `strncpy(name_list[d], src, n)` for the `n = src.length` bytes of `src`: copied up to
its first NUL, zeros after it. -/
def strncpyRow (names : Block) (d : Nat) (src : List UInt8) : Block := fun i =>
  if d * nameRow ≤ i ∧ i < d * nameRow + src.length then
    if (src.take (i - d * nameRow)).all (· ≠ 0) then src.getD (i - d * nameRow) 0 else 0
  else names i

/-- `if (name_depth < MAX_DEPTH) strncpy(name_list[name_depth], name, namelen);
name_depth++;` -/
def pushName (s : St) (name : List UInt8) : St :=
  { s with names := if s.depth < maxDepth then strncpyRow s.names s.depth name else s.names,
           depth := s.depth + 1 }

/-- `get_current_name(); printf(...); errors_uncorrected = 1;`: a report naming the current
path that no repair follows. -/
def reportError (g : Geo) (msg : Path → Msg) (s : St) : St :=
  { s.say (msg (getCurrentName g s)) with errors := true }

@[simp] theorem reportError_icount (g : Geo) (msg : Path → Msg) (s : St) :
    (reportError g msg s).icount = s.icount := rfl

@[simp] theorem reportError_zcount (g : Geo) (msg : Path → Msg) (s : St) :
    (reportError g msg s).zcount = s.zcount := rfl

@[simp] theorem pushName_zcount (s : St) (name : List UInt8) : (pushName s name).zcount = s.zcount :=
  rfl

/-- `read_block`: zeros for block 0; on a failed read, zeros, a message and
`errors_uncorrected`. -/
def readBlock (e : Env) (nr : Nat) (s : St) : Block × St :=
  if nr = 0 then (Block.zero, s)
  else if e.io.readOk (phys nr) then (s.disk (phys nr), s)
  else (Block.zero, reportError e.geo .readBad s)

@[simp] theorem readBlock_icount (e : Env) (nr : Nat) (s : St) :
    (readBlock e nr s).2.icount = s.icount := by
  unfold readBlock
  split_ifs <;> rfl

@[simp] theorem readBlock_zcount (e : Env) (nr : Nat) (s : St) :
    (readBlock e nr s).2.zcount = s.zcount := by
  unfold readBlock
  split_ifs <;> rfl

/-- `write_block`: block 0 is skipped, a block outside `[FIRSTZONE, ZONES)` is refused. -/
def writeBlock (e : Env) (nr : Nat) (b : Block) (s : St) : St :=
  let s := { s with writes := s.writes ++ [nr] }
  if nr = 0 then s
  else if nr < e.geo.firstzone ∨ e.geo.zones ≤ nr then { s.say .writeIgnored with errors := true }
  else if e.io.writeOk (phys nr) then
    { s with disk := Function.update s.disk (phys nr) ((s.disk (phys nr)).overwrite b) }
  else reportError e.geo .writeBad s

@[simp] theorem writeBlock_icount (e : Env) (nr : Nat) (b : Block) (s : St) :
    (writeBlock e nr b s).icount = s.icount := by
  unfold writeBlock
  split_ifs <;> rfl

@[simp] theorem writeBlock_zcount (e : Env) (nr : Nat) (b : Block) (s : St) :
    (writeBlock e nr b s).zcount = s.zcount := by
  unfold writeBlock
  split_ifs <;> rfl

@[simp] theorem writeBlock_zmap (e : Env) (nr : Nat) (b : Block) (s : St) :
    (writeBlock e nr b s).zmap = s.zmap := by
  unfold writeBlock
  split_ifs <;> rfl

end MinixFsck
