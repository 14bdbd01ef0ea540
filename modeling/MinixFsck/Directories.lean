import MinixFsck.Automatic
import MinixFsck.ZoneCounts

/-! The directory tree a read-only pass vouches for, read from the image as it started, and
the rank on that tree under which the traversal ends. -/
namespace MinixFsck

section Image

/-- A step whose answer comes from the device and the inode table alone, and which keeps
both. -/
structure ReadsImage {α : Type} (f : St → α × St) : Prop where
  disk : ∀ s, (f s).2.disk = s.disk
  ibuf : ∀ s, (f s).2.ibuf = s.ibuf
  value : ∀ s t, s.disk = t.disk → s.ibuf = t.ibuf → (f s).1 = (f t).1

theorem ReadsImage.bind {α β : Type} {f : St → α × St} {g : α → St → β × St} (hf : ReadsImage f)
    (hg : ∀ a, ReadsImage (g a)) : ReadsImage fun s => g (f s).1 (f s).2 where
  disk s := ((hg _).disk _).trans (hf.disk s)
  ibuf s := ((hg _).ibuf _).trans (hf.ibuf s)
  value s t hd hi := by
    rw [hf.value s t hd hi]
    exact (hg _).value _ _ (by rw [hf.disk, hf.disk, hd]) (by rw [hf.ibuf, hf.ibuf, hi])

/-- `bind` in the form the resolvers take their steps in, `let (block, s) := f s`. -/
theorem ReadsImage.bindM {α β : Type} {f : St → α × St} {g : α → St → β × St} (hf : ReadsImage f)
    (hg : ∀ a, ReadsImage (g a)) : ReadsImage fun s => match f s with | (a, t) => g a t :=
  hf.bind hg

theorem ReadsImage.ite {α : Type} {f g : St → α × St} (c : Prop) [Decidable c]
    (hf : ReadsImage f) (hg : ReadsImage g) : ReadsImage fun s => if c then f s else g s := by
  by_cases h : c
  · simpa only [if_pos h] using hf
  · simpa only [if_neg h] using hg

variable (e : Env)

theorem readBlock_image (nr : Nat) : ReadsImage (readBlock e nr) where
  disk s := (readBlock_recounted e nr s).2.disk
  ibuf s := (readBlock_recounted e nr s).2.ibuf
  value s t hd _ := by rw [(readBlock_recounted e nr s).1, (readBlock_recounted e nr t).1, hd]

variable {e} (hr : e.opts.repair = false)
include hr

/-- `check_zone_nr` answers from the number alone, and without `-r` removes nothing. -/
theorem checkZoneNr_image (nr : Nat) :
    ReadsImage fun s => ((checkZoneNr e nr s).1, (checkZoneNr e nr s).2.2) where
  disk s := (checkZoneNr_readOnly hr nr s).2.2.disk
  ibuf s := (checkZoneNr_readOnly hr nr s).2.2.ibuf
  value s t _ _ := by
    simp only [(checkZoneNr_readOnly hr nr s).1, (checkZoneNr_readOnly hr nr t).1]

theorem slotNr_image (ino k : Nat) : ReadsImage (slotNr e ino k) := by
  have h : ∀ s, slotNr e ino k s = ((checkZoneNr e (e.geo.zoneOf s.ibuf ino k) s).1,
      (checkZoneNr e (e.geo.zoneOf s.ibuf ino k) s).2.2) := fun s => by
    unfold slotNr
    simp only [(checkZoneNr_readOnly hr _ s).2.1, Bool.false_eq_true, if_false]
  refine ⟨fun s => ?_, fun s => ?_, fun s t hd hi => ?_⟩ <;> simp only [h]
  · exact (checkZoneNr_image hr _).disk s
  · exact (checkZoneNr_image hr _).ibuf s
  · rw [hi]
    exact (checkZoneNr_image hr _).value s t hd hi

theorem indirect_image (block i : Nat) : ReadsImage (indirect e block i) := by
  have h : indirect e block i = fun s =>
      ((checkZoneNr e (e.geo.entry (readBlock e block s).1 i) (readBlock e block s).2).1,
        (checkZoneNr e (e.geo.entry (readBlock e block s).1 i) (readBlock e block s).2).2.2) :=
    funext fun s => by
      unfold indirect
      simp only [(checkZoneNr_readOnly hr _ _).2.1, Bool.false_eq_true, if_false]
  rw [h]
  exact (readBlock_image e block).bind fun blk => checkZoneNr_image hr (e.geo.entry blk i)

theorem mapBlock_image (ino blknr : Nat) : ReadsImage (mapBlock e ino blknr) := by
  unfold mapBlock
  exact .ite _ (slotNr_image hr ino blknr) (.ite _
    ((slotNr_image hr ino 7).bindM fun b => indirect_image hr b _)
    ((slotNr_image hr ino 8).bindM fun b => (indirect_image hr b _).bindM fun b => indirect_image hr b _))

theorem mapBlock2_image (ino blknr : Nat) : ReadsImage (mapBlock2 e ino blknr) := by
  unfold mapBlock2
  exact .ite _ (slotNr_image hr ino blknr) (.ite _
    ((slotNr_image hr ino 7).bindM fun b => indirect_image hr b _) (.ite _
    ((slotNr_image hr ino 8).bindM fun b => (indirect_image hr b _).bindM fun b => indirect_image hr b _)
    ((slotNr_image hr ino 9).bindM fun b => (indirect_image hr b _).bindM fun b =>
      (indirect_image hr b _).bindM fun b => indirect_image hr b _)))

theorem opsOf_image (ino b : Nat) : ReadsImage ((opsOf e.geo).mapBlock e ino b) := by
  unfold opsOf
  split
  · exact mapBlock2_image hr ino b
  · exact mapBlock_image hr ino b

end Image

/-- The entry `check_file` reads at byte `offset` of directory `d` from the device and the
inode table of `s`: its inode number, 0 for one past `INODES`, and its name. -/
def dirEntry (e : Env) (s : St) (d offset : Nat) : Nat × List UInt8 :=
  ((readEntry (opsOf e.geo).mapBlock e d offset s).1, (readEntry (opsOf e.geo).mapBlock e d offset s).2.1)

/-- `check_file` takes the number and the name of an entry from the block the resolver names,
the number 0 when it is past `INODES`. -/
theorem readEntry_value (mb : Env → Nat → Nat → St → Nat × St) (e : Env) (dir offset : Nat)
    (s : St) : ((readEntry mb e dir offset s).1, (readEntry mb e dir offset s).2.1) =
      let blk := (readBlock e (mb e dir (offset / blockSize) s).1 (mb e dir (offset / blockSize) s).2).1
      (if e.geo.ninodes < blk.get16 (offset % blockSize) then 0 else blk.get16 (offset % blockSize),
        blk.bytes (offset % blockSize + 2) e.geo.namelen) := by
  unfold readEntry
  simp only []
  split_ifs <;> rfl

theorem dirEntry_le (e : Env) (s : St) (d offset : Nat) : (dirEntry e s d offset).1 ≤ e.geo.ninodes := by
  rw [dirEntry, readEntry_value]
  dsimp only
  split_ifs <;> omega

/-- Without `-r` the entry at an offset is a function of the device and the inode table. -/
theorem dirEntry_congr {e : Env} (hr : e.opts.repair = false) {s t : St} (hd : s.disk = t.disk)
    (hi : s.ibuf = t.ibuf) (d offset : Nat) : dirEntry e s d offset = dirEntry e t d offset := by
  have hb := ((opsOf_image hr d (offset / blockSize)).bind fun b => readBlock_image e b).value s t hd hi
  rw [dirEntry, dirEntry, readEntry_value, readEntry_value, hb]

/-- What `get_inode` returns: an inode for a number of `[1, INODES]`, `NULL` otherwise. -/
theorem getInodeWith_fst (unused : Env → Nat → St → St) (e : Env) (nr : Nat) (s : St) :
    (getInodeWith unused e nr s).1 = decide (1 ≤ nr ∧ nr ≤ e.geo.ninodes) := by
  unfold getInodeWith
  split_ifs <;> simp <;> omega

theorem opsOf_found (e : Env) (nr : Nat) (s : St) :
    ((opsOf e.geo).getInode e nr s).1 = decide (1 ≤ nr ∧ nr ≤ e.geo.ninodes) := by
  unfold opsOf
  split <;> exact getInodeWith_fst ..

/-- The `.`/`..` checks record no error only when the entry at offset 0 is a found `.`, and
the entry at `dirsize` a found `..`. -/
theorem dotEntries_clean {g : Geo} {offset : Nat} {found : Bool} {name : List UInt8} {s : St}
    (h : (dotEntries g offset found name s).2.errors = false) :
    (offset = 0 → found = true ∧ isDotName name = true) ∧
      (offset = g.dirsize → offset ≠ 0 → found = true ∧ isDotDotName name = true) := by
  unfold dotEntries at h
  split_ifs at h <;> simp_all [reportError]

theorem sizeCheck_clean {g : Geo} {ino : Nat} {s : St} (h : (sizeCheck g ino s).errors = false) :
    2 * g.dirsize ≤ g.sizeOf s.ibuf ino := by
  unfold sizeCheck at h
  split_ifs at h with hs
  · simp [reportError] at h
  · omega

/-- The directories a traversal enters, in order: `recursive_check` on a directory, then the
directories its loop enters. -/
def travDirs (e : Env) : Nat → Call → St → List Nat
  | 0, _, _ => []
  | n + 1, .dir ino, s =>
    if !isDir (e.geo.modeOf s.ibuf ino) then []
    else ino :: travDirs e n (.loop ino 0) (sizeCheck e.geo ino s)
  | n + 1, .loop ino offset, s =>
    if offset < e.geo.sizeOf s.ibuf ino then
      let r := checkFileWith (opsOf e.geo) e (fun i s => trav e n (.dir i) s) ino offset s
      (match fileStep e (opsOf e.geo) ino offset s with
        | .inl _ => []
        | .inr (c, u) => travDirs e n (.dir c) u) ++
      if r.2 = .ok then travDirs e n (.loop ino (nextOffset e.geo offset)) r.1 else []
    else []

/-- Directory `d` as `check_file` reads it from the image of `s`: a directory at least two
entries long, whose first entry is `.` and second `..`, each naming an inode of
`[1, INODES]`. -/
structure DirShaped (e : Env) (s : St) (d : Nat) : Prop where
  dir : isDir (e.geo.modeOf s.ibuf d) = true
  size : 2 * e.geo.dirsize ≤ e.geo.sizeOf s.ibuf d
  dot : 1 ≤ (dirEntry e s d 0).1 ∧ (dirEntry e s d 0).1 ≤ e.geo.ninodes ∧
    isDotName (dirEntry e s d 0).2 = true
  dotdot : 1 ≤ (dirEntry e s d e.geo.dirsize).1 ∧ (dirEntry e s d e.geo.dirsize).1 ≤ e.geo.ninodes ∧
    isDotDotName (dirEntry e s d e.geo.dirsize).2 = true

/-- Entry `k` of directory `d`, past its first two, names directory `c` in the image of `s`. -/
def Subdir (e : Env) (s : St) (d c : Nat) : Prop :=
  ∃ k, 2 ≤ k ∧ k * e.geo.dirsize < e.geo.sizeOf s.ibuf d ∧ (dirEntry e s d (k * e.geo.dirsize)).1 = c ∧
    1 ≤ c ∧ isDir (e.geo.modeOf s.ibuf c) = true

/-- The directories the image of `s` reaches from the root through `Subdir`. -/
inductive Reach (e : Env) (s : St) : Nat → Prop
  | root : Reach e s rootIno
  | sub {d c : Nat} : Reach e s d → Subdir e s d c → Reach e s c

/-- The entry at `offset` of directory `d` as a pass that records no error finds it in the
image of `s₀`: a found `.` at offset 0, a found `..` at `dirsize`, and elsewhere, when it names
a directory, one that `L` holds. -/
structure EntryFacts (e : Env) (s₀ : St) (d offset : Nat) (L : List Nat) : Prop where
  dot : offset = 0 → 1 ≤ (dirEntry e s₀ d offset).1 ∧ isDotName (dirEntry e s₀ d offset).2 = true
  dotdot : offset = e.geo.dirsize → offset ≠ 0 →
    1 ≤ (dirEntry e s₀ d offset).1 ∧ isDotDotName (dirEntry e s₀ d offset).2 = true
  sub : offset ≠ 0 → offset ≠ e.geo.dirsize → 1 ≤ (dirEntry e s₀ d offset).1 →
    isDir (e.geo.modeOf s₀.ibuf (dirEntry e s₀ d offset).1) = true → (dirEntry e s₀ d offset).1 ∈ L

theorem EntryFacts.mono {e : Env} {s₀ : St} {d offset : Nat} {L L' : List Nat}
    (h : EntryFacts e s₀ d offset L) (hL : L ⊆ L') : EntryFacts e s₀ d offset L' :=
  ⟨h.dot, h.dotdot, fun h0 hD h1 hdir => hL (h.sub h0 hD h1 hdir)⟩

/-- Every directory of `L` is well formed in the image of `s₀`, and `L` holds every directory
it names past its first two entries. -/
def DirsClosed (e : Env) (s₀ : St) (L : List Nat) : Prop :=
  ∀ d ∈ L, DirShaped e s₀ d ∧ ∀ c, Subdir e s₀ d c → c ∈ L

theorem DirsClosed.append {e : Env} {s₀ : St} {L L' : List Nat} (h : DirsClosed e s₀ L)
    (h' : DirsClosed e s₀ L') : DirsClosed e s₀ (L ++ L') := fun d hd => by
  rcases List.mem_append.1 hd with hd | hd
  · exact ⟨(h d hd).1, fun c hc => List.mem_append_left _ ((h d hd).2 c hc)⟩
  · exact ⟨(h' d hd).1, fun c hc => List.mem_append_right _ ((h' d hd).2 c hc)⟩

theorem DirsClosed.cons {e : Env} {s₀ : St} {d : Nat} {L : List Nat} (hd : DirShaped e s₀ d)
    (hsub : ∀ c, Subdir e s₀ d c → c ∈ L) (h : DirsClosed e s₀ L) : DirsClosed e s₀ (d :: L) :=
  fun d' hd' => by
    rcases List.mem_cons.1 hd' with rfl | hd'
    · exact ⟨hd, fun c hc => List.mem_cons_of_mem _ (hsub c hc)⟩
    · exact ⟨(h d' hd').1, fun c hc => List.mem_cons_of_mem _ ((h d' hd').2 c hc)⟩

/-- What a call of the traversal vouches for in `L`: `recursive_check(d)` enters `d`, and its
loop from `offset` finds each entry at `offset + j * dirsize` within the directory as
`EntryFacts` says. -/
def Covers (e : Env) (s₀ : St) : Call → List Nat → Prop
  | .dir d, L => d ∈ L
  | .loop d offset, L => ∀ j, offset + j * e.geo.dirsize < e.geo.sizeOf s₀.ibuf d →
      EntryFacts e s₀ d (offset + j * e.geo.dirsize) L

/-- A state of a read-only pass from `s₀`: the device and the inode table as read, and no
question answered yes. -/
structure AsRead (s₀ s : St) : Prop where
  disk : s.disk = s₀.disk
  ibuf : s.ibuf = s₀.ibuf
  noYes : anyYes s.out = false

theorem AsRead.recounted {s₀ s t : St} {L : List Nat} (hs : AsRead s₀ s) (hk : Recounted L s t)
    (hy : anyYes t.out = false) : AsRead s₀ t :=
  ⟨hk.disk.trans hs.disk, hk.ibuf.trans hs.ibuf, hy⟩

theorem Geo.sizeOf_lt (g : Geo) (ibuf : Block) (nr : Nat) : g.sizeOf ibuf nr < 2 ^ 32 :=
  Block.get32_lt _ _

section Walk

variable {e : Env} (hr : e.opts.repair = false) {s₀ : St}
include hr

theorem AsRead.keeps {s t : St} (hs : AsRead s₀ s) (hk : Keeps e.opts s t) : AsRead s₀ t := by
  have hy := (hk.readOnly hr).trans hs.noYes
  have fr := hk.frame hy
  exact ⟨fr.disk.trans hs.disk, fr.ibuf.trans hs.ibuf, hy⟩

theorem AsRead.entry {s : St} (hs : AsRead s₀ s) (d offset : Nat) :
    dirEntry e s d offset = dirEntry e s₀ d offset :=
  dirEntry_congr hr hs.disk hs.ibuf d offset

/-- Without `-r` a state is agreed exactly when it records no error. -/
theorem agreed_readOnly {t : St} : Agreed e t ↔ t.errors = false := by
  simp [Agreed, hr]

/-- A stretch of the traversal that ends with no error recorded started with none. -/
theorem trav_clean (n : Nat) (c : Call) (s : St) (h : (trav e n c s).1.errors = false) :
    s.errors = false :=
  (agreed_readOnly hr).1 (((agreedZones_closed e).trav addZone_agreedZones
    (fun _ _ => .of_eq id rfl rfl) (fun _ _ => .of_eq id rfl rfl) n c s).back
      ((agreed_readOnly hr).2 h))

omit hr in
theorem opsOf_push_agreed (s : St) (name : List UInt8) :
    AgreedZones e s ((opsOf e.geo).push s name) := by
  unfold opsOf
  split <;> exact .of_eq id rfl rfl

/-- `check_file` past its reading of an entry records no error it would undo. -/
theorem fileStep_clean (d offset : Nat) (s : St)
    (h : (match fileStep e (opsOf e.geo) d offset s with
      | .inl t => t | .inr (_, u) => u).errors = false) :
    (fetchEntry (opsOf e.geo) e d offset s).2.errors = false := by
  rw [← agreed_readOnly hr] at h ⊢
  unfold fileStep at h
  generalize fetchEntry (opsOf e.geo) e d offset s = r at h ⊢
  obtain ⟨_ | ⟨ino, name⟩, t⟩ := r
  · exact h
  · have k := (agreedZones_closed e).enterEntry addZone_agreedZones opsOf_push_agreed ino name t
    dsimp only at h
    split_ifs at h
    · exact k.back h
    · exact k.back h

/-- An entry read with no error recorded: a found `.` at offset 0, a found `..` at
`dirsize`. -/
theorem fetchEntry_dots {d offset : Nat} {s : St} (hs : AsRead s₀ s)
    (he : (fetchEntry (opsOf e.geo) e d offset s).2.errors = false) :
    (offset = 0 → 1 ≤ (dirEntry e s₀ d offset).1 ∧ isDotName (dirEntry e s₀ d offset).2 = true) ∧
      (offset = e.geo.dirsize → offset ≠ 0 →
        1 ≤ (dirEntry e s₀ d offset).1 ∧ isDotDotName (dirEntry e s₀ d offset).2 = true) := by
  rw [← hs.entry hr]
  unfold fetchEntry at he
  unfold dirEntry
  generalize readEntry (opsOf e.geo).mapBlock e d offset s = r at he ⊢
  obtain ⟨ino, name, t⟩ := r
  dsimp only at he ⊢
  have hc := dotEntries_clean he
  rw [opsOf_found] at hc
  simp only [decide_eq_true_eq] at hc
  exact ⟨fun h0 => ⟨(hc.1 h0).1.1, (hc.1 h0).2⟩, fun hD h0 => ⟨(hc.2 hD h0).1.1, (hc.2 hD h0).2⟩⟩

/-- Past offsets 0 and `dirsize`, `check_file` recurses into every directory an entry
names. -/
theorem fileStep_sub {d offset : Nat} {s : St} (hs : AsRead s₀ s) (h0 : offset ≠ 0)
    (hD : offset ≠ e.geo.dirsize) (h1 : 1 ≤ (dirEntry e s₀ d offset).1)
    (hdir : isDir (e.geo.modeOf s₀.ibuf (dirEntry e s₀ d offset).1) = true) :
    ∃ u, fileStep e (opsOf e.geo) d offset s = .inr ((dirEntry e s₀ d offset).1, u) := by
  obtain ⟨hmb, hgi, hpush⟩ := opsOf_keeps e e.geo
  have hf : (fetchEntry (opsOf e.geo) e d offset s).1 = some (dirEntry e s₀ d offset) := by
    have hle := dirEntry_le e s d offset
    rw [← hs.entry hr] at h1 ⊢
    unfold fetchEntry
    unfold dirEntry at h1 hle ⊢
    generalize readEntry (opsOf e.geo).mapBlock e d offset s = r at h1 hle ⊢
    obtain ⟨ino, name, t⟩ := r
    dsimp only at h1 hle ⊢
    rw [opsOf_found, dotEntries_other h0 hD]
    simp [h1, hle]
  have hk := hs.keeps hr ((fetchEntry_keeps e hmb hgi d offset s).trans
    (enterEntry_keeps e hpush (dirEntry e s₀ d offset).1 (dirEntry e s₀ d offset).2 _))
  unfold fileStep
  dsimp only
  rw [hf]
  dsimp only
  rw [hk.ibuf, if_pos hdir]
  exact ⟨_, rfl⟩

theorem entryFacts {d offset : Nat} {s : St} {L : List Nat} (hs : AsRead s₀ s)
    (he : (fetchEntry (opsOf e.geo) e d offset s).2.errors = false)
    (hL : ∀ c u, fileStep e (opsOf e.geo) d offset s = .inr (c, u) → c ∈ L) :
    EntryFacts e s₀ d offset L where
  dot := (fetchEntry_dots hr hs he).1
  dotdot := (fetchEntry_dots hr hs he).2
  sub h0 hD h1 hdir := by
    obtain ⟨u, hu⟩ := fileStep_sub hr hs h0 hD h1 hdir
    exact hL _ _ hu

omit hr in
/-- The loop from `offset` finds its first entry and then goes on from the next offset, which
is `offset + dirsize` while it stays within the directory. -/
theorem covers_loop {d offset : Nat} {L : List Nat} (hE : EntryFacts e s₀ d offset L)
    (hC : Covers e s₀ (.loop d (nextOffset e.geo offset)) L) : Covers e s₀ (.loop d offset) L := by
  intro j hj
  cases j with
  | zero => simpa using hE
  | succ j =>
    have hlt := e.geo.sizeOf_lt s₀.ibuf d
    rw [Nat.succ_mul] at hj
    have hn : nextOffset e.geo offset = offset + e.geo.dirsize :=
      Nat.mod_eq_of_lt (by omega)
    have := hC j (by rw [hn]; omega)
    rwa [hn, show offset + e.geo.dirsize + j * e.geo.dirsize = offset + (j + 1) * e.geo.dirsize by
      rw [Nat.succ_mul]; omega] at this

omit hr in
theorem sizeCheck_keeps (ino : Nat) (s : St) : Keeps e.opts s (sizeCheck e.geo ino s) := by
  unfold sizeCheck
  split_ifs
  · exact keeps_reportError _ .dirTooSmall (fun _ => rfl) s
  · exact .refl s

variable (hd : 0 < e.geo.dirsize)
include hd

/-- A read-only stretch of the traversal that ends normally with no error recorded: every
directory it enters is well formed and has its subdirectories entered with it, and a call
covers what `Covers` says. -/
theorem trav_dirs : ∀ (n : Nat) (c : Call) (s : St), AsRead s₀ s → (trav e n c s).2 = .ok →
    (trav e n c s).1.errors = false →
      DirsClosed e s₀ (travDirs e n c s) ∧ Covers e s₀ c (travDirs e n c s)
  | 0, _, _, _, h, _ => absurd h (by simp [trav])
  | n + 1, .dir d, s, hs, hok, he => by
    have hdir : isDir (e.geo.modeOf s.ibuf d) = true := by
      by_contra hn
      simp [trav, hn] at hok
    rw [trav_dir_eq hdir] at hok he
    obtain ⟨hG, hC⟩ := trav_dirs n (.loop d 0) _ (hs.keeps hr (sizeCheck_keeps d s)) hok he
    have hsz : 2 * e.geo.dirsize ≤ e.geo.sizeOf s₀.ibuf d := by
      rw [← hs.ibuf]
      exact sizeCheck_clean (trav_clean hr n _ _ he)
    rw [travDirs, if_neg (by simp [hdir])]
    rw [hs.ibuf] at hdir
    have h0 := hC 0 (by omega)
    have h1 := hC 1 (by omega)
    simp only [Nat.zero_mul, Nat.add_zero, Nat.one_mul, Nat.zero_add] at h0 h1
    refine ⟨DirsClosed.cons ⟨hdir, hsz, ?_, ?_⟩ (fun c hc => ?_) hG, List.mem_cons_self _ _⟩
    · exact ⟨(h0.dot rfl).1, dirEntry_le .., (h0.dot rfl).2⟩
    · exact ⟨(h1.dotdot rfl (by omega)).1, dirEntry_le .., (h1.dotdot rfl (by omega)).2⟩
    · obtain ⟨k, hk, hks, rfl, hc1, hcd⟩ := hc
      have h2 : 2 * e.geo.dirsize ≤ k * e.geo.dirsize := Nat.mul_le_mul_right _ hk
      have hE := hC k (by rwa [zero_add])
      rw [zero_add] at hE
      exact hE.sub (by omega) (by omega) hc1 hcd
  | n + 1, .loop d offset, s, hs, hok, he => by
    by_cases ho : offset < e.geo.sizeOf s.ibuf d
    case neg =>
      rw [travDirs, if_neg ho]
      rw [hs.ibuf] at ho
      exact ⟨nofun, fun j hj => absurd (lt_of_le_of_lt (Nat.le_add_right _ _) hj) ho⟩
    rw [trav_loop_eq ho, checkFileWith_eq] at hok he
    simp only [travDirs, if_pos ho, checkFileWith_eq]
    have hf := fileStep_readOnly hr d offset s hs.noYes
    have hfc := fileStep_clean hr d offset s
    cases hst : fileStep e (opsOf e.geo) d offset s with
    | inl t =>
      rw [hst] at hf hfc hok he
      simp only [andThen_ok, if_true, List.nil_append] at hok he ⊢
      obtain ⟨hG, hC⟩ := trav_dirs n _ t (hs.recounted hf.1 hf.2) hok he
      exact ⟨hG, covers_loop (entryFacts hr hs (hfc (trav_clean hr n _ _ he))
        fun c u h => by rw [hst] at h; cases h) hC⟩
    | inr cu =>
      obtain ⟨c, u⟩ := cu
      rw [hst] at hf hfc hok he
      dsimp only at hok he ⊢
      obtain ⟨hok1, hok2⟩ := andThen_eq_ok hok
      rw [hok2] at hok he
      obtain ⟨hok3, hok4⟩ := andThen_eq_ok hok1
      rw [hok1, if_pos rfl, hok4]
      rw [hok4] at hok he
      have hu := hs.recounted hf.1 hf.2
      have hv := hu.keeps hr (trav_keeps e n (.dir c) u)
      have hev := trav_clean hr n _ _ he
      obtain ⟨hG1, hC1⟩ := trav_dirs n (.dir c) u hu hok3 hev
      obtain ⟨hG2, hC2⟩ := trav_dirs n _ (leave (trav e n (.dir c) u).1).1 ⟨hv.disk, hv.ibuf, hv.noYes⟩ hok he
      refine ⟨hG1.append hG2, covers_loop (entryFacts hr hs (hfc (trav_clean hr n _ _ hev))
        fun c' u' h => ?_) fun j hj => (hC2 j hj).mono (List.subset_append_right _ _)⟩
      rw [hst] at h
      cases h
      exact List.mem_append_left _ hC1

end Walk

/-- A read-only run of `check`/`check2` that ends normally with `errors_uncorrected` clear
vouches for the directory tree of the image: every directory `recursive_check` enters is at
least two entries long, with `.` first and `..` second, each naming an inode of `[1, INODES]`;
and it enters the root and every directory that an entry past the first two of an entered
directory names. -/
theorem check_readOnly_dirs (e : Env) (fuel : Nat) (s : St) (hr : e.opts.repair = false)
    (hy : anyYes s.out = false) (hd : 0 < e.geo.dirsize) (h : (check e fuel s).2 = .ok)
    (he : (check e fuel s).1.errors = false) :
    (∀ d ∈ travDirs e fuel (.dir rootIno) (traverseStart e s), DirShaped e s d) ∧
      ∀ d, Reach e s d → d ∈ travDirs e fuel (.dir rootIno) (traverseStart e s) := by
  obtain ⟨-, hT, -⟩ := check_ok_agreed h he
  have hs0 : AsRead s { s with icount := fun _ => 0, zcount := fun _ => 0 } := ⟨rfl, rfl, hy⟩
  have hs : AsRead s (traverseStart e s) := hs0.keeps hr (checkZones_keeps e rootIno _)
  obtain ⟨hG, hC⟩ := trav_dirs hr hd fuel (.dir rootIno) _ hs (andThen_eq_ok h).1
    ((agreed_readOnly hr).1 hT)
  refine ⟨fun d hm => (hG d hm).1, fun d hR => ?_⟩
  induction hR with
  | root => exact hC
  | sub _ hsub ih => exact (hG _ ih).2 _ hsub

set_option maxRecDepth 20000 in
/-- The read-only run on `nestedImage` ends with no error recorded, having entered the root and
directory 2. -/
theorem check_readOnly_dirs_nested :
    (tinyEnv readOnlyOpts).opts.repair = false ∧ anyYes (tinyTables nestedImage).out = false ∧
      0 < (tinyEnv readOnlyOpts).geo.dirsize ∧
      (check (tinyEnv readOnlyOpts) 20 (tinyTables nestedImage)).2 = .ok ∧
      (check (tinyEnv readOnlyOpts) 20 (tinyTables nestedImage)).1.errors = false ∧
      travDirs (tinyEnv readOnlyOpts) 20 (.dir rootIno)
        (traverseStart (tinyEnv readOnlyOpts) (tinyTables nestedImage)) = [1, 2] ∧
      (∀ d ∈ travDirs (tinyEnv readOnlyOpts) 20 (.dir rootIno)
          (traverseStart (tinyEnv readOnlyOpts) (tinyTables nestedImage)),
        DirShaped (tinyEnv readOnlyOpts) (tinyTables nestedImage) d) ∧
      ∀ d, Reach (tinyEnv readOnlyOpts) (tinyTables nestedImage) d →
        d ∈ travDirs (tinyEnv readOnlyOpts) 20 (.dir rootIno)
          (traverseStart (tinyEnv readOnlyOpts) (tinyTables nestedImage)) :=
  have h : (check (tinyEnv readOnlyOpts) 20 (tinyTables nestedImage)).2 = .ok := by decide
  have he : (check (tinyEnv readOnlyOpts) 20 (tinyTables nestedImage)).1.errors = false := by
    decide
  ⟨rfl, rfl, by decide, h, he, by decide,
    check_readOnly_dirs _ 20 _ rfl rfl (by decide) h he⟩

/-! Termination from the image. A read-only pass reads every entry from the image as it
started, so when the directories can be ranked, each entry `check_file` recurses on leading to
a higher rank, no call re-enters a directory on its path. -/

/-- Entry `offset` of directory `d` in the image of `s` is one `check_file` recurses on: it
names a directory of `[1, INODES]`, and it is neither a `.` at offset 0 nor a `..` at
`dirsize`. -/
def ChildAt (e : Env) (s : St) (d offset : Nat) : Prop :=
  1 ≤ (dirEntry e s d offset).1 ∧ isDir (e.geo.modeOf s.ibuf (dirEntry e s d offset).1) = true ∧
    ¬(offset = 0 ∧ isDotName (dirEntry e s d offset).2 = true) ∧
    ¬(offset = e.geo.dirsize ∧ isDotDotName (dirEntry e s d offset).2 = true)

instance (e : Env) (s : St) (d offset : Nat) : Decidable (ChildAt e s d offset) :=
  inferInstanceAs (Decidable (_ ∧ _))

/-- `rank` grows along every entry `check_file` recurses on, from each inode up to `INODES + 1`,
and every directory among them has an `i_size` that `offset += dirsize` cannot wrap. -/
def RankedImage (e : Env) (s : St) (rank : Nat → Nat) : Prop :=
  ∀ d, d < e.geo.ninodes + 2 →
    (isDir (e.geo.modeOf s.ibuf d) = true → e.geo.sizeOf s.ibuf d + e.geo.dirsize ≤ 2 ^ 32) ∧
    ∀ offset, offset < e.geo.sizeOf s.ibuf d → ChildAt e s d offset →
      rank d < rank (dirEntry e s d offset).1

instance (e : Env) (s : St) (rank : Nat → Nat) : Decidable (RankedImage e s rank) :=
  inferInstanceAs (Decidable (∀ d, d < _ → _))

theorem dotEntries_not_done {g : Geo} {offset : Nat} {name : List UInt8} {s : St}
    (h : (dotEntries g offset true name s).1 = false) :
    ¬(offset = 0 ∧ isDotName name = true) ∧ ¬(offset = g.dirsize ∧ isDotDotName name = true) := by
  unfold dotEntries at h
  split_ifs at h <;> simp_all

/-- Where a read-only pass stands in a ranked image: on `recursive_check(c)`, every directory
on its path ranks below `c`; in the loop over `d`, `d` heads the path and ranks above the rest
and is a directory. -/
def RankedAt (e : Env) (s₀ : St) (rank : Nat → Nat) : List Nat → Call → Prop
  | path, .dir c => c < e.geo.ninodes + 2 ∧ ∀ p ∈ path, rank p < rank c
  | path, .loop d _ => d < e.geo.ninodes + 2 ∧ isDir (e.geo.modeOf s₀.ibuf d) = true ∧
      ∃ rest, path = d :: rest ∧ ∀ p ∈ rest, rank p < rank d

section Ranked

variable {e : Env} (hr : e.opts.repair = false) {s₀ : St}
include hr

/-- A directory `check_file` recurses on is the one the image names at that entry. -/
theorem fileStep_childAt {d offset c : Nat} {s u : St} (hs : AsRead s₀ s)
    (h : fileStep e (opsOf e.geo) d offset s = .inr (c, u)) :
    (dirEntry e s₀ d offset).1 = c ∧ ChildAt e s₀ d offset := by
  obtain ⟨hmb, hgi, hpush⟩ := opsOf_keeps e e.geo
  obtain ⟨name, hf⟩ := fileStep_inr h
  have hdir : isDir (e.geo.modeOf s₀.ibuf c) = true := by
    have hk := hs.keeps hr ((fetchEntry_keeps e hmb hgi d offset s).trans
      (enterEntry_keeps e hpush c name _))
    unfold fileStep at h
    dsimp only at h
    rw [hf] at h
    dsimp only at h
    rw [hk.ibuf] at h
    split_ifs at h with hd
    exact hd
  have hc : (dirEntry e s₀ d offset).1 = c ∧ (dirEntry e s₀ d offset).2 = name ∧ 1 ≤ c ∧
      ¬(offset = 0 ∧ isDotName name = true) ∧ ¬(offset = e.geo.dirsize ∧ isDotDotName name = true) := by
    rw [← hs.entry hr]
    unfold fetchEntry at hf
    unfold dirEntry
    generalize readEntry (opsOf e.geo).mapBlock e d offset s = r at hf ⊢
    obtain ⟨ino, name', t⟩ := r
    dsimp only at hf ⊢
    rw [opsOf_found] at hf
    split_ifs at hf with hd
    simp only [Option.some.injEq, Prod.mk.injEq] at hf
    obtain ⟨rfl, rfl⟩ := hf
    simp only [Bool.or_eq_true, Bool.not_eq_true', decide_eq_false_iff_not, not_or, not_not,
      Bool.not_eq_true] at hd
    have hfound := hd.2
    rw [decide_eq_true hfound] at hd
    exact ⟨rfl, rfl, hfound.1, dotEntries_not_done hd.1⟩
  obtain ⟨h1, h2, h3, h4⟩ := hc
  exact ⟨h1, h1 ▸ h3, h1 ▸ hdir, h2 ▸ h4⟩

theorem fileStep_asRead (d offset : Nat) {s : St} (hs : AsRead s₀ s) :
    AsRead s₀ (match fileStep e (opsOf e.geo) d offset s with | .inl t => t | .inr (_, u) => u) :=
  have hf := fileStep_readOnly hr d offset s hs.noYes
  hs.recounted hf.1 hf.2

/-- Every state a read-only pass visits in a ranked image is as read, and stands as
`RankedAt` says. -/
theorem visits_ranked {rank : Nat → Nat} (hR : RankedImage e s₀ rank) (hy : anyYes s₀.out = false)
    {path : List Nat} {call : Call} {s : St} (hv : Visits e s₀ path call s) :
    AsRead s₀ s ∧ RankedAt e s₀ rank path call := by
  induction hv with
  | root => exact ⟨⟨rfl, rfl, hy⟩, by unfold rootIno; omega, nofun⟩
  | enter _ hd ih =>
    obtain ⟨hs, hc, hp⟩ := ih
    exact ⟨hs.keeps hr (sizeCheck_keeps _ _), hc, hs.ibuf ▸ hd, _, rfl, hp⟩
  | @file path ino offset s t _ _ hf ih =>
    obtain ⟨hs, hd⟩ := ih
    have ht := fileStep_asRead hr ino offset hs
    rw [hf] at ht
    exact ⟨ht, hd⟩
  | @child path ino offset c s u _ hlt hf ih =>
    obtain ⟨hs, hd, hdir, rest, rfl, hp⟩ := ih
    have hu := fileStep_asRead hr ino offset hs
    rw [hf] at hu
    obtain ⟨hc, hch⟩ := fileStep_childAt hr hs hf
    have hlt' := (hR ino hd).2 offset (by rw [← hs.ibuf]; exact hlt) hch
    rw [hc] at hlt'
    refine ⟨hu, by have := (fileStep_range hf).2; omega, fun p hp' => ?_⟩
    rcases List.mem_cons.1 hp' with rfl | hp'
    · exact hlt'
    · exact (hp p hp').trans hlt'
  | @back path ino offset c n s u t _ _ hf ht ih =>
    obtain ⟨hs, hd⟩ := ih
    have hu := fileStep_asRead hr ino offset hs
    rw [hf] at hu
    have hk := hu.keeps hr ((trav_keeps e n (.dir c) u).trans (by rw [ht]; exact .refl t))
    exact ⟨⟨hk.disk, hk.ibuf, hk.noYes⟩, hd⟩

/-- A read-only pass over a ranked image meets both provisos of termination. -/
theorem ranked_noReentry_sizesFit {rank : Nat → Nat} (hR : RankedImage e s₀ rank)
    (hy : anyYes s₀.out = false) : NoReentry e s₀ ∧ SizesFit e s₀ := by
  refine ⟨fun path c s hv hc => ?_, fun path ino offset s hv => ?_⟩
  · have := (visits_ranked hr hR hy hv).2.2 c hc
    omega
  · obtain ⟨hs, hd, hdir, -⟩ := visits_ranked hr hR hy hv
    rw [hs.ibuf]
    exact (hR ino hd).1 hdir

end Ranked

end MinixFsck
