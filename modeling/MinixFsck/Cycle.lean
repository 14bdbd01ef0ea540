import MinixFsck.Termination

/-! Two traversals that never end: a root holding a hard link to itself, and a root whose
`i_size` lies within `dirsize` of 2^32. -/
namespace MinixFsck

/-- What keeps a traversal going round a root on `tinyGeo` whose third entry names the root:
the root's inode (a directory of 48 bytes in zone 5), the entries `.`, `..` and a third,
all holding inode 1, at the start of zone 5, and the root's bit in `inode_map`. -/
structure SelfLinked (e : Env) (s : St) : Prop where
  geo : e.geo = tinyGeo
  io : e.io.readOk 5 = true
  mode : tinyGeo.modeOf s.ibuf rootIno = 0o40755
  size : tinyGeo.sizeOf s.ibuf rootIno = 48
  zone : tinyGeo.zoneOf s.ibuf rootIno 0 = 5
  inos : (s.disk 5).get16 0 = 1 ∧ (s.disk 5).get16 16 = 1 ∧ (s.disk 5).get16 32 = 1
  dot : isDotName ((s.disk 5).bytes 2 14) = true
  dotdot : isDotDotName ((s.disk 5).bytes 18 14) = true
  mapped : s.imap rootIno = true

instance (e : Env) (s : St) : Decidable (SelfLinked e s) :=
  decidable_of_iff (e.geo = tinyGeo ∧ e.io.readOk 5 = true ∧
      tinyGeo.modeOf s.ibuf rootIno = 0o40755 ∧ tinyGeo.sizeOf s.ibuf rootIno = 48 ∧
      tinyGeo.zoneOf s.ibuf rootIno 0 = 5 ∧
      ((s.disk 5).get16 0 = 1 ∧ (s.disk 5).get16 16 = 1 ∧ (s.disk 5).get16 32 = 1) ∧
      isDotName ((s.disk 5).bytes 2 14) = true ∧ isDotDotName ((s.disk 5).bytes 18 14) = true ∧
      s.imap rootIno = true)
    ⟨fun ⟨a, b, c, d, f, g, i, j, k⟩ => ⟨a, b, c, d, f, g, i, j, k⟩,
      fun ⟨a, b, c, d, f, g, i, j, k⟩ => ⟨a, b, c, d, f, g, i, j, k⟩⟩

section SelfLinked

variable {e : Env} {s : St}

theorem SelfLinked.of_eq {t : St} (h : SelfLinked e s) (hi : t.ibuf = s.ibuf)
    (hd : t.disk = s.disk) (hm : t.imap = s.imap) : SelfLinked e t := by
  obtain ⟨hg, hio, h1, h2, h3, h4, h5, h6, h7⟩ := h
  exact ⟨hg, hio, hi ▸ h1, hi ▸ h2, hi ▸ h3, hd ▸ h4, hd ▸ h5, hd ▸ h6, hm ▸ h7⟩

theorem SelfLinked.pushName (h : SelfLinked e s) (name : List UInt8) :
    SelfLinked e (pushName s name) :=
  h.of_eq rfl rfl rfl

theorem SelfLinked.withDepth (h : SelfLinked e s) (d : Nat) : SelfLinked e { s with depth := d } :=
  h.of_eq rfl rfl rfl

theorem SelfLinked.countInode (h : SelfLinked e s) (n : Nat) : SelfLinked e (countInode s n) := by
  unfold MinixFsck.countInode
  split_ifs <;> exact h.of_eq rfl rfl rfl

theorem SelfLinked.listEntry (h : SelfLinked e s) (ino : Nat) :
    SelfLinked e (listEntry e ino s) := by
  unfold MinixFsck.listEntry
  split_ifs <;> exact h.of_eq rfl rfl rfl

/-- The entries in the root's first block: `map_block` gives zone 5 and `read_block` reads it. -/
theorem readEntry_selfLinked (h : SelfLinked e s) {offset : Nat} (ho : offset < blockSize)
    (hn : (s.disk 5).get16 offset = 1) :
    readEntry mapBlock e rootIno offset s = (rootIno, (s.disk 5).bytes (offset + 2) 14, s) := by
  have hz : mapBlock e rootIno (offset / blockSize) s = (5, s) := by
    rw [Nat.div_eq_of_lt ho]
    simp only [mapBlock, slotNr, checkZoneNr, h.geo, h.zone]
    simp [tinyGeo]
  have hb : readBlock e 5 s = (s.disk 5, s) := by
    simp [readBlock, phys, h.io, blockSize]
  simp only [readEntry, hz, hb, Nat.mod_eq_of_lt ho, hn, h.geo]
  simp [tinyGeo, rootIno]

/-- `get_inode` and `get_inode2` on the marked directory root only count it. -/
theorem getInodeWith_selfLinked (unused : Env → Nat → St → St) (h : SelfLinked e s) :
    getInodeWith unused e rootIno s = (true, countInode s rootIno) := by
  have hc : classify e rootIno s = s := by
    simp only [classify, h.geo, h.mode]
    rfl
  simp only [getInodeWith, h.geo, h.mapped, if_true, hc, ite_self]
  rfl

/-- The entry at `offset` of the root, up to the recursion: its name is entered and the root
counted; `check_file` goes on unless the `.`/`..` checks return. -/
theorem fetchEntry_selfLinked (h : SelfLinked e s) {offset : Nat} (ho : offset < blockSize)
    (hn : (s.disk 5).get16 offset = 1) :
    fetchEntry fileOps e rootIno offset s =
      let t := countInode (pushName s ((s.disk 5).bytes (offset + 2) 14)) rootIno
      let (done, t) := dotEntries tinyGeo offset true ((s.disk 5).bytes (offset + 2) 14)
        { t with depth := t.depth - 1 }
      (if done then none else some (rootIno, (s.disk 5).bytes (offset + 2) 14), t) := by
  have hi := getInodeWith_selfLinked unusedInode (h.pushName ((s.disk 5).bytes (offset + 2) 14))
  unfold fetchEntry
  dsimp only [fileOps, getInode]
  rw [readEntry_selfLinked h ho hn]
  dsimp only
  rw [hi, h.geo]
  simp only [Bool.not_true, Bool.or_false]

/-- `.` and `..`: `check_file` counts the root and returns. -/
theorem checkFile_selfLinked_dots (rc : Nat → St → St × Outcome) (h : SelfLinked e s)
    {offset : Nat} (ho : offset = 0 ∨ offset = 16) :
    ∃ t, checkFileWith fileOps e rc rootIno offset s = (t, .ok) ∧ SelfLinked e t ∧
      t.icount rootIno = bump (s.icount rootIno) := by
  have hn : (s.disk 5).get16 offset = 1 := by
    rcases ho with rfl | rfl
    exacts [h.inos.1, h.inos.2.1]
  have hd : ∀ t, dotEntries tinyGeo offset true ((s.disk 5).bytes (offset + 2) 14) t = (true, t) := by
    rcases ho with rfl | rfl
    exacts [fun _ => dotEntries_dot h.dot, fun _ => dotEntries_dotdot (by decide) h.dotdot]
  let t := countInode (pushName s ((s.disk 5).bytes (offset + 2) 14)) rootIno
  have hc : SelfLinked e t := (h.pushName _).countInode rootIno
  refine ⟨{ t with depth := t.depth - 1 }, ?_, hc.of_eq rfl rfl rfl, countInode_icount _ _⟩
  rw [checkFileWith, fetchEntry_selfLinked h (by rcases ho with rfl | rfl <;> decide) hn]
  simp only [hd, if_true]

/-- The third entry: `check_file` counts the root, finds its zones walked already, and calls
`recursive_check` on the root again. -/
theorem checkFile_selfLinked_link (rc : Nat → St → St × Outcome) (h : SelfLinked e s)
    (hc : 1 ≤ s.icount rootIno) :
    ∃ u, checkFileWith fileOps e rc rootIno 32 s = andThen (rc rootIno u) leave ∧
      SelfLinked e u := by
  let name := (s.disk 5).bytes (32 + 2) 14
  let t := countInode (pushName s name) rootIno
  let u := listEntry e rootIno (pushName { t with depth := t.depth - 1 } name)
  have hu : SelfLinked e u :=
    ((((h.pushName name).countInode rootIno).withDepth (t.depth - 1)).pushName name).listEntry rootIno
  have hcount : u.icount rootIno = bump (s.icount rootIno) := by
    simp only [u, MinixFsck.listEntry]
    split_ifs <;> exact countInode_icount _ _
  have hz : checkZones e rootIno u = u := checkZones_of_counted (hcount ▸ one_lt_bump hc)
  refine ⟨u, ?_, hu⟩
  rw [checkFileWith, fetchEntry_selfLinked h (by decide) h.inos.2.2]
  simp only [dotEntries_other (by decide : 32 ≠ 0) (by decide : 32 ≠ tinyGeo.dirsize), if_false,
    Bool.false_eq_true, enterEntry, fileOps]
  rw [hz, hu.geo, hu.mode]
  rfl

/-- No fuel is enough for `recursive_check` on the self-linked root, nor for its loop at any
of the three entries (at the third, once the root has been counted). -/
theorem trav_selfLinked (n : Nat) : ∀ s, SelfLinked e s →
    (trav e n (.dir rootIno) s).2 = .outOfFuel ∧ (trav e n (.loop rootIno 0) s).2 = .outOfFuel ∧
      (trav e n (.loop rootIno 16) s).2 = .outOfFuel ∧
      (1 ≤ s.icount rootIno → (trav e n (.loop rootIno 32) s).2 = .outOfFuel) := by
  induction n with
  | zero => exact fun _ _ => ⟨rfl, rfl, rfl, fun _ => rfl⟩
  | succ n ih =>
    intro s h
    have hops : opsOf e.geo = fileOps := by rw [h.geo]; rfl
    have hsize : ∀ o, o < 48 → o < e.geo.sizeOf s.ibuf rootIno := fun o ho => by
      rw [h.geo, h.size]; exact ho
    have hnext : ∀ o, o < 48 → nextOffset e.geo o = o + 16 := fun o ho => by
      rw [h.geo]; show (o + 16) % 2 ^ 32 = o + 16; omega
    refine ⟨?_, ?_, ?_, fun hc => ?_⟩
    · have hs : sizeCheck e.geo rootIno s = s := by
        simp only [sizeCheck, h.geo, h.size]
        rfl
      rw [trav_dir_eq (by rw [h.geo, h.mode]; rfl), hs]
      exact (ih s h).2.1
    · obtain ⟨t, ht, hl, -⟩ := checkFile_selfLinked_dots (fun i s => trav e n (.dir i) s) h (.inl rfl)
      rw [trav_loop_eq (hsize 0 (by decide)), hops, ht, andThen, hnext 0 (by decide)]
      exact (ih t hl).2.2.1
    · obtain ⟨t, ht, hl, hcount⟩ :=
        checkFile_selfLinked_dots (fun i s => trav e n (.dir i) s) h (.inr rfl)
      rw [trav_loop_eq (hsize 16 (by decide)), hops, ht, andThen, hnext 16 (by decide)]
      exact (ih t hl).2.2.2 (hcount ▸ one_le_bump _)
    · obtain ⟨u, hu, hl⟩ := checkFile_selfLinked_link (fun i s => trav e n (.dir i) s) h hc
      rw [trav_loop_eq (hsize 32 (by decide)), hops, hu]
      exact andThen_outOfFuel (andThen_outOfFuel (ih u hl).1)

end SelfLinked

set_option maxRecDepth 20000 in
/-- On `selfLinkImage`, whose root holds an entry `a` naming the root itself, no fuel is
enough: an automatic run never ends. -/
theorem selfLink_diverges :
    ¬∃ fuel, (main automaticOpts tinyIo fuel (St.start selfLinkImage [])).2 ≠ .diverged := by
  rintro ⟨fuel, hne⟩
  apply hne
  have key : (match setup automaticOpts tinyIo (St.start selfLinkImage []) with
      | .ok (e, s) => decide (SelfLinked e (traverseStart e s))
      | .error _ => false) = true := by decide
  unfold main
  revert key
  cases setup automaticOpts tinyIo (St.start selfLinkImage []) with
  | error _ => nofun
  | ok r =>
    obtain ⟨e, s⟩ := r
    intro key
    exact finish_diverged (andThen_outOfFuel (trav_selfLinked fuel _ (of_decide_eq_true key)).1)

/-! A root directory of `i_size` `2^32 - 1` whose zones are all 0: every entry reads as inode 0,
and `offset += dirsize` wraps to 0 before it reaches `i_size`. -/

/-- The globals on the way through `wrapRootImage`. -/
structure WrapsRoot (e : Env) (s : St) : Prop where
  geo : e.geo = tinyGeo
  mode : tinyGeo.modeOf s.ibuf rootIno = 0o40755
  size : tinyGeo.sizeOf s.ibuf rootIno = 2 ^ 32 - 1
  zones : ∀ k, k < 9 → tinyGeo.zoneOf s.ibuf rootIno k = 0

instance (e : Env) (s : St) : Decidable (WrapsRoot e s) :=
  decidable_of_iff (e.geo = tinyGeo ∧ tinyGeo.modeOf s.ibuf rootIno = 0o40755 ∧
      tinyGeo.sizeOf s.ibuf rootIno = 2 ^ 32 - 1 ∧ ∀ k, k < 9 → tinyGeo.zoneOf s.ibuf rootIno k = 0)
    ⟨fun ⟨a, b, c, d⟩ => ⟨a, b, c, d⟩, fun ⟨a, b, c, d⟩ => ⟨a, b, c, d⟩⟩

section WrapsRoot

variable {e : Env} {s : St}

theorem WrapsRoot.of_ibuf {t : St} (h : WrapsRoot e s) (ht : t.ibuf = s.ibuf) : WrapsRoot e t :=
  ⟨h.geo, by rw [ht]; exact h.mode, by rw [ht]; exact h.size, by rw [ht]; exact h.zones⟩

theorem dotEntries_ibuf (g : Geo) (offset : Nat) (found : Bool) (name : List UInt8) (s : St) :
    (dotEntries g offset found name s).2.ibuf = s.ibuf := by
  unfold dotEntries
  split_ifs <;> rfl

theorem indirect_zero (e : Env) (i : Nat) (s : St) : indirect e 0 i s = (0, s) := by
  have hb : e.geo.entry Block.zero i = 0 := by unfold Geo.entry; split <;> rfl
  simp [indirect, readBlock, hb, checkZoneNr]

theorem slotNr_wrapsRoot (h : WrapsRoot e s) {k : Nat} (hk : k < 9) : slotNr e rootIno k s = (0, s) := by
  simp [slotNr, checkZoneNr, h.geo, h.zones k hk]

/-- Every logical block of the root maps to zone 0. -/
theorem mapBlock_wrapsRoot (h : WrapsRoot e s) (n : Nat) : mapBlock e rootIno n s = (0, s) := by
  unfold mapBlock
  by_cases h7 : n < 7
  · rw [if_pos h7]
    exact slotNr_wrapsRoot h (by omega)
  · simp only [if_neg h7, slotNr_wrapsRoot h (by decide : 7 < 9),
      slotNr_wrapsRoot h (by decide : 8 < 9), indirect_zero, ite_self]

/-- Each entry of the root names inode 0: `check_file` makes its `.`/`..` reports and returns. -/
theorem checkFile_wrapsRoot (rc : Nat → St → St × Outcome) (h : WrapsRoot e s) (offset : Nat) :
    (checkFileWith fileOps e rc rootIno offset s).2 = .ok ∧
      WrapsRoot e (checkFileWith fileOps e rc rootIno offset s).1 := by
  have hr : readEntry mapBlock e rootIno offset s =
      (0, Block.zero.bytes (offset % blockSize + 2) e.geo.namelen, s) := by
    simp only [readEntry, mapBlock_wrapsRoot h, readBlock, if_true, Block.zero_get16]
    simp
  have hg : ∀ t, getInode e 0 t = (false, t) := fun t => by simp [getInode, getInodeWith]
  have hf : (fetchEntry fileOps e rootIno offset s).1 = none ∧
      (fetchEntry fileOps e rootIno offset s).2.ibuf = s.ibuf := by
    unfold fetchEntry
    rw [show fileOps.mapBlock = mapBlock from rfl, hr]
    dsimp only
    dsimp only [fileOps]
    rw [hg]
    dsimp only
    exact ⟨by simp only [Bool.not_false, Bool.or_true, if_true], dotEntries_ibuf ..⟩
  unfold checkFileWith
  simp only [hf.1]
  exact ⟨trivial, h.of_ibuf hf.2⟩

/-- From any offset that `offset += dirsize` reaches, no fuel ends the root's loop. -/
theorem trav_wrapsRoot (n : Nat) : ∀ s offset, WrapsRoot e s → offset % 16 = 0 → offset < 2 ^ 32 →
    (trav e n (.loop rootIno offset) s).2 = .outOfFuel := by
  induction n with
  | zero => exact fun _ _ _ _ _ => rfl
  | succ n ih =>
    intro s offset h hm hlt
    have hops : opsOf e.geo = fileOps := by rw [h.geo]; rfl
    obtain ⟨hok, hw⟩ := checkFile_wrapsRoot (fun i s => trav e n (.dir i) s) h offset
    rw [trav_loop_eq (by rw [h.geo, h.size]; omega), hops]
    rw [← Prod.mk.eta (p := checkFileWith fileOps e _ rootIno offset s), hok, andThen]
    exact ih _ _ hw (by rw [h.geo]; show (offset + 16) % 2 ^ 32 % 16 = 0; omega)
      (by unfold nextOffset; exact Nat.mod_lt _ (by decide))

end WrapsRoot

set_option maxRecDepth 20000 in
/-- On `wrapRootImage` no fuel is enough: the loop over the root never ends. -/
theorem wrapRoot_diverges :
    ¬∃ fuel, (main automaticOpts tinyIo fuel (St.start wrapRootImage [])).2 ≠ .diverged := by
  rintro ⟨fuel, hne⟩
  apply hne
  have key : (match setup automaticOpts tinyIo (St.start wrapRootImage []) with
      | .ok (e, s) => decide (WrapsRoot e (traverseStart e s))
      | .error _ => false) = true := by decide
  unfold main
  revert key
  cases setup automaticOpts tinyIo (St.start wrapRootImage []) with
  | error _ => nofun
  | ok r =>
    obtain ⟨e, s⟩ := r
    intro key
    have h : WrapsRoot e (traverseStart e s) := of_decide_eq_true key
    refine finish_diverged (andThen_outOfFuel ?_)
    cases fuel with
    | zero => rfl
    | succ n =>
      have hs : sizeCheck e.geo rootIno (traverseStart e s) = traverseStart e s := by
        simp only [sizeCheck, h.geo, h.size]
        rfl
      rw [traverse, trav_dir_eq (by rw [h.geo, h.mode]; rfl), hs]
      exact trav_wrapsRoot n _ 0 h rfl (by decide)

end MinixFsck
