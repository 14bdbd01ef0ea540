import MinixFsck.Closure
import MinixFsck.Images

/-! `name_list` and `name_depth`, the stack of names `get_current_name` renders, and the
overflow of a row when `namelen` passes `NAME_MAX + 1`. -/
namespace MinixFsck

/-- `t` has the name stack of `s`. -/
structure SameNames (s t : St) : Prop where
  depth : t.depth = s.depth
  names : t.names = s.names

theorem sameNames_closed (e : Env) : Closed e SameNames where
  refl _ := ⟨rfl, rfl⟩
  trans h1 h2 := ⟨h2.1.trans h1.1, h2.2.trans h1.2⟩
  ask p d s := by
    obtain ⟨⟨_, h⟩, -⟩ := ask_spec e.opts p d s
    exact ⟨by rw [h], by rw [h]⟩
  say _ _ := ⟨rfl, rfl⟩
  errors _ := ⟨rfl, rfl⟩
  ibuf _ _ := ⟨rfl, rfl⟩
  markInode _ _ := ⟨rfl, rfl⟩
  icount _ _ := ⟨rfl, rfl⟩
  writeBlock nr b s := by
    unfold writeBlock reportError
    split_ifs <;> exact ⟨rfl, rfl⟩

theorem addZone_sameNames (e : Env) (znr : Nat) (s : St) : SameNames s (addZone e znr s).2.2 := by
  have hc := sameNames_closed e
  have hz : ∀ block t, SameNames t (countZone e block t) := fun block t => by
    have k : SameNames t (if zoneInUse e.geo t block then t else
        offer e.opts "Correct" true (markZone e.geo · block)
          (t.say (.blockNotInUse block (getCurrentName e.geo t)))) := by
      split_ifs
      · exact ⟨rfl, rfl⟩
      · exact hc.trans (hc.say _ _)
          (hc.offer (fun u => (⟨rfl, rfl⟩ : SameNames u (markZone e.geo u block))) _)
    exact ⟨k.1, k.2⟩
  unfold addZone
  dsimp only
  split_ifs
  · exact hc.checkZoneNr znr s
  · exact hc.trans (hc.trans (hc.checkZoneNr znr s) (hc.usedBefore _ _)) (hz _ _)
  · exact hc.trans (hc.checkZoneNr znr s) (hc.usedBefore _ _)

/-- What a call of `check_file` or `recursive_check` may do to the name stack: go deeper but
not shallower, and leave the rows below the depth it was called at alone. -/
structure Nested (s t : St) : Prop where
  depth : s.depth ≤ t.depth
  below : ∀ i, i < s.depth * nameRow → t.names i = s.names i

theorem Nested.refl (s : St) : Nested s s := ⟨le_rfl, fun _ _ => rfl⟩

theorem Nested.trans {a b c : St} (h1 : Nested a b) (h2 : Nested b c) : Nested a c :=
  ⟨Nat.le_trans h1.1 h2.1, fun i hi =>
    (h2.2 i (lt_of_lt_of_le hi (Nat.mul_le_mul_right _ h1.1))).trans (h1.2 i hi)⟩

theorem SameNames.nested {s t : St} (h : SameNames s t) : Nested s t :=
  ⟨Nat.le_of_eq h.1.symm, fun _ _ => by rw [h.2]⟩

theorem strncpyRow_below (names : Block) (d : Nat) (src : List UInt8) {i : Nat}
    (h : i < d * nameRow) : strncpyRow names d src i = names i := by
  unfold strncpyRow
  rw [if_neg (by omega)]

/-- `strncpy(name_list[name_depth], ...)` writes from row `name_depth` on. -/
theorem pushName_nested (s : St) (name : List UInt8) : Nested s (pushName s name) := by
  refine ⟨Nat.le_succ _, fun i hi => ?_⟩
  dsimp only [pushName]
  split_ifs
  · exact strncpyRow_below _ _ _ hi
  · rfl

section Stack

variable {e : Env} {ops : FileOps} (hmb : ∀ ino b s, SameNames s (ops.mapBlock e ino b s).2)
  (hgi : ∀ nr s, SameNames s (ops.getInode e nr s).2)

include hmb hgi in
/-- `check_file` up to its recursion enters the entry's name at row `name_depth` and leaves
`name_depth` as it found it. -/
theorem fetchEntry_names (dir offset : Nat) (s : St) :
    (fetchEntry ops e dir offset s).2.depth = s.depth ∧
      (fetchEntry ops e dir offset s).2.names =
        (pushName s (readEntry ops.mapBlock e dir offset s).2.1).names := by
  have h1 := (sameNames_closed e).readEntry hmb dir offset s
  unfold fetchEntry
  generalize readEntry ops.mapBlock e dir offset s = r at h1 ⊢
  obtain ⟨ino, name, t⟩ := r
  obtain ⟨hd1, hn1⟩ := h1
  have h2 := hgi ino (pushName t name)
  dsimp only at hd1 hn1 ⊢
  obtain ⟨d3, n3⟩ := (sameNames_closed e).dotEntries offset (ops.getInode e ino (pushName t name)).1
    name { (ops.getInode e ino (pushName t name)).2 with
      depth := (ops.getInode e ino (pushName t name)).2.depth - 1 }
  rw [d3, n3]
  dsimp only
  rw [h2.1, h2.2]
  simp only [pushName, hd1, hn1, Nat.add_sub_cancel, and_self]

/-- `check_file` on an entry it goes on with, up to the recursion: the name stack is the one
its name entry leaves. -/
theorem enterEntry_names (ino : Nat) (name : List UInt8) (s : St) :
    SameNames (ops.push s name) (enterEntry ops e ino name s) :=
  (sameNames_closed e).trans ((sameNames_closed e).listEntry ino _)
    ((sameNames_closed e).checkZones (addZone_sameNames e) ino _)

include hmb hgi in
/-- A call of `check_file` that ends normally leaves `name_depth` as it found it, given a
recursion that does. -/
theorem checkFileWith_nested (hpush : ∀ t n, Nested t (ops.push t n) ∧ (ops.push t n).depth = t.depth + 1)
    {rc : Nat → St → St × Outcome}
    (hrc : ∀ i t, Nested t (rc i t).1 ∧ ((rc i t).2 = .ok → (rc i t).1.depth = t.depth))
    (dir offset : Nat) (s : St) :
    Nested s (checkFileWith ops e rc dir offset s).1 ∧
      ((checkFileWith ops e rc dir offset s).2 = .ok →
        (checkFileWith ops e rc dir offset s).1.depth = s.depth) := by
  obtain ⟨fd, fn⟩ := fetchEntry_names hmb hgi dir offset s
  have hf : Nested s (fetchEntry ops e dir offset s).2 :=
    ⟨Nat.le_of_eq fd.symm, fun i hi => by rw [fn]; exact (pushName_nested s _).2 i hi⟩
  unfold checkFileWith
  clear fn
  generalize fetchEntry ops e dir offset s = r at fd hf ⊢
  obtain ⟨_ | ⟨ino, name⟩, u⟩ := r
  · exact ⟨hf, fun _ => fd⟩
  dsimp only
  obtain ⟨hp, hpd⟩ := hpush u name
  have hv : SameNames (ops.push u name) (enterEntry ops e ino name u) := enterEntry_names ino name u
  have hsv : Nested s (enterEntry ops e ino name u) := hf.trans (hp.trans hv.nested)
  have hvd : (enterEntry ops e ino name u).depth = s.depth + 1 := by rw [hv.1, hpd, fd]
  generalize enterEntry ops e ino name u = v at hsv hvd ⊢
  split_ifs
  · obtain ⟨hw, hwd⟩ := hrc ino v
    have hsw := hsv.trans hw
    unfold andThen
    split
    · have hd := hwd ‹_›
      exact ⟨⟨by dsimp only [leave]; omega, hsw.2⟩, fun _ => by dsimp only [leave]; omega⟩
    · exact ⟨hsw, fun h => absurd h ‹_›⟩
  · exact ⟨⟨by dsimp only [leave]; omega, hsv.2⟩, fun _ => by dsimp only [leave]; omega⟩

end Stack

/-- A directory block of 512-byte entries: entry `i` at offset `512 * i`, its inode number and
then its name. -/
def wideDirBlock (entries : List (Nat × String)) : Block :=
  (List.range entries.length).foldl (fun b i =>
    let (ino, name) := entries.getD i (0, "")
    (List.range name.length).foldl (fun b j => b.set8 (512 * i + 2 + j) (name.toList.getD j ' ').toNat)
      (b.set16 (512 * i) ino)) Block.zero

/-- A block whose first 512-byte entry names inode 2 with 260 bytes of `A`. -/
def longNameBlock : Block := fun o => if o = 0 then 2 else if 2 ≤ o ∧ o < 262 then 65 else 0

/-- The root's first block has its `..` at offset 512, so `get_dirsize` sets `dirsize` to 512
and `namelen` to 510. The root, 1536 bytes in zones 5 and 6, holds `.`, `..` and directory 2
under a 260-byte name; directory 2, 1536 bytes in zones 7 and 8, holds `.`, `..` and `b`, the
regular file 3. -/
def wideImage : Nat → Block :=
  tinyImage (bitmapBlock [1, 2, 3]) (bitmapBlock [1, 2, 3, 4])
    (withInodeV1 (withInodeV1 (withInodeV1 Block.zero 1 0o40755 1536 3 [5, 6]) 2 0o40755 1536 2
      [7, 8]) 3 0o100644 0 1 []) fun n =>
    if n = 5 then wideDirBlock [(1, "."), (1, "..")]
    else if n = 6 then longNameBlock
    else if n = 7 then wideDirBlock [(2, "."), (1, "..")]
    else if n = 8 then wideDirBlock [(3, "b")] else Block.zero

/-- The geometry `get_dirsize` leaves for `wideImage`. -/
def wideGeo : Geo := ⟨false, 16, 20, 1, 1, 5, 512, 510⟩

/-- `-l -f`. -/
def listOpts : Opts := { readOnlyOpts with list := true }

section Rows

theorem take_all_ne_zero : ∀ (l : List UInt8) (k : Nat), (∀ j, j < k → l.getD j 0 ≠ 0) →
    (l.take k).all (· ≠ 0) = true
  | [], _, _ => by simp
  | _ :: _, 0, _ => rfl
  | a :: l, k + 1, h => by
    simp only [List.take_succ_cons, List.all_cons, Bool.and_eq_true, decide_eq_true_eq]
    exact ⟨h 0 (Nat.succ_pos _), take_all_ne_zero l k fun j hj => h (j + 1) (by omega)⟩

theorem map_getD_range : ∀ (l : List UInt8) (k : Nat), k ≤ l.length →
    (List.range k).map (l.getD · 0) = l.take k
  | _, 0, _ => rfl
  | [], _ + 1, h => absurd h (by simp)
  | a :: l, k + 1, h => by
    rw [List.range_succ_eq_map, List.map_cons, List.map_map, List.take_succ_cons]
    exact congrArg (a :: ·) (map_getD_range l k (by simpa using h))

/-- What `strncpy(dst, c, m)` puts in `dst`, read up to its first NUL, is `c` up to its first
NUL within `m` bytes. -/
theorem takeWhile_strncpy : ∀ (c : List UInt8) (m : Nat),
    ((List.range m).map fun j => if (c.take j).all (· ≠ 0) then c.getD j 0 else 0).takeWhile
      (· ≠ 0) = (c.take m).takeWhile (· ≠ 0)
  | [], m => by
    cases m
    · rfl
    · simp [List.range_succ_eq_map]
  | _ :: _, 0 => rfl
  | a :: c, k + 1 => by
    rw [List.range_succ_eq_map, List.map_cons, List.map_map, List.take_succ_cons]
    by_cases ha : a = 0
    · simp [ha]
    · simp only [List.takeWhile_cons, List.take_zero, List.all_nil, if_true, List.getD_cons_zero,
        ne_eq, ha, not_false_eq_true, decide_True, Function.comp_def, List.take_succ_cons,
        List.all_cons, Bool.true_and, List.getD_cons_succ]
      exact congrArg (a :: ·) (takeWhile_strncpy c k)

theorem strncpyRow_inside (names : Block) (d : Nat) (src : List UInt8) {j : Nat}
    (h : j < src.length) :
    strncpyRow names d src (d * nameRow + j) =
      if (src.take j).all (· ≠ 0) then src.getD j 0 else 0 := by
  unfold strncpyRow
  rw [if_pos (by omega), Nat.add_sub_cancel_left]

theorem readEntry_name_length (mb : Env → Nat → Nat → St → Nat × St) (e : Env) (dir offset : Nat)
    (s : St) : (readEntry mb e dir offset s).2.1.length = e.geo.namelen := by
  unfold readEntry
  dsimp only
  split_ifs <;> simp [Block.bytes]

/-- With `namelen` past `NAME_MAX + 1`, the first `strncpy` of `check_file` writes past its row:
byte 256 of the entry's name lands in the first byte of row `name_depth + 1`. -/
theorem fetchEntry_writes_next_row (e : Env) (dir offset : Nat) (s : St)
    (hd : s.depth < maxDepth) (hn : nameRow < e.geo.namelen)
    (hz : ∀ j, j < nameRow → (readEntry (opsOf e.geo).mapBlock e dir offset s).2.1.getD j 0 ≠ 0) :
    (fetchEntry (opsOf e.geo) e dir offset s).2.names ((s.depth + 1) * nameRow) =
      (readEntry (opsOf e.geo).mapBlock e dir offset s).2.1.getD nameRow 0 := by
  obtain ⟨hmb, hgi⟩ := (sameNames_closed e).opsOf
  have hl := readEntry_name_length (opsOf e.geo).mapBlock e dir offset s
  rw [(fetchEntry_names hmb hgi dir offset s).2]
  generalize (readEntry (opsOf e.geo).mapBlock e dir offset s).2.1 = name at hl hz ⊢
  simp only [pushName, if_pos hd, Nat.succ_mul]
  rw [strncpyRow_inside _ _ _ (by omega), if_pos (take_all_ne_zero name _ hz)]

theorem longNameBlock_name_ne_zero (j : Nat) (hj : j < nameRow) :
    (longNameBlock.bytes 2 510).getD j 0 ≠ 0 := by
  rw [Block.bytes_getD _ (by unfold nameRow at hj; omega), longNameBlock,
    if_neg (by omega), if_pos (by unfold nameRow at hj; omega)]
  decide

set_option maxRecDepth 20000 in
/-- `get_dirsize` gives `wideImage` a `namelen` of 510, and `check_file`, reading the root's
third entry at depth 0, writes byte 256 of its name into row 1. -/
theorem fetchEntry_writes_next_row_wide :
    (getDirsize (tinyEnv listOpts) (tinyTables wideImage)).1 = wideGeo ∧
      (fetchEntry (opsOf wideGeo) ⟨listOpts, tinyIo, wideGeo⟩ rootIno 1024
          (tinyTables wideImage)).2.names (((tinyTables wideImage).depth + 1) * nameRow) =
        (readEntry (opsOf wideGeo).mapBlock ⟨listOpts, tinyIo, wideGeo⟩ rootIno 1024
          (tinyTables wideImage)).2.1.getD nameRow 0 :=
  ⟨by decide, fetchEntry_writes_next_row ⟨listOpts, tinyIo, wideGeo⟩ rootIno 1024 _ (by decide)
    (by decide) (show ∀ j, j < nameRow → (longNameBlock.bytes 2 510).getD j 0 ≠ 0 from
      longNameBlock_name_ne_zero)⟩

/-- With `namelen` past `NAME_MAX + 1`, the name entered one level down overwrites the tail of
a longer name: `get_current_name` renders the row of the parent `p` as its first 256 bytes
followed by the child `c`'s name, where the row was to hold `p` alone, cut at its first NUL
or at `NAME_MAX` bytes. -/
theorem rowName_pushName_pushName (g : Geo) (s : St) (p c : List UInt8)
    (hd : s.depth + 1 < maxDepth) (hn : nameRow ≤ g.namelen) (hp : p.length = g.namelen)
    (hc : c.length = g.namelen) (hz : ∀ j, j < nameRow → p.getD j 0 ≠ 0) :
    rowName g (pushName (pushName s p) c).names s.depth =
      p.take nameRow ++ (c.take (g.namelen - nameRow)).takeWhile (· ≠ 0) := by
  obtain ⟨m, hm⟩ : ∃ m, g.namelen = nameRow + m := ⟨g.namelen - nameRow, by omega⟩
  have hnames : (pushName (pushName s p) c).names =
      strncpyRow (strncpyRow s.names s.depth p) (s.depth + 1) c := by
    simp only [pushName, if_pos (by omega : s.depth < maxDepth), if_pos hd]
  have hrow : ∀ j, j < nameRow →
      (pushName (pushName s p) c).names (s.depth * nameRow + j) = p.getD j 0 := by
    intro j hj
    rw [hnames, strncpyRow_below _ _ _ (by rw [Nat.succ_mul]; omega),
      strncpyRow_inside _ _ _ (by omega), if_pos (take_all_ne_zero p _ fun k hk => hz k (by omega))]
  have hnext : ∀ j, j < m → (pushName (pushName s p) c).names (s.depth * nameRow + (nameRow + j)) =
      if (c.take j).all (· ≠ 0) then c.getD j 0 else 0 := by
    intro j hj
    rw [hnames, show s.depth * nameRow + (nameRow + j) = (s.depth + 1) * nameRow + j by
      rw [Nat.succ_mul]; omega, strncpyRow_inside _ _ _ (by omega)]
  unfold rowName Block.bytes
  rw [hm, List.range_add, List.map_append, List.map_map, List.takeWhile_append_of_pos,
    Nat.add_sub_cancel_left, ← takeWhile_strncpy c m, ← map_getD_range p nameRow (by omega)]
  · exact congrArg₂ (· ++ ·) (List.map_congr_left fun j hj => hrow j (List.mem_range.1 hj))
      (congrArg _ (List.map_congr_left fun j hj => hnext j (List.mem_range.1 hj)))
  · intro a ha
    obtain ⟨j, hj, rfl⟩ := List.mem_map.1 ha
    rw [hrow j (List.mem_range.1 hj)]
    simpa using hz j (List.mem_range.1 hj)

set_option maxRecDepth 20000 in
/-- In `wideImage`, the root's 260-byte name for directory 2 followed, one level down, by
`b`: row 0 renders as 256 bytes of `A` and then `b`. -/
theorem rowName_pushName_pushName_wide :
    rowName wideGeo (pushName (pushName (tinyTables wideImage) (longNameBlock.bytes 2 510))
        ((wideDirBlock [(3, "b")]).bytes 2 510)).names (tinyTables wideImage).depth =
      (longNameBlock.bytes 2 510).take nameRow ++
        (((wideDirBlock [(3, "b")]).bytes 2 510).take (wideGeo.namelen - nameRow)).takeWhile
          (· ≠ 0) :=
  rowName_pushName_pushName wideGeo _ _ _ (by decide) (by decide) (by simp [Block.bytes]; rfl)
    (by simp [Block.bytes]; rfl) longNameBlock_name_ne_zero

end Rows

section Traverse

variable (e : Env)

/-- The name stack discipline of `recursive_check` and `check_file`, for both variants: a call
goes deeper but never shallower, writes no row below the depth it was called at, and, when it
ends normally, returns with `name_depth` as it found it. -/
theorem trav_nested : ∀ (n : Nat) (c : Call) (s : St),
    Nested s (trav e n c s).1 ∧ ((trav e n c s).2 = .ok → (trav e n c s).1.depth = s.depth)
  | 0, _, s => ⟨.refl s, fun h => absurd h nofun⟩
  | n + 1, .dir ino, s => by
    simp only [trav]
    split_ifs
    · exact ⟨.refl s, fun h => absurd h nofun⟩
    · have h := (sameNames_closed e).sizeCheck ino s
      obtain ⟨k1, k2⟩ := trav_nested n (.loop ino 0) (sizeCheck e.geo ino s)
      exact ⟨h.nested.trans k1, fun ho => (k2 ho).trans h.1⟩
  | n + 1, .loop ino offset, s => by
    obtain ⟨hmb, hgi⟩ := (sameNames_closed e).opsOf
    have hpush : ∀ t n, Nested t ((opsOf e.geo).push t n) ∧
        ((opsOf e.geo).push t n).depth = t.depth + 1 := fun t n => by
      unfold opsOf
      split
      · exact ⟨⟨Nat.le_succ _, fun _ _ => rfl⟩, rfl⟩
      · exact ⟨pushName_nested t n, rfl⟩
    simp only [trav]
    split_ifs
    · obtain ⟨h1, h2⟩ := checkFileWith_nested hmb hgi hpush (fun i t => trav_nested n (.dir i) t)
        ino offset s
      unfold andThen
      split
      · obtain ⟨k1, k2⟩ := trav_nested n (.loop ino (nextOffset e.geo offset))
          (checkFileWith (opsOf e.geo) e (fun i s => trav e n (.dir i) s) ino offset s).1
        exact ⟨h1.trans k1, fun ho => (k2 ho).trans (h2 ‹_›)⟩
      · exact ⟨h1, fun h => absurd h ‹_›⟩
    · exact ⟨.refl s, fun _ => rfl⟩

end Traverse

end MinixFsck
