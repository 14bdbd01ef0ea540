import MinixFsck.Termination

/-! What `inode_count` holds after the traversal: one count for every entry `check_file` reads. -/
namespace MinixFsck

/-- The inode numbers `check_file`/`check_file2` read along a traversal, in order, each as
`readEntry` leaves it (0 for an entry removed as out of range). The entries of a directory
are read again each time `recursive_check` enters it. -/
def travReads (e : Env) : Nat → Call → St → List Nat
  | 0, _, _ => []
  | n + 1, .dir ino, s =>
    if !isDir (e.geo.modeOf s.ibuf ino) then []
    else travReads e n (.loop ino 0) (sizeCheck e.geo ino s)
  | n + 1, .loop ino offset, s =>
    if offset < e.geo.sizeOf s.ibuf ino then
      let r := checkFileWith (opsOf e.geo) e (fun i s => trav e n (.dir i) s) ino offset s
      (readEntry (opsOf e.geo).mapBlock e ino offset s).1 ::
        ((match fileStep e (opsOf e.geo) ino offset s with
          | .inl _ => []
          | .inr (c, u) => travReads e n (.dir c) u) ++
        if r.2 = .ok then travReads e n (.loop ino (nextOffset e.geo offset)) r.1 else [])
    else []

section Counts

variable {e : Env}

/-- Whichever way `check_file` goes on, its state has counted the entry it read. -/
theorem fileStep_icount {ops : FileOps} (h : ops.CountsOnce e) (dir offset : Nat) (s : St) :
    (match fileStep e ops dir offset s with | .inl t => t | .inr (_, u) => u).icount =
      e.geo.countIno s.icount (readEntry ops.mapBlock e dir offset s).1 := by
  unfold fileStep
  rw [← fetchEntry_icount h]
  generalize fetchEntry ops e dir offset s = r
  obtain ⟨_ | ⟨ino, name⟩, t⟩ := r
  · rfl
  · dsimp only
    split_ifs <;> simp [enterEntry_icount h, leave]

/-- A traversal changes `inode_count` by counting, in order, the entries it reads. -/
theorem trav_icount : ∀ (n : Nat) (c : Call) (s : St),
    (trav e n c s).1.icount = (travReads e n c s).foldl e.geo.countIno s.icount
  | 0, _, _ => rfl
  | n + 1, .dir ino, s => by
    simp only [trav, travReads]
    split_ifs
    · rfl
    · rw [trav_icount n, sizeCheck_icount]
  | n + 1, .loop ino offset, s => by
    by_cases ho : offset < e.geo.sizeOf s.ibuf ino
    case neg => simp only [trav, travReads, if_neg ho]; rfl
    have hf := fileStep_icount (opsOf_countsOnce e) ino offset s
    simp only [trav, travReads, if_pos ho, checkFileWith_eq]
    generalize (readEntry (opsOf e.geo).mapBlock e ino offset s).1 = i at hf ⊢
    cases hs : fileStep e (opsOf e.geo) ino offset s with
    | inl t =>
      rw [hs] at hf
      simp [trav_icount n, ← hf]
    | inr cu =>
      obtain ⟨c, u⟩ := cu
      rw [hs] at hf
      have hc := trav_icount n (.dir c) u
      dsimp only
      generalize trav e n (.dir c) u = r at hc ⊢
      obtain ⟨t, o⟩ := r
      dsimp only at hf hc
      cases o <;> simp [leave, trav_icount n, ← hf, hc]

/-- Counting a list of entries: inode `i` of `[1, INODES]` is counted once for each entry
holding it, each count saturating at 255. -/
theorem foldl_countIno_apply {i : Nat} (h1 : 1 ≤ i) (h2 : i ≤ e.geo.ninodes) :
    ∀ (l : List Nat) (c : Nat → Nat), (l.foldl e.geo.countIno c) i = bump^[l.count i] (c i)
  | [], _ => rfl
  | a :: l, c => by
    rw [List.foldl_cons, foldl_countIno_apply h1 h2 l, List.count_cons]
    unfold Geo.countIno
    by_cases ha : a = i
    · subst ha
      simp [show ¬(a = 0 ∨ e.geo.ninodes < a) by omega, Function.iterate_succ_apply]
    · simp only [beq_iff_eq, ha, if_false, Nat.add_zero]
      split_ifs <;> simp [Function.update_noteq (Ne.symm ha)]

end Counts

theorem bump_iterate_zero : ∀ k : Nat, bump^[k] 0 = min 255 k
  | 0 => rfl
  | k + 1 => by
    rw [Function.iterate_succ_apply', bump_iterate_zero k]
    unfold bump
    split_ifs <;> omega

/-- The traversal, from the root's `check_zones` on, counts inode `i` of `[1, INODES]` once
for every entry holding it that `check_file` read, up to 255. -/
theorem traverse_icount_reads {e : Env} {fuel : Nat} {s : St} {i : Nat} (h1 : 1 ≤ i)
    (h2 : i ≤ e.geo.ninodes) :
    (traverse e fuel s).1.icount i =
      min 255 ((travReads e fuel (.dir rootIno) (traverseStart e s)).count i) := by
  rw [traverse, trav_icount, foldl_countIno_apply h1 h2, traverseStart, checkZones_icount,
    bump_iterate_zero]

/-- After `check`/`check2`, inode `i` of `[1, INODES]` is counted once for every entry
holding it that `check_file` read, up to 255. -/
theorem check_icount_reads (e : Env) (fuel : Nat) (s : St) (i : Nat) (h1 : 1 ≤ i)
    (h2 : i ≤ e.geo.ninodes) :
    (check e fuel s).1.icount i =
      min 255 ((travReads e fuel (.dir rootIno) (traverseStart e s)).count i) := by
  have ht : (check e fuel s).1.icount = (traverse e fuel s).1.icount := by
    unfold check
    generalize traverse e fuel s = r
    obtain ⟨t, _ | _ | m⟩ := r
    · exact checkCounts_icount e t
    · rfl
    · rfl
  rw [ht, traverse, trav_icount, foldl_countIno_apply h1 h2, traverseStart, checkZones_icount,
    bump_iterate_zero]

set_option maxRecDepth 20000 in
/-- The read-only traversal of `twoLinkImage` reads four entries holding inode 2: `a`, `b`,
and the `.` of directory 2 once after each of them. -/
theorem check_icount_reads_twoLink :
    2 ≤ (tinyEnv readOnlyOpts).geo.ninodes ∧
      (check (tinyEnv readOnlyOpts) 20 (tinyTables twoLinkImage)).1.icount 2 =
        min 255 ((travReads (tinyEnv readOnlyOpts) 20 (.dir rootIno)
          (traverseStart (tinyEnv readOnlyOpts) (tinyTables twoLinkImage))).count 2) ∧
      (travReads (tinyEnv readOnlyOpts) 20 (.dir rootIno)
        (traverseStart (tinyEnv readOnlyOpts) (tinyTables twoLinkImage))).count 2 = 4 :=
  ⟨by decide, check_icount_reads _ 20 _ 2 (by decide) (by decide), by decide⟩

set_option maxRecDepth 20000 in
/-- Three entries of the directories reachable in `twoLinkImage` hold inode 2: `a` and `b` in
the root and `.` in directory 2. The read-only run ends and counts it 4, since
`recursive_check` enters directory 2 through `a` and again through `b`. -/
theorem twoLink_counted_twice :
    (main readOnlyOpts tinyIo 20 (St.start twoLinkImage [])).2 = .code 4 ∧
      (main readOnlyOpts tinyIo 20 (St.start twoLinkImage [])).1.icount 2 = 4 := by
  decide

end MinixFsck
