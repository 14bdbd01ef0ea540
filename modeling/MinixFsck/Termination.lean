import MinixFsck.Images
import Mathlib.Data.Finset.Card

/-! Termination of the traversal, provided no call re-enters a directory on its path and no
`offset += dirsize` wraps. -/
namespace MinixFsck

section Fuel

variable (e : Env)

theorem andThen_eq_of_ne {r r' : St × Outcome} {k k' : St → St × Outcome}
    (h : (andThen r k).2 ≠ .outOfFuel) (hr : r.2 ≠ .outOfFuel → r' = r)
    (hk : ∀ t, (k t).2 ≠ .outOfFuel → k' t = k t) : andThen r' k' = andThen r k := by
  obtain ⟨t, o⟩ := r
  cases o with
  | ok => rw [hr nofun]; exact hk t h
  | outOfFuel => exact absurd rfl h
  | fatal m => rw [hr nofun]; rfl

/-- `check_file` with its recursion cut out: `.inl t` when it returns with `t`, `.inr (c, u)`
when it calls `recursive_check(c)` from `u`. -/
def fileStep (ops : FileOps) (dir offset : Nat) (s : St) : St ⊕ (Nat × St) :=
  let r := fetchEntry ops e dir offset s
  match r.1 with
  | none => .inl r.2
  | some (ino, name) =>
    let s := enterEntry ops e ino name r.2
    if isDir (e.geo.modeOf s.ibuf ino) then .inr (ino, s) else .inl (leave s).1

theorem checkFileWith_eq (ops : FileOps) (rc : Nat → St → St × Outcome) (dir offset : Nat)
    (s : St) :
    checkFileWith ops e rc dir offset s =
      match fileStep e ops dir offset s with
      | .inl t => (t, .ok)
      | .inr (c, u) => andThen (rc c u) leave := by
  unfold checkFileWith fileStep
  generalize fetchEntry ops e dir offset s = r
  obtain ⟨_ | ⟨ino, name⟩, t⟩ := r
  · rfl
  · dsimp only
    split_ifs <;> rfl

/-- `check_file` gives the same result for two recursions that agree wherever the one it
ran with ended. -/
theorem checkFileWith_congr {ops : FileOps} {rc rc' : Nat → St → St × Outcome} {dir offset : Nat}
    {s : St} (h : (checkFileWith ops e rc dir offset s).2 ≠ .outOfFuel)
    (hrc : ∀ c u, (rc c u).2 ≠ .outOfFuel → rc' c u = rc c u) :
    checkFileWith ops e rc' dir offset s = checkFileWith ops e rc dir offset s := by
  rw [checkFileWith_eq] at h ⊢
  rw [checkFileWith_eq]
  generalize fileStep e ops dir offset s = r at h ⊢
  rcases r with t | ⟨c, u⟩
  · rfl
  · exact andThen_eq_of_ne h (hrc _ _) fun _ _ => rfl

/-- More fuel changes nothing in a stretch that ended. -/
theorem trav_mono : ∀ {n m : Nat} {c : Call} {s : St}, (trav e n c s).2 ≠ .outOfFuel → n ≤ m →
    trav e m c s = trav e n c s
  | 0, _, _, _, h, _ => absurd rfl h
  | _ + 1, 0, _, _, _, hnm => absurd hnm (by omega)
  | n + 1, m + 1, .dir ino, s, h, hnm => by
    simp only [trav] at h ⊢
    split_ifs at h ⊢
    · rfl
    · exact trav_mono h (by omega)
  | n + 1, m + 1, .loop ino offset, s, h, hnm => by
    simp only [trav] at h ⊢
    split_ifs at h ⊢
    · exact andThen_eq_of_ne h (fun hc => checkFileWith_congr e hc fun _ _ hr => trav_mono hr (by omega))
        fun _ ht => trav_mono ht (by omega)
    · rfl

end Fuel

/-- The calls of a traversal started at the root from `s₀`, each with the directories whose
loops are on its recursion path, innermost first. -/
inductive Visits (e : Env) (s₀ : St) : List Nat → Call → St → Prop
  /-- `recursive_check(ROOT_INO)`. -/
  | root : Visits e s₀ [] (.dir rootIno) s₀
  /-- A directory's loop starts at offset 0, after the size check. -/
  | enter {path : List Nat} {ino : Nat} {s : St} : Visits e s₀ path (.dir ino) s →
      isDir (e.geo.modeOf s.ibuf ino) → Visits e s₀ (ino :: path) (.loop ino 0) (sizeCheck e.geo ino s)
  /-- `check_file` returns without recursing, and the loop goes on. -/
  | file {path : List Nat} {ino offset : Nat} {s t : St} : Visits e s₀ path (.loop ino offset) s →
      offset < e.geo.sizeOf s.ibuf ino → fileStep e (opsOf e.geo) ino offset s = .inl t →
      Visits e s₀ path (.loop ino (nextOffset e.geo offset)) t
  /-- `check_file` calls `recursive_check` on a directory. -/
  | child {path : List Nat} {ino offset c : Nat} {s u : St} : Visits e s₀ path (.loop ino offset) s →
      offset < e.geo.sizeOf s.ibuf ino → fileStep e (opsOf e.geo) ino offset s = .inr (c, u) →
      Visits e s₀ path (.dir c) u
  /-- That call returns normally, and the loop goes on. -/
  | back {path : List Nat} {ino offset c n : Nat} {s u t : St} :
      Visits e s₀ path (.loop ino offset) s → offset < e.geo.sizeOf s.ibuf ino →
      fileStep e (opsOf e.geo) ino offset s = .inr (c, u) → trav e n (.dir c) u = (t, .ok) →
      Visits e s₀ path (.loop ino (nextOffset e.geo offset)) (leave t).1

/-- No call of `recursive_check` is on a directory already on its recursion path. -/
def NoReentry (e : Env) (s₀ : St) : Prop :=
  ∀ path c s, Visits e s₀ path (.dir c) s → c ∉ path

/-- Every directory the traversal loops over has an `i_size` of at most `2^32 - dirsize`. -/
def SizesFit (e : Env) (s₀ : St) : Prop :=
  ∀ path ino offset s, Visits e s₀ path (.loop ino offset) s →
    e.geo.sizeOf s.ibuf ino + e.geo.dirsize ≤ 2 ^ 32

theorem getInodeWith_found {unused : Env → Nat → St → St} {e : Env} {nr : Nat} {s : St}
    (h : (getInodeWith unused e nr s).1 = true) : 1 ≤ nr ∧ nr ≤ e.geo.ninodes := by
  unfold getInodeWith at h
  by_cases hr : nr = 0 ∨ e.geo.ninodes < nr
  · rw [if_pos hr] at h
    cases h
  · omega

theorem fileStep_inr {e : Env} {ops : FileOps} {dir offset c : Nat} {s u : St}
    (h : fileStep e ops dir offset s = .inr (c, u)) :
    ∃ name, (fetchEntry ops e dir offset s).1 = some (c, name) := by
  unfold fileStep at h
  generalize fetchEntry ops e dir offset s = r at h ⊢
  obtain ⟨_ | ⟨ino, name⟩, t⟩ := r
  · cases h
  · dsimp only at h
    split_ifs at h
    cases h
    exact ⟨_, rfl⟩

/-- `check_file` goes on only with an entry whose inode `get_inode` found. -/
theorem fetchEntry_found {e : Env} {ops : FileOps} {dir offset c : Nat} {name : List UInt8}
    {s : St} (h : (fetchEntry ops e dir offset s).1 = some (c, name)) :
    ∃ t, (ops.getInode e c t).1 = true := by
  unfold fetchEntry at h
  generalize readEntry ops.mapBlock e dir offset s = r at h
  obtain ⟨ino, name', t⟩ := r
  simp only [] at h
  split_ifs at h with hd
  simp only [Option.some.injEq, Prod.mk.injEq] at h
  obtain ⟨rfl, -⟩ := h
  exact ⟨_, by simp at hd; exact hd.2⟩

/-- `check_file` recurses only on an inode of `[1, INODES]`. -/
theorem fileStep_range {e : Env} {dir offset c : Nat} {s u : St}
    (h : fileStep e (opsOf e.geo) dir offset s = .inr (c, u)) : 1 ≤ c ∧ c ≤ e.geo.ninodes := by
  obtain ⟨_, hf⟩ := fileStep_inr h
  obtain ⟨_, hg⟩ := fetchEntry_found hf
  unfold opsOf at hg
  split at hg <;> exact getInodeWith_found hg

/-- A call of `recursive_check` is on the root or on an inode of `[1, INODES]`. -/
theorem visits_dir_mem {e : Env} {s₀ : St} {path : List Nat} {c : Nat} {s : St}
    (h : Visits e s₀ path (.dir c) s) : c ∈ Finset.range (e.geo.ninodes + 2) := by
  rw [Finset.mem_range]
  cases h with
  | root => simp [rootIno]
  | child _ _ hf => have := fileStep_range hf; omega

section Ends

variable {e : Env} {s₀ : St} (hd : 0 < e.geo.dirsize) (hsz : SizesFit e s₀)

include hd hsz in
/-- A loop whose calls of `recursive_check` all end, ends. -/
theorem loop_ends {path : List Nat} {ino : Nat}
    (hchild : ∀ c u, Visits e s₀ path (.dir c) u → ∃ n, (trav e n (.dir c) u).2 ≠ .outOfFuel) :
    ∀ k offset s, 2 ^ 32 - offset ≤ k → Visits e s₀ path (.loop ino offset) s →
      ∃ n, (trav e n (.loop ino offset) s).2 ≠ .outOfFuel := by
  intro k
  induction k with
  | zero =>
    intro offset s hk hv
    refine ⟨1, ?_⟩
    have := hsz _ _ _ _ hv
    simp only [trav]
    rw [if_neg (by omega)]
    nofun
  | succ k ih =>
    intro offset s hk hv
    by_cases hlt : offset < e.geo.sizeOf s.ibuf ino
    case neg => exact ⟨1, by simp only [trav, if_neg hlt]; nofun⟩
    have hfit := hsz _ _ _ _ hv
    have hnext : nextOffset e.geo offset = offset + e.geo.dirsize :=
      Nat.mod_eq_of_lt (by omega)
    have hk' : 2 ^ 32 - nextOffset e.geo offset ≤ k := by omega
    cases hf : fileStep e (opsOf e.geo) ino offset s with
    | inl t =>
      obtain ⟨n, hn⟩ := ih _ t hk' (hv.file hlt hf)
      exact ⟨n + 1, by simpa only [trav, if_pos hlt, checkFileWith_eq, hf, andThen_ok] using hn⟩
    | inr cu =>
      obtain ⟨c, u⟩ := cu
      obtain ⟨n₁, hn₁⟩ := hchild c u (hv.child hlt hf)
      cases hr : trav e n₁ (.dir c) u with
      | mk t o =>
        cases o with
        | outOfFuel => simp [hr] at hn₁
        | fatal m =>
          exact ⟨n₁ + 1, by simp only [trav, if_pos hlt, checkFileWith_eq, hf, hr, andThen]; nofun⟩
        | ok =>
          obtain ⟨n₂, hn₂⟩ := ih _ _ hk' (hv.back hlt hf hr)
          refine ⟨max n₁ n₂ + 1, ?_⟩
          have h₁ := trav_mono e hn₁ (le_max_left n₁ n₂)
          have h₂ := trav_mono e hn₂ (le_max_right n₁ n₂)
          simp only [trav, if_pos hlt, checkFileWith_eq, hf, h₁, hr, andThen_ok, leave] at h₂ ⊢
          rw [h₂]
          exact hn₂

theorem card_sdiff_cons {S : Finset Nat} {path : List Nat} {c : Nat} (hS : c ∈ S)
    (hc : c ∉ path) : (S \ (c :: path).toFinset).card + 1 = (S \ path.toFinset).card := by
  have hm : c ∈ S \ path.toFinset := Finset.mem_sdiff.2 ⟨hS, by simpa using hc⟩
  rw [List.toFinset_cons, Finset.sdiff_insert, Finset.card_erase_of_mem hm]
  have := Finset.card_pos.2 ⟨c, hm⟩
  omega

include hd hsz in
/-- Every call of `recursive_check` ends when none enters a directory on its own recursion
path: the set of inodes not on the path shrinks with each nested call. -/
theorem dir_ends (hre : NoReentry e s₀) : ∀ m path c s, Visits e s₀ path (.dir c) s →
    (Finset.range (e.geo.ninodes + 2) \ path.toFinset).card ≤ m →
      ∃ n, (trav e n (.dir c) s).2 ≠ .outOfFuel := by
  intro m
  induction m with
  | zero =>
    intro path c s hv hm
    have := card_sdiff_cons (visits_dir_mem hv) (hre _ _ _ hv)
    omega
  | succ m ih =>
    intro path c s hv hm
    by_cases hdir : isDir (e.geo.modeOf s.ibuf c)
    case neg => exact ⟨1, by simp only [trav, hdir]; nofun⟩
    have hcard := card_sdiff_cons (visits_dir_mem hv) (hre _ _ _ hv)
    obtain ⟨n, hn⟩ := loop_ends hd hsz (fun c' u hv' => ih _ c' u hv' (by omega)) _ 0 _ le_rfl
      (hv.enter hdir)
    exact ⟨n + 1, by simpa only [trav, hdir] using hn⟩

end Ends

theorem andThen_ne {r : St × Outcome} {k : St → St × Outcome} (hr : r.2 ≠ .outOfFuel)
    (hk : ∀ t, (k t).2 ≠ .outOfFuel) : (andThen r k).2 ≠ .outOfFuel := by
  obtain ⟨t, o⟩ := r
  cases o
  · exact hk t
  · exact hr
  · nofun

/-- `check_counts` runs on no fuel: it ends normally or in `die`. -/
theorem checkCounts_ne (e : Env) (s : St) : (checkCounts e s).2 ≠ .outOfFuel := by
  have hz : ∀ l s, (zoneLoop e l s).2 ≠ .outOfFuel := by
    intro l
    induction l with
    | nil => nofun
    | cons i is ih =>
      refine fun s => andThen_ne ?_ ih
      unfold checkZoneCount
      dsimp only
      split_ifs <;> (try split) <;> nofun
  exact hz _ _

theorem versionOf_dirsize {m : Nat} {v : Bool × Nat × Nat} (h : versionOf m = some v) :
    0 < v.2.2 := by
  unfold versionOf at h
  split_ifs at h <;> cases h <;> decide

theorem readSuperblock_dirsize {io : Io} {disk : Nat → Block} {g : Geo}
    (h : readSuperblock io disk = .ok g) : 0 < g.dirsize := by
  obtain ⟨_, _, _, hv, hc⟩ := readSuperblock_ok h
  obtain ⟨rfl, -⟩ := checkGeometry_ok hc
  exact versionOf_dirsize hv

theorem getDirsize_pos (e : Env) (s : St) (h : 0 < e.geo.dirsize) :
    0 < (getDirsize e s).1.dirsize := by
  unfold getDirsize
  generalize readBlock e _ s = r
  obtain ⟨blk, t⟩ := r
  dsimp only
  split
  · rename_i size hf
    have := List.mem_of_find?_eq_some hf
    simp only [List.mem_cons, List.mem_singleton, List.not_mem_nil, or_false] at this
    dsimp only
    omega
  · exact h

/-- Every run that gets past `check_root` has a positive `dirsize`. -/
theorem setup_dirsize {o : Opts} {io : Io} {s t : St} {e : Env} (h : setup o io s = .ok (e, t)) :
    0 < e.geo.dirsize := by
  unfold setup at h
  split at h
  · cases h
  · rename_i g hg
    dsimp only at h
    split_ifs at h
    split at h
    · cases h
    · split_ifs at h
      cases h
      exact getDirsize_pos _ _ (readSuperblock_dirsize hg)

/-- `main` up to `check` ends in an exit code or in `die`. -/
theorem setup_error_exit {o : Opts} {io : Io} {s t : St} {x : Exit}
    (h : setup o io s = .error (t, x)) : x ≠ .diverged := by
  unfold setup at h
  split at h
  · cases h; nofun
  · dsimp only at h
    split_ifs at h
    · cases h; nofun
    · split at h
      · cases h; nofun
      · split_ifs at h
        cases h; nofun

end MinixFsck
