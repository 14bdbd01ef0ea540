import MinixFsck.Images

/-! `-r` on an input with no `n` or `N` ends as `-a` ends: `Twin` relates the two runs' globals
but for the input, and every function of the model keeps it. -/
namespace MinixFsck

/-- The operator input holds no `n` or `N`, the one answer that is not yes. -/
def yesOnly (inp : List Char) : Bool := inp.all fun c => c.toUpper != 'N'

/-- The environment of the same run with `-a`. -/
def Env.auto (e : Env) : Env := { e with opts := { e.opts with automatic := true } }

@[simp] theorem Env.auto_geo (e : Env) : e.auto.geo = e.geo := rfl

@[simp] theorem Env.auto_io (e : Env) : e.auto.io = e.io := rfl

@[simp] theorem Env.auto_repair (e : Env) : e.auto.opts.repair = e.opts.repair := rfl

@[simp] theorem Env.auto_list (e : Env) : e.auto.opts.list = e.opts.list := rfl

@[simp] theorem Env.auto_verbose (e : Env) : e.auto.opts.verbose = e.opts.verbose := rfl

@[simp] theorem Env.auto_warnMode (e : Env) : e.auto.opts.warnMode = e.opts.warnMode := rfl

/-- `s` is `t` with another operator input, one that still answers yes. -/
def Twin (s t : St) : Prop := ∃ i, yesOnly i = true ∧ s = { t with input := i }

/-- Two results of a step: the same value, and globals that are twins. -/
def Twin2 {α : Type} (r r' : α × St) : Prop :=
  ∃ i, yesOnly i = true ∧ r = (r'.1, { r'.2 with input := i })

/-- Two ends of a stretch of the run: twin globals, and the same outcome. -/
def TwinOut {β : Type} (r r' : St × β) : Prop :=
  ∃ i, yesOnly i = true ∧ r = ({ r'.1 with input := i }, r'.2)

/-- The same for the steps that return a value and a flag. -/
def Twin3 {α β : Type} (r r' : α × β × St) : Prop :=
  ∃ i, yesOnly i = true ∧ r = (r'.1, r'.2.1, { r'.2.2 with input := i })

@[simp] theorem St.say_input (t : St) (i : List Char) (m : Msg) :
    ({ t with input := i } : St).say m = { t.say m with input := i } := rfl

@[simp] theorem getCurrentName_input (g : Geo) (t : St) (i : List Char) :
    getCurrentName g { t with input := i } = getCurrentName g t := rfl

@[simp] theorem zoneInUse_input (g : Geo) (t : St) (i : List Char) (x : Nat) :
    zoneInUse g { t with input := i } x = zoneInUse g t x := rfl

theorem readAnswer_yes : ∀ {i : List Char}, yesOnly i = true →
    (readAnswer true i).1 ≠ some false ∧ yesOnly (readAnswer true i).2 = true
  | [], _ => ⟨nofun, rfl⟩
  | c :: cs, h => by
    simp only [yesOnly, List.all_cons, Bool.and_eq_true, bne_iff_ne, ne_eq] at h
    unfold readAnswer
    split_ifs with h1 h2
    · exact ⟨by simp, h.2⟩
    · exact absurd h2 h.1
    · exact ⟨by simp, h.2⟩
    · exact readAnswer_yes h.2

variable {e : Env}

/-- A question with yes for its default gets the same answer with `-a` and from an input that
answers yes, and the input left still answers yes. -/
theorem ask_twin {t : St} {i : List Char} (hi : yesOnly i = true) (p : String) :
    Twin2 (ask e.opts p true { t with input := i }) (ask e.auto.opts p true t) := by
  obtain ⟨hn, hy⟩ := readAnswer_yes hi
  unfold ask
  simp only [Env.auto]
  by_cases hr : e.opts.repair = true
  case neg => simp only [hr]; exact ⟨i, hi, rfl⟩
  by_cases ha : e.opts.automatic = true
  · simp only [hr, ha]; exact ⟨i, hi, rfl⟩
  simp only [hr, ha]
  generalize readAnswer true i = r at hn hy
  obtain ⟨_ | _ | _, rest⟩ := r
  · exact ⟨rest, hy, rfl⟩
  · exact absurd rfl hn
  · exact ⟨rest, hy, rfl⟩

theorem readBlock_twin {t : St} {i : List Char} (hi : yesOnly i = true) (nr : Nat) :
    Twin2 (readBlock e nr { t with input := i }) (readBlock e.auto nr t) := by
  unfold readBlock
  simp only [Env.auto_io, Env.auto_geo]
  split_ifs <;> exact ⟨i, hi, rfl⟩

theorem writeBlock_input (nr : Nat) (b : Block) (t : St) (i : List Char) :
    writeBlock e nr b { t with input := i } = { writeBlock e.auto nr b t with input := i } := by
  unfold writeBlock
  simp only [Env.auto_io, Env.auto_geo]
  split_ifs <;> rfl

section Zones

variable {t : St} {i : List Char} (hi : yesOnly i = true)
include hi

theorem checkZoneNr_twin (nr : Nat) :
    Twin3 (checkZoneNr e nr { t with input := i }) (checkZoneNr e.auto nr t) := by
  have ha := fun m : Path → Msg =>
    ask_twin (e := e) (t := t.say (m (getCurrentName e.geo t))) hi "Remove block"
  obtain ⟨i1, hi1, h1⟩ := ha .zoneLow
  obtain ⟨i2, hi2, h2⟩ := ha .zoneHigh
  unfold checkZoneNr
  simp only [Env.auto_geo, St.say_input, getCurrentName_input]
  rw [h1, h2]
  split_ifs
  · exact ⟨i, hi, rfl⟩
  · exact ⟨i1, hi1, rfl⟩
  · exact ⟨i2, hi2, rfl⟩
  · exact ⟨i, hi, rfl⟩

theorem slotNr_twin (ino k : Nat) :
    Twin2 (slotNr e ino k { t with input := i }) (slotNr e.auto ino k t) := by
  obtain ⟨i', hi', h⟩ := checkZoneNr_twin (e := e) hi (e.geo.zoneOf t.ibuf ino k)
  unfold slotNr
  simp only [Env.auto_geo]
  rw [h]
  split_ifs <;> exact ⟨i', hi', rfl⟩

theorem indirect_twin (block k : Nat) :
    Twin2 (indirect e block k { t with input := i }) (indirect e.auto block k t) := by
  obtain ⟨i1, hi1, h1⟩ := readBlock_twin (e := e) (t := t) hi block
  obtain ⟨i2, hi2, h2⟩ := checkZoneNr_twin (e := e) (t := (readBlock e.auto block t).2) hi1
    (e.geo.entry (readBlock e.auto block t).1 k)
  unfold indirect
  simp only [Env.auto_geo]
  rw [h1]
  dsimp only
  rw [h2]
  split_ifs
  · exact ⟨i2, hi2, by rw [writeBlock_input]⟩
  · exact ⟨i2, hi2, rfl⟩

theorem mapBlock_twin (ino blknr : Nat) :
    Twin2 (mapBlock e ino blknr { t with input := i }) (mapBlock e.auto ino blknr t) := by
  unfold mapBlock
  dsimp only
  split_ifs
  · exact slotNr_twin hi _ _
  · obtain ⟨i1, hi1, h1⟩ := slotNr_twin (e := e) hi ino 7
    rw [h1]
    exact indirect_twin hi1 _ _
  · obtain ⟨i1, hi1, h1⟩ := slotNr_twin (e := e) hi ino 8
    rw [h1]
    obtain ⟨i2, hi2, h2⟩ := indirect_twin (e := e) hi1 (slotNr e.auto ino 8 t).1 ((blknr - 7 - 512) / 512)
    rw [h2]
    exact indirect_twin hi2 _ _

theorem mapBlock2_twin (ino blknr : Nat) :
    Twin2 (mapBlock2 e ino blknr { t with input := i }) (mapBlock2 e.auto ino blknr t) := by
  unfold mapBlock2
  dsimp only
  split_ifs
  · exact slotNr_twin hi _ _
  all_goals
    obtain ⟨i1, hi1, h1⟩ := slotNr_twin (e := e) hi ino _
    rw [h1]
    generalize slotNr e.auto ino _ t = r
    obtain ⟨b1, u1⟩ := r
  · exact indirect_twin hi1 _ _
  · obtain ⟨i2, hi2, h2⟩ := indirect_twin (e := e) (t := u1) hi1 b1 ((blknr - 7 - 256) / 256)
    rw [h2]
    exact indirect_twin hi2 _ _
  · obtain ⟨i2, hi2, h2⟩ := indirect_twin (e := e) (t := u1) hi1 b1
      ((blknr - 7 - 256 + 2 ^ 32 - 256 * 256) % 2 ^ 32 / (256 * 256))
    rw [h2]
    generalize indirect e.auto b1 _ u1 = r
    obtain ⟨b2, u2⟩ := r
    obtain ⟨i3, hi3, h3⟩ := indirect_twin (e := e) (t := u2) hi2 b2
      ((blknr - 7 - 256 + 2 ^ 32 - 256 * 256) % 2 ^ 32 / 256 % 256)
    rw [h3]
    exact indirect_twin hi3 _ _

theorem usedBefore_twin (block : Nat) :
    Twin2 (usedBefore e block { t with input := i }) (usedBefore e.auto block t) := by
  unfold usedBefore
  simp only [Env.auto_geo, St.say_input, getCurrentName_input]
  split_ifs
  · obtain ⟨i', hi', h⟩ := ask_twin (e := e) (t := t.say (.usedBefore (getCurrentName e.geo t))) hi
      "Clear"
    rw [h]
    exact ⟨i', hi', rfl⟩
  · exact ⟨i, hi, rfl⟩

omit hi in
/-- `if (ask(prompt, 1)) fix;` with fixes that keep twins twins. -/
theorem offer_twin (fix fix' : St → St)
    (hfix : ∀ t i, yesOnly i = true → Twin (fix { t with input := i }) (fix' t)) (p : String)
    (hi : yesOnly i = true) :
    Twin (offer e.opts p true fix { t with input := i }) (offer e.auto.opts p true fix' t) := by
  obtain ⟨i', hi', h⟩ := ask_twin (e := e) (t := t) hi p
  unfold offer
  rw [h]
  dsimp only
  split_ifs
  · exact hfix _ _ hi'
  · exact ⟨i', hi', rfl⟩

theorem countZone_twin (block : Nat) :
    Twin (countZone e block { t with input := i }) (countZone e.auto block t) := by
  unfold countZone
  simp only [Env.auto_geo, St.say_input, getCurrentName_input, zoneInUse_input]
  split_ifs
  · exact ⟨i, hi, rfl⟩
  · obtain ⟨i', hi', h⟩ := offer_twin (e := e) (t := t.say (.blockNotInUse block (getCurrentName e.geo t)))
      (markZone e.geo · block) (markZone e.geo · block) (fun _ i hi => ⟨i, hi, rfl⟩)
      "Correct" hi
    rw [h]
    exact ⟨i', hi', rfl⟩

theorem addZone_twin (znr : Nat) :
    Twin3 (addZone e znr { t with input := i }) (addZone e.auto znr t) := by
  obtain ⟨i1, hi1, h1⟩ := checkZoneNr_twin (e := e) hi znr
  obtain ⟨i2, hi2, h2⟩ := usedBefore_twin (e := e) (t := (checkZoneNr e.auto znr t).2.2) hi1
    (checkZoneNr e.auto znr t).1
  obtain ⟨i3, hi3, h3⟩ := countZone_twin (e := e)
    (t := (usedBefore e.auto (checkZoneNr e.auto znr t).1 (checkZoneNr e.auto znr t).2.2).2) hi2
    (checkZoneNr e.auto znr t).1
  unfold addZone
  rw [h1]
  dsimp only
  rw [h2]
  dsimp only
  rw [h3]
  split_ifs
  · exact ⟨i1, hi1, rfl⟩
  · exact ⟨i3, hi3, rfl⟩
  · exact ⟨i2, hi2, rfl⟩

end Zones

section Walk

/-- The loop of the indirect walkers, with steps that keep twins twins. -/
theorem walkEntries_twin (g : Geo) {f f' : Nat → St → Bool × St}
    (hf : ∀ z t i, yesOnly i = true → Twin2 (f z { t with input := i }) (f' z t)) :
    ∀ (is : List Nat) (blk : Block) (chg : Bool) (t : St) (i : List Char), yesOnly i = true →
      Twin3 (walkEntries g f is (blk, chg, { t with input := i })) (walkEntries g f' is (blk, chg, t))
  | [], _, _, _, i, hi => ⟨i, hi, rfl⟩
  | k :: is, blk, chg, t, i, hi => by
    obtain ⟨i1, hi1, h1⟩ := hf (g.entry blk k) t i hi
    simp only [walkEntries]
    rw [h1]
    dsimp only
    split_ifs <;> exact walkEntries_twin g hf is _ _ _ _ hi1

theorem addZoneTree_twin : ∀ (level znr : Nat) (t : St) (i : List Char), yesOnly i = true →
    Twin2 (addZoneTree e level znr { t with input := i }) (addZoneTree e.auto level znr t)
  | 0, znr, t, i, hi => by
    obtain ⟨i1, hi1, h1⟩ := addZone_twin (e := e) hi znr
    simp only [addZoneTree]
    rw [h1]
    exact ⟨i1, hi1, rfl⟩
  | level + 1, znr, t, i, hi => by
    obtain ⟨i1, hi1, h1⟩ := addZone_twin (e := e) hi znr
    obtain ⟨i2, hi2, h2⟩ := readBlock_twin (e := e) (t := (addZone e.auto znr t).2.2) hi1
      (addZone e.auto znr t).1
    obtain ⟨i3, hi3, h3⟩ := walkEntries_twin e.geo (addZoneTree_twin level) (List.range e.geo.fanout)
      (readBlock e.auto (addZone e.auto znr t).1 (addZone e.auto znr t).2.2).1 false
      (readBlock e.auto (addZone e.auto znr t).1 (addZone e.auto znr t).2.2).2 i2 hi2
    simp only [addZoneTree, Env.auto_geo]
    rw [h1]
    dsimp only
    rw [h2]
    dsimp only
    rw [h3]
    split_ifs
    · exact ⟨i1, hi1, rfl⟩
    · exact ⟨i3, hi3, by rw [writeBlock_input]⟩
    · exact ⟨i3, hi3, rfl⟩

/-- A run of `f` over a list, with steps that keep twins twins. -/
theorem foldl_twin {α : Type} (f f' : St → α → St)
    (hf : ∀ t i a, yesOnly i = true → Twin (f { t with input := i } a) (f' t a)) :
    ∀ (l : List α) (t : St) (i : List Char), yesOnly i = true →
      Twin (l.foldl f { t with input := i }) (l.foldl f' t)
  | [], _, i, hi => ⟨i, hi, rfl⟩
  | a :: l, t, i, hi => by
    obtain ⟨i1, hi1, h1⟩ := hf t i a hi
    simp only [List.foldl]
    rw [h1]
    exact foldl_twin f f' hf l _ _ hi1

theorem zoneSlot_twin (ino : Nat) (t : St) (i : List Char) (k level : Nat) (hi : yesOnly i = true) :
    Twin (zoneSlot e ino { t with input := i } k level) (zoneSlot e.auto ino t k level) := by
  obtain ⟨i1, hi1, h1⟩ := addZoneTree_twin (e := e) level (e.geo.zoneOf t.ibuf ino k) t i hi
  unfold zoneSlot
  simp only [Env.auto_geo]
  rw [h1]
  split_ifs <;> exact ⟨i1, hi1, rfl⟩

theorem checkZones_twin (ino : Nat) {t : St} {i : List Char} (hi : yesOnly i = true) :
    Twin (checkZones e ino { t with input := i }) (checkZones e.auto ino t) := by
  unfold checkZones
  simp only [Env.auto_geo]
  split_ifs
  · exact ⟨i, hi, rfl⟩
  · exact ⟨i, hi, rfl⟩
  · exact ⟨i, hi, rfl⟩
  · obtain ⟨i1, hi1, h1⟩ := foldl_twin (fun s k => zoneSlot e ino s k 0)
      (fun s k => zoneSlot e.auto ino s k 0) (fun t i k hi => zoneSlot_twin ino t i k 0 hi)
      (List.range 7) t i hi
    rw [h1]
    exact foldl_twin (fun s j => zoneSlot e ino s (7 + j) (j + 1))
      (fun s j => zoneSlot e.auto ino s (7 + j) (j + 1))
      (fun t i j hi => zoneSlot_twin ino t i (7 + j) (j + 1) hi) _ _ _ hi1

end Walk

section Entries

theorem countInode_input (t : St) (i : List Char) (nr : Nat) :
    countInode { t with input := i } nr = { countInode t nr with input := i } := by
  unfold countInode
  dsimp only
  split_ifs <;> rfl

theorem classify_input (nr : Nat) (t : St) (i : List Char) :
    classify e nr { t with input := i } = { classify e.auto nr t with input := i } := by
  unfold classify
  simp only [Env.auto_geo, getCurrentName_input]
  split_ifs <;> rfl

theorem unusedInode_twin (nr : Nat) (t : St) (i : List Char) (hi : yesOnly i = true) :
    Twin (unusedInode e nr { t with input := i }) (unusedInode e.auto nr t) := by
  unfold unusedInode
  simp only [Env.auto_repair]
  split_ifs
  · refine offer_twin _ _ (fun t i hi => ?_) _ hi
    exact ⟨i, hi, rfl⟩
  · exact ⟨i, hi, rfl⟩

theorem unusedInode2_twin (nr : Nat) (t : St) (i : List Char) (hi : yesOnly i = true) :
    Twin (unusedInode2 e nr { t with input := i }) (unusedInode2 e.auto nr t) := by
  obtain ⟨i1, hi1, h1⟩ := ask_twin (e := e) (t := t) hi "Mark in use"
  unfold unusedInode2
  simp only [Env.auto_repair]
  rw [h1]
  split_ifs <;> exact ⟨_, ‹_›, rfl⟩

theorem getInodeWith_twin {unused : Env → Nat → St → St}
    (hu : ∀ nr t i, yesOnly i = true → Twin (unused e nr { t with input := i }) (unused e.auto nr t))
    (nr : Nat) (t : St) (i : List Char) (hi : yesOnly i = true) :
    Twin2 (getInodeWith unused e nr { t with input := i }) (getInodeWith unused e.auto nr t) := by
  obtain ⟨i1, hi1, h1⟩ := hu nr (t.say (.markedUnused nr (getCurrentName e.geo t))) i hi
  unfold getInodeWith
  simp only [Env.auto_geo, St.say_input, getCurrentName_input]
  rw [h1]
  split_ifs
  · exact ⟨i, hi, rfl⟩
  · exact ⟨i, hi, by rw [countInode_input]⟩
  · exact ⟨i, hi, by rw [classify_input, countInode_input]⟩
  · exact ⟨i1, hi1, by rw [classify_input, countInode_input]⟩

theorem readEntry_twin {mb : Env → Nat → Nat → St → Nat × St}
    (hmb : ∀ ino b t i, yesOnly i = true → Twin2 (mb e ino b { t with input := i }) (mb e.auto ino b t))
    (dir offset : Nat) (t : St) (i : List Char) (hi : yesOnly i = true) :
    Twin3 (readEntry mb e dir offset { t with input := i }) (readEntry mb e.auto dir offset t) := by
  obtain ⟨i1, hi1, h1⟩ := hmb dir (offset / blockSize) t i hi
  obtain ⟨i2, hi2, h2⟩ := readBlock_twin (e := e) (t := (mb e.auto dir (offset / blockSize) t).2) hi1
    (mb e.auto dir (offset / blockSize) t).1
  unfold readEntry
  simp only [Env.auto_geo]
  rw [h1]
  dsimp only
  rw [h2]
  simp only [St.say_input, getCurrentName_input]
  split_ifs
  · obtain ⟨i3, hi3, h3⟩ := offer_twin _ _ (fun t i hi => ⟨i, hi, writeBlock_input ..⟩) " Remove" hi2
    exact ⟨i3, hi3, by rw [h3]⟩
  · exact ⟨i2, hi2, rfl⟩

theorem pushName_input (t : St) (i : List Char) (name : List UInt8) :
    pushName { t with input := i } name = { pushName t name with input := i } := rfl

theorem listEntry_input (ino : Nat) (t : St) (i : List Char) :
    listEntry e ino { t with input := i } = { listEntry e.auto ino t with input := i } := by
  unfold listEntry
  simp only [Env.auto_list, Env.auto_verbose, Env.auto_geo, getCurrentName_input]
  split_ifs <;> rfl

/-- The helpers `check_file` or `check_file2` calls keep twins twins. -/
structure FileOps.Twins (ops : FileOps) (e : Env) : Prop where
  mapBlock : ∀ ino b t i, yesOnly i = true →
    Twin2 (ops.mapBlock e ino b { t with input := i }) (ops.mapBlock e.auto ino b t)
  getInode : ∀ nr t i, yesOnly i = true →
    Twin2 (ops.getInode e nr { t with input := i }) (ops.getInode e.auto nr t)
  push : ∀ t i name, ops.push { t with input := i } name = { ops.push t name with input := i }

theorem opsOf_twins (e : Env) : (opsOf e.geo).Twins e := by
  unfold opsOf
  split_ifs
  · exact ⟨fun ino b _ _ hi => mapBlock2_twin hi ino b,
      getInodeWith_twin fun nr t i hi => unusedInode2_twin nr t i hi, fun _ _ _ => rfl⟩
  · exact ⟨fun ino b _ _ hi => mapBlock_twin hi ino b,
      getInodeWith_twin fun nr t i hi => unusedInode_twin nr t i hi, fun _ _ _ => rfl⟩

theorem dotEntries_input (g : Geo) (offset : Nat) (found : Bool) (name : List UInt8) {s t : St}
    {i : List Char} (h : s = { t with input := i }) :
    dotEntries g offset found name s =
      ((dotEntries g offset found name t).1, { (dotEntries g offset found name t).2 with input := i }) := by
  subst h
  unfold dotEntries
  split_ifs <;> rfl

theorem fetchEntry_twin {ops : FileOps} (h : ops.Twins e) (dir offset : Nat) (t : St)
    (i : List Char) (hi : yesOnly i = true) :
    Twin2 (fetchEntry ops e dir offset { t with input := i }) (fetchEntry ops e.auto dir offset t) := by
  obtain ⟨mb, gi, push⟩ := ops
  obtain ⟨i1, hi1, h1⟩ := readEntry_twin h.mapBlock dir offset t i hi
  unfold fetchEntry
  simp only [Env.auto_geo]
  rw [h1]
  generalize readEntry mb e.auto dir offset t = r
  obtain ⟨ino, name, u⟩ := r
  obtain ⟨i2, hi2, h2⟩ := h.getInode ino (pushName u name) i1 hi1
  dsimp only at h2 ⊢
  rw [pushName_input, h2]
  generalize gi e.auto ino (pushName u name) = r
  obtain ⟨found, v⟩ := r
  rw [dotEntries_input e.geo offset found name (t := { v with depth := v.depth - 1 }) rfl]
  exact ⟨i2, hi2, rfl⟩

theorem enterEntry_twin {ops : FileOps} (h : ops.Twins e) (ino : Nat) (name : List UInt8) (t : St)
    (i : List Char) (hi : yesOnly i = true) :
    Twin (enterEntry ops e ino name { t with input := i }) (enterEntry ops e.auto ino name t) := by
  unfold enterEntry
  rw [h.push, listEntry_input]
  exact checkZones_twin ino hi

end Entries

section Traversal

theorem andThen_twin {r r' : St × Outcome} {k k' : St → St × Outcome} (h : TwinOut r r')
    (hk : ∀ t i, yesOnly i = true → TwinOut (k { t with input := i }) (k' t)) :
    TwinOut (andThen r k) (andThen r' k') := by
  obtain ⟨i, hi, rfl⟩ := h
  unfold andThen
  split_ifs
  · exact hk _ _ hi
  · exact ⟨i, hi, rfl⟩

theorem checkFileWith_twin {ops : FileOps} (h : ops.Twins e) {rc rc' : Nat → St → St × Outcome}
    (hrc : ∀ ino t i, yesOnly i = true → TwinOut (rc ino { t with input := i }) (rc' ino t))
    (dir offset : Nat) (t : St) (i : List Char) (hi : yesOnly i = true) :
    TwinOut (checkFileWith ops e rc dir offset { t with input := i })
      (checkFileWith ops e.auto rc' dir offset t) := by
  obtain ⟨i1, hi1, h1⟩ := fetchEntry_twin h dir offset t i hi
  unfold checkFileWith
  simp only [Env.auto_geo]
  rw [h1]
  generalize fetchEntry ops e.auto dir offset t = r
  obtain ⟨_ | ⟨ino, name⟩, t1⟩ := r
  · exact ⟨i1, hi1, rfl⟩
  obtain ⟨i2, hi2, h2⟩ := enterEntry_twin h ino name t1 i1 hi1
  dsimp only
  rw [h2]
  split_ifs
  · exact andThen_twin (hrc ino _ _ hi2) fun _ i hi => ⟨i, hi, rfl⟩
  · exact ⟨i2, hi2, rfl⟩

theorem sizeCheck_input (g : Geo) (ino : Nat) (t : St) (i : List Char) :
    sizeCheck g ino { t with input := i } = { sizeCheck g ino t with input := i } := by
  unfold sizeCheck
  dsimp only
  split_ifs <;> rfl

/-- The traversal from twin globals ends in twin globals, with the same outcome. -/
theorem trav_twin : ∀ (n : Nat) (c : Call) (t : St) (i : List Char), yesOnly i = true →
    TwinOut (trav e n c { t with input := i }) (trav e.auto n c t)
  | 0, _, _, i, hi => ⟨i, hi, rfl⟩
  | n + 1, .dir ino, t, i, hi => by
    simp only [trav, Env.auto_geo]
    split_ifs
    · exact ⟨i, hi, rfl⟩
    · rw [sizeCheck_input]
      exact trav_twin n _ _ _ hi
  | n + 1, .loop ino offset, t, i, hi => by
    simp only [trav, Env.auto_geo]
    split_ifs
    · exact andThen_twin (checkFileWith_twin (opsOf_twins e)
        (fun ino t i hi => trav_twin n (.dir ino) t i hi) ino offset t i hi)
        fun t i hi => trav_twin n _ t i hi
    · exact ⟨i, hi, rfl⟩

end Traversal

section Counts

theorem modeCheck_twin (t : St) (i : List Char) (hi : yesOnly i = true) (ino : Nat) :
    Twin (modeCheck e { t with input := i } ino) (modeCheck e.auto t ino) := by
  unfold modeCheck
  simp only [Env.auto_geo, Env.auto_warnMode, St.say_input]
  split_ifs
  · refine offer_twin _ _ (fun t i hi => ?_) _ hi
    exact ⟨i, hi, rfl⟩
  · exact ⟨i, hi, rfl⟩

/-- The `i_nlinks` question of `check_counts` on twin globals. -/
theorem nlinksOffer_twin (ino : Nat) (m : Msg) (t : St) (i : List Char) (hi : yesOnly i = true) :
    Twin (offer e.opts "Set i_nlinks to count" true
        (fun u => { u with ibuf := e.geo.setNlinks u.ibuf ino (u.icount ino), changed := true })
        ({ t with input := i }.say m))
      (offer e.auto.opts "Set i_nlinks to count" true
        (fun u => { u with ibuf := e.auto.geo.setNlinks u.ibuf ino (u.icount ino), changed := true })
        (t.say m)) := by
  rw [St.say_input]
  refine offer_twin _ _ (fun t i hi => ?_) _ hi
  exact ⟨i, hi, rfl⟩

theorem countCheck_twin (t : St) (i : List Char) (hi : yesOnly i = true) (ino : Nat) :
    Twin (countCheck e { t with input := i } ino) (countCheck e.auto t ino) := by
  obtain ⟨i1, hi1, h1⟩ := offer_twin (e := e) (t := t.say (.inodeNotUsed ino))
    (·.unmarkInode ino) (·.unmarkInode ino) (fun t i hi => ⟨i, hi, rfl⟩) "Clear" hi
  obtain ⟨i2, hi2, h2⟩ := offer_twin (e := e) (t := t.say (.inodeUsedUnmarked ino))
    (·.markInode ino) (·.markInode ino) (fun t i hi => ⟨i, hi, rfl⟩) "Set" hi
  unfold countCheck
  simp only [St.say_input, Env.auto_geo]
  rw [h1, h2]
  split_ifs
  · exact ⟨i, hi, rfl⟩
  · exact ⟨i1, hi1, rfl⟩
  · exact nlinksOffer_twin ino _ _ _ hi
  · exact ⟨i, hi, rfl⟩
  · exact nlinksOffer_twin ino _ _ _ hi2
  · exact ⟨i2, hi2, rfl⟩

theorem checkInodeCount_twin (t : St) (i : List Char) (hi : yesOnly i = true) (ino : Nat) :
    Twin (checkInodeCount e { t with input := i } ino) (checkInodeCount e.auto t ino) := by
  obtain ⟨i1, hi1, h1⟩ := modeCheck_twin (e := e) t i hi ino
  unfold checkInodeCount
  rw [h1]
  exact countCheck_twin _ _ hi1 ino

@[simp] theorem badZone_auto (e : Env) (z : Nat) : badZone e.auto z = badZone e z := rfl

theorem checkZoneCount_twin (t : St) (i : List Char) (hi : yesOnly i = true) (z : Nat) :
    TwinOut (checkZoneCount e { t with input := i } z) (checkZoneCount e.auto t z) := by
  obtain ⟨i1, hi1, h1⟩ := offer_twin (e := e) (t := t.say (.zoneNoFile z))
    (unmarkZone e.geo · z) (unmarkZone e.geo · z) (fun t i hi => ⟨i, hi, rfl⟩)
    "Unmark" hi
  unfold checkZoneCount
  simp only [Env.auto_geo, zoneInUse_input, St.say_input, badZone_auto]
  rw [h1]
  split_ifs <;> rcases badZone e z with _ | _ | _ <;>
    first | exact ⟨i, hi, rfl⟩ | exact ⟨i1, hi1, rfl⟩

theorem zoneLoop_twin : ∀ (zs : List Nat) (t : St) (i : List Char), yesOnly i = true →
    TwinOut (zoneLoop e zs { t with input := i }) (zoneLoop e.auto zs t)
  | [], _, i, hi => ⟨i, hi, rfl⟩
  | z :: zs, t, i, hi => by
    simp only [zoneLoop]
    exact andThen_twin (checkZoneCount_twin t i hi z) fun t i hi => zoneLoop_twin zs t i hi

theorem checkCounts_twin (t : St) (i : List Char) (hi : yesOnly i = true) :
    TwinOut (checkCounts e { t with input := i }) (checkCounts e.auto t) := by
  obtain ⟨i1, hi1, h1⟩ := foldl_twin (checkInodeCount e) (checkInodeCount e.auto)
    (fun t i ino hi => checkInodeCount_twin t i hi ino) (List.range' 1 e.geo.ninodes) t i hi
  unfold checkCounts
  simp only [Env.auto_geo]
  rw [h1]
  exact zoneLoop_twin _ _ _ hi1

/-- `check`/`check2` from twin globals ends in twin globals, with the same outcome. -/
theorem check_twin (fuel : Nat) (t : St) (i : List Char) (hi : yesOnly i = true) :
    TwinOut (check e fuel { t with input := i }) (check e.auto fuel t) := by
  obtain ⟨i1, hi1, h1⟩ := checkZones_twin (e := e) rootIno
    (t := { t with icount := fun _ => 0, zcount := fun _ => 0 }) hi
  unfold check traverse traverseStart
  rw [show ({ ({ t with input := i } : St) with icount := fun _ => 0, zcount := fun _ => 0 } : St) =
    { ({ t with icount := fun _ => 0, zcount := fun _ => 0 } : St) with input := i } from rfl, h1]
  exact andThen_twin (trav_twin _ _ _ _ hi1) fun t i hi => checkCounts_twin t i hi

end Counts

section Main

theorem writeSuperBlock_input (t : St) (i : List Char) :
    writeSuperBlock e { t with input := i } =
      ({ (writeSuperBlock e.auto t).1 with input := i }, (writeSuperBlock e.auto t).2) := by
  unfold writeSuperBlock
  simp only [Env.auto_io]
  split_ifs <;> rfl

theorem writeTables_input (t : St) (i : List Char) :
    writeTables e { t with input := i } =
      ({ (writeTables e.auto t).1 with input := i }, (writeTables e.auto t).2) := by
  unfold writeTables
  rw [writeSuperBlock_input]
  generalize writeSuperBlock e.auto t = r
  obtain ⟨u, _ | m⟩ := r
  · simp only [Env.auto_io, Env.auto_geo]
    cases writeRegion e.io 2 e.geo.imaps (packByte u.imap) u.disk with
    | none => rfl
    | some d1 =>
      dsimp only
      cases writeRegion e.io (2 + e.geo.imaps) e.geo.zmaps (packByte u.zmap) d1 with
      | none => rfl
      | some d2 =>
        dsimp only
        cases writeRegion e.io (2 + e.geo.imaps + e.geo.zmaps) e.geo.inodeBlocks u.ibuf d2 <;> rfl
  · rfl

theorem finish_twin (fuel : Nat) (t : St) (i : List Char) (hi : yesOnly i = true) :
    TwinOut (finish e fuel { t with input := i }) (finish e.auto fuel t) := by
  obtain ⟨i1, hi1, h1⟩ := check_twin (e := e) fuel t i hi
  unfold finish
  rw [h1]
  generalize check e.auto fuel t = r
  obtain ⟨u, _ | _ | m⟩ := r
  · simp only [Env.auto_repair]
    by_cases hc : u.changed = true
    · rw [if_pos hc, if_pos hc, writeTables_input]
      generalize writeTables e.auto u = r
      obtain ⟨v, _ | m⟩ := r <;> exact ⟨i1, hi1, rfl⟩
    rw [if_neg hc, if_neg hc]
    by_cases hr : e.opts.repair = true
    · rw [if_pos hr, if_pos hr, writeSuperBlock_input]
      generalize writeSuperBlock e.auto u = r
      obtain ⟨v, _ | m⟩ := r <;> exact ⟨i1, hi1, rfl⟩
    · rw [if_neg hr, if_neg hr]
      exact ⟨i1, hi1, rfl⟩
  · exact ⟨i1, hi1, rfl⟩
  · exact ⟨i1, hi1, rfl⟩

theorem readTables_input (io : Io) (g : Geo) (t : St) (i : List Char) :
    readTables io g { t with input := i } = (readTables io g t).map ({ · with input := i }) := by
  unfold readTables
  dsimp only
  split_ifs <;> rfl

theorem getDirsize_twin {t : St} {i : List Char} (hi : yesOnly i = true) :
    Twin2 (getDirsize e { t with input := i }) (getDirsize e.auto t) := by
  obtain ⟨i1, hi1, h1⟩ := readBlock_twin (e := e) (t := t) hi (e.geo.zoneOf t.ibuf rootIno 0)
  unfold getDirsize
  simp only [Env.auto_geo]
  rw [h1]
  dsimp only
  split <;> exact ⟨i1, hi1, rfl⟩

/-- `main` with `-r` from an operator input that answers yes, against `main` with `-a`: the
same end, and the same globals but for the input. -/
theorem main_twin (o : Opts) (io : Io) (fuel : Nat) (t : St) (i : List Char) (hi : yesOnly i = true) :
    TwinOut (main o io fuel { t with input := i }) (main { o with automatic := true } io fuel t) := by
  unfold main setup
  dsimp only
  cases readSuperblock io t.disk with
  | error m => exact ⟨i, hi, rfl⟩
  | ok g =>
    dsimp only
    split_ifs
    · exact ⟨i, hi, rfl⟩
    rw [readTables_input]
    cases readTables io g t with
    | error m => exact ⟨i, hi, rfl⟩
    | ok u =>
      obtain ⟨i1, hi1, h1⟩ := getDirsize_twin (e := ⟨o, io, g⟩) (t := u) hi
      dsimp only [Except.map]
      rw [h1]
      simp only [Env.auto]
      split_ifs
      · exact ⟨i1, hi1, rfl⟩
      · exact finish_twin fuel _ _ hi1

end Main

/-- With `-r`, an operator input that holds no `n` or `N` makes `main` do what it does with
`-a`: the run ends the same way, with the same device, tables, counts and flags. The two differ
in the input read and in what `ask` prints: the prompt and `y` against a bare newline. -/
theorem main_interactive_yes (o : Opts) (io : Io) (fuel : Nat) (s : St)
    (hy : yesOnly s.input = true) :
    (main o io fuel s).2 = (main { o with automatic := true } io fuel s).2 ∧
      ∃ inp out, (main o io fuel s).1 =
        { (main { o with automatic := true } io fuel s).1 with input := inp, out := out } := by
  obtain ⟨inp, -, h⟩ := main_twin o io fuel s s.input hy
  have h' : main o io fuel s = _ := h
  rw [h']
  exact ⟨rfl, inp, _, rfl⟩

set_option maxRecDepth 20000 in
/-- With `-r` and the answer `y`, the run on `danglingImage` removes the entry naming inode 40
as the run with `-a` does. -/
theorem main_interactive_yes_dangling :
    yesOnly (St.start danglingImage ['y']).input = true ∧
      (main interactiveOpts tinyIo 20 (St.start danglingImage ['y'])).2 =
        (main { interactiveOpts with automatic := true } tinyIo 20 (St.start danglingImage ['y'])).2 ∧
      ∃ inp out, (main interactiveOpts tinyIo 20 (St.start danglingImage ['y'])).1 =
        { (main { interactiveOpts with automatic := true } tinyIo 20
            (St.start danglingImage ['y'])).1 with input := inp, out := out } :=
  ⟨rfl, main_interactive_yes interactiveOpts tinyIo 20 (St.start danglingImage ['y']) rfl⟩

end MinixFsck
