import MinixFsck.Closure

/-! Runs that take yes for an answer: with `-a`, or with no error recorded. -/
namespace MinixFsck

/-- From here back, every question was answered yes: the run is automatic, or it has
recorded no uncorrected error yet. -/
def Agreed (e : Env) (t : St) : Prop :=
  (e.opts.automatic = true ∧ e.opts.repair = true) ∨ t.errors = false

theorem Agreed.of_errors {e : Env} {s t : St} (h : Agreed e t)
    (he : t.errors = false → s.errors = false) : Agreed e s :=
  h.imp_right he

/-- An error, once recorded, stays: a state a run reaches with its questions answered yes
was reached with them answered yes. -/
theorem agreed_closed (e : Env) : Closed e fun s t => Agreed e t → Agreed e s where
  refl _ := id
  trans h1 h2 := h1 ∘ h2
  ask p d s h := h.of_errors fun he => by
    rw [ask_errors, Bool.or_eq_false_iff] at he
    exact he.1
  say _ _ := id
  errors _ h := h.of_errors nofun
  ibuf _ _ := id
  markInode _ _ := id
  icount _ _ := id
  writeBlock nr b s h := h.of_errors fun he => by
    unfold writeBlock reportError at he
    split_ifs at he <;> simpa using he

variable {e : Env}

/-- A question with yes for its default, asked on an agreed run, is answered yes. -/
theorem ask_agreed {p : String} {s : St} (h : Agreed e (ask e.opts p true s).2) :
    (ask e.opts p true s).1 = true := by
  rcases h with ⟨ha, hr⟩ | he
  · exact ask_automatic ha hr p true s
  · rw [ask_errors, Bool.or_eq_false_iff, Bool.not_eq_false'] at he
    exact he.2

/-- `if (ask(prompt, 1)) fix;` on an agreed run applies the fix. -/
theorem offer_agreed {p : String} {fix : St → St} {s : St} (h : Agreed e (offer e.opts p true fix s)) :
    (ask e.opts p true s).1 = true ∧ offer e.opts p true fix s = fix (ask e.opts p true s).2 := by
  unfold offer at h ⊢
  dsimp only at h ⊢
  by_cases ha : (ask e.opts p true s).1 = true
  · rw [if_pos ha] at h ⊢
    exact ⟨ha, rfl⟩
  · rw [if_neg ha] at h
    exact absurd (ask_agreed h) ha

/-- On an agreed run `add_zone` keeps a pointer only to a zone not counted yet: a second
reference is cleared. -/
theorem usedBefore_fresh_agreed {block : Nat} {s : St} (hk : (usedBefore e block s).1 = true)
    (h : Agreed e (usedBefore e block s).2) : (usedBefore e block s).2.zcount block = 0 := by
  unfold usedBefore at hk h ⊢
  split_ifs at hk h ⊢ with hz
  · simp [ask_agreed h] at hk
  · simpa using hz

/-- `countZone` on an agreed run: the zone is marked and counted, and nothing else in the
zone tables changes. -/
theorem countZone_agreed {block : Nat} {s : St} (h : Agreed e (countZone e block s)) :
    (countZone e block s).zcount = Function.update s.zcount block (bump (s.zcount block)) ∧
      ∀ z, zoneInUse e.geo (countZone e block s) z =
        (zoneInUse e.geo s z || decide (zoneBit e.geo z = zoneBit e.geo block)) := by
  unfold countZone at h ⊢
  dsimp only at h ⊢
  split_ifs at h ⊢ with hu
  · refine ⟨rfl, fun z => ?_⟩
    by_cases hb : zoneBit e.geo z = zoneBit e.geo block
    · simpa [zoneInUse, hb] using hu
    · simp [zoneInUse, hb]
  · obtain ⟨-, hq⟩ := offer_agreed h
    rw [hq]
    refine ⟨by simp [markZone, St.say], fun z => ?_⟩
    by_cases hb : zoneBit e.geo z = zoneBit e.geo block <;>
      simp [zoneInUse, markZone, St.say, Function.update_apply, hb]

end MinixFsck
