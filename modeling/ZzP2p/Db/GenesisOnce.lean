import ZzP2p.Db.Meta

/-! Genesis is applied once: of all concurrent calls of `mark_genesis_applied`, exactly one succeeds. -/

namespace ZzP2p.Db.Meta

open Lib Lib.Runs

variable {ι : Type} [DecidableEq ι] (calls : ι → Call)

/-- The row a call has found is still there, with the key it was found under. -/
def Tracked (s : Shared ι) : Prop :=
  ∀ i r, s.phase i = .found (some r) → HasKey s.table r.1 (calls i).key

structure Unapplied (s : Shared ι) : Prop where
  rows : rowsOf .genesisApplied s.table = []
  pending : ∀ i, calls i = .markGenesisApplied → ∀ r, s.phase i ≠ .returned r

structure AppliedBy (i : ι) (s : Shared ι) : Prop where
  rows : rowsOf .genesisApplied s.table = [⟨"genesis_applied", "true"⟩]
  call : calls i = .markGenesisApplied
  ok : s.phase i = .returned (.ok ())
  others : ∀ j, j ≠ i → calls j = .markGenesisApplied → ∀ r, s.phase j = .returned r → r ≠ .ok ()

variable {calls}

lemma Tracked.step {s : Shared ι} (h : Tracked calls s) (a : Action ι) :
    Tracked calls (step calls s a) := by
  rcases step_cases s a with he | ⟨i, -, he⟩ | ⟨i, row, hp, he⟩
  · rwa [he]
  · rw [he]
    intro j r hj
    by_cases hji : j = i
    · subst hji
      simp only [Function.update_self, Phase.found.injEq] at hj
      exact hasKey_find hj
    · exact h j r (by simpa [hji] using hj)
  · rw [he]
    intro j r hj
    by_cases hji : j = i
    · simp [hji] at hj
    · exact (h j r (by simpa [hji] using hj)).write (calls i) row

lemma write_mark {t : MetaTable} (h : rowsOf .genesisApplied t = []) :
    ((markGenesisApplied none t).1 = .ok ()) ∧
      rowsOf .genesisApplied (markGenesisApplied none t).2 = [⟨"genesis_applied", "true"⟩] := by
  simp only [markGenesisApplied, insert_fresh h, true_and]
  simp only [rowsOf, Table.values_insert, List.filter_append] at h ⊢
  rw [h]
  rfl

lemma write_mark_again {t : MetaTable} (h : rowsOf .genesisApplied t ≠ [])
    (row : Option (ℕ × Columns)) : ∃ e, markGenesisApplied row t = (.error e, t) := by
  cases row with
  | some r => exact ⟨_, rfl⟩
  | none => exact ⟨_, insert_taken h "true"⟩

lemma Unapplied.advance {s : Shared ι} (h : Unapplied calls s) {i : ι} {t : MetaTable} {p : Phase}
    (ht : rowsOf .genesisApplied t = []) (hp : calls i = .markGenesisApplied → ∀ r, p ≠ .returned r) :
    Unapplied calls ⟨t, Function.update s.phase i p⟩ := by
  refine ⟨ht, fun j hj r hr => ?_⟩
  by_cases hji : j = i
  · subst hji
    exact hp hj r (by simpa using hr)
  · exact h.pending j hj r (by simpa [hji] using hr)

lemma AppliedBy.advance {k : ι} {s : Shared ι} (h : AppliedBy calls k s) {i : ι} {t : MetaTable}
    {p : Phase} (hi : s.phase i ≠ .returned (.ok ()))
    (ht : rowsOf .genesisApplied t = rowsOf .genesisApplied s.table)
    (hp : calls i = .markGenesisApplied → p ≠ .returned (.ok ())) :
    AppliedBy calls k ⟨t, Function.update s.phase i p⟩ := by
  have hki : k ≠ i := by
    rintro rfl
    exact hi h.ok
  refine ⟨ht.trans h.rows, h.call, by simpa [hki] using h.ok, fun j hjk hj r hr => ?_⟩
  by_cases hji : j = i
  · subst hji
    rintro rfl
    exact hp hj (by simpa using hr)
  · exact h.others j hjk hj r (by simpa [hji] using hr)

variable (hother : ∀ i value, calls i ≠ .set .genesisApplied value)
include hother

omit [DecidableEq ι] in
lemma key_genesis {i : ι} (hi : calls i ≠ .markGenesisApplied) : (calls i).key ≠ .genesisApplied := by
  intro hk
  cases hc : calls i with
  | set key value =>
    rw [hc] at hk
    exact hother i value (by rw [hc]; exact congrArg (Call.set · value) hk)
  | markGenesisApplied => exact hi hc
  | setNetwork network =>
    rw [hc] at hk
    cases hk

lemma Unapplied.step {s : Shared ι} (htr : Tracked calls s) (h : Unapplied calls s) (a : Action ι) :
    Unapplied calls (step calls s a) ∨ ∃ i, AppliedBy calls i (step calls s a) := by
  rcases step_cases s a with he | ⟨i, hp, he⟩ | ⟨i, row, hp, he⟩
  · rw [he]
    exact Or.inl h
  · rw [he]
    exact Or.inl (h.advance h.rows (fun _ _ hr => Phase.noConfusion hr))
  · rw [he]
    by_cases hi : calls i = .markGenesisApplied
    · -- an earlier answer can only have been that there is no row
      obtain rfl : row = none := by
        rw [Option.eq_none_iff_forall_ne_some]
        rintro r rfl
        have hk := htr i r hp
        rw [hi] at hk
        exact hk.rowsOf_ne_nil h.rows
      obtain ⟨hok, hrows⟩ := write_mark h.rows
      rw [hi]
      refine Or.inr ⟨i, hrows, hi, ?_, fun j hji hj r hr => ?_⟩
      · simp only [Function.update_self, Call.write, hok]
      · exact absurd (by simpa [hji] using hr) (h.pending j hj r)
    · refine Or.inl (h.advance ?_ (fun hm => absurd hm hi))
      rw [rowsOf_write (key_genesis hother hi) (fun r hr => htr i r (hr ▸ hp)), h.rows]

lemma AppliedBy.step {k : ι} {s : Shared ι} (htr : Tracked calls s) (h : AppliedBy calls k s)
    (a : Action ι) : AppliedBy calls k (step calls s a) := by
  rcases step_cases s a with he | ⟨i, hp, he⟩ | ⟨i, row, hp, he⟩
  · rwa [he]
  · rw [he]
    apply h.advance
    · rw [hp]
      exact Phase.noConfusion
    · rfl
    · exact fun _ hr => Phase.noConfusion hr
  · rw [he]
    apply h.advance
    · rw [hp]
      exact Phase.noConfusion
    · by_cases hi : calls i = .markGenesisApplied
      · obtain ⟨e, herr⟩ := write_mark_again (t := s.table) (by simp [h.rows]) row
        rw [hi, Call.write, herr]
      · exact rowsOf_write (key_genesis hother hi) (fun r hr => htr i r (hr ▸ hp))
    · intro hi
      obtain ⟨e, herr⟩ := write_mark_again (t := s.table) (by simp [h.rows]) row
      rw [hi, Call.write, herr]
      intro hr
      cases hr

lemma once_visited {t : MetaTable} (ht : rowsOf .genesisApplied t = []) (schedule : List (Action ι)) :
    ∀ s ∈ visited (step calls) (start t) schedule,
      Unapplied calls s ∨ ∃ i, AppliedBy calls i s := by
  have hinv : ∀ s ∈ visited (step calls) (start t) schedule,
      Tracked calls s ∧ (Unapplied calls s ∨ ∃ i, AppliedBy calls i s) := by
    apply visited_invariant
    · intro s a h
      refine ⟨h.1.step a, ?_⟩
      rcases h.2 with hu | ⟨i, hi⟩
      · exact hu.step hother h.1 a
      · exact Or.inr ⟨i, hi.step hother h.1 a⟩
    · exact ⟨fun i r h => Phase.noConfusion h, Or.inl ⟨ht, fun i hi r h => Phase.noConfusion h⟩⟩
  exact fun s hs => (hinv s hs).2

theorem genesis_applied_once (hsome : ∃ i, calls i = .markGenesisApplied) (t : MetaTable)
    (ht : rowsOf .genesisApplied t = []) (schedule : List (Action ι))
    (hdone : ∀ i, calls i = .markGenesisApplied →
      ∃ r, (schedule.foldl (step calls) (start t)).phase i = .returned r) :
    let s := schedule.foldl (step calls) (start t)
    (∃ i, calls i = .markGenesisApplied ∧ s.phase i = .returned (.ok ()) ∧
      ∀ j, j ≠ i → calls j = .markGenesisApplied → ∃ e, s.phase j = .returned (.error e)) ∧
    rowsOf .genesisApplied s.table = [⟨"genesis_applied", "true"⟩] := by
  intro s
  rcases once_visited hother ht schedule s (last_visited _ _) with hu | ⟨i, hi⟩
  · obtain ⟨i, hi⟩ := hsome
    obtain ⟨r, hr⟩ := hdone i hi
    exact absurd hr (hu.pending i hi r)
  · refine ⟨⟨i, hi.call, hi.ok, fun j hji hj => ?_⟩, hi.rows⟩
    obtain ⟨r, hr⟩ := hdone j hj
    cases r with
    | error e => exact ⟨e, hr⟩
    | ok u => exact absurd rfl (hi.others j hji hj _ hr)

omit hother

def twoMarks : Fin 3 → Call := ![.markGenesisApplied, .markGenesisApplied, .set .networkType "test"]

def crossed : List (Action (Fin 3)) := [.find 0, .find 1, .find 2, .write 1, .write 2, .write 0]

theorem genesis_applied_once_crossed :
    rowsOf .genesisApplied (crossed.foldl (step twoMarks) (start Table.empty)).table =
      [⟨"genesis_applied", "true"⟩] := by
  refine (@genesis_applied_once _ _ twoMarks ?_ ⟨0, rfl⟩ Table.empty rfl crossed ?_).2
  · intro i value
    fin_cases i <;> exact fun h => by cases h
  · intro i hi
    fin_cases i
    · exact ⟨_, rfl⟩
    · exact ⟨_, rfl⟩
    · cases hi

end ZzP2p.Db.Meta
