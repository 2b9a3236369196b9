import ZzP2p.Lib.Table

/-! Tables whose rows have a key of their own beside the number. While no two rows share a key, a table
is a map from keys to rows, and its statements are changes of the map at one key. -/

namespace ZzP2p.Lib.Table

variable {ρ κ : Type*} (key : ρ → κ)

def delete (t : Table ρ) (p : ρ → Bool) : Table ρ where
  seq := t.seq
  rows := t.rows.filter (fun r => !p r.2)
  ordered := t.ordered.filter _
  bounded := fun r hr => t.bounded r (List.mem_of_mem_filter hr)

def rowAt [DecidableEq κ] (t : Table ρ) (k : κ) : Option (ℕ × ρ) := t.find? (fun r => key r == k)

def UniqueKeys (t : Table ρ) : Prop := t.rows.Pairwise (fun r s => key r.2 ≠ key s.2)

variable {key} {t : Table ρ} {k : κ} {r : ℕ × ρ}

lemma uniqueKeys_empty : UniqueKeys key empty := List.Pairwise.nil

lemma UniqueKeys.delete (hu : UniqueKeys key t) (p : ρ → Bool) : UniqueKeys key (t.delete p) := hu.filter _

lemma UniqueKeys.update (hu : UniqueKeys key t) {f : ρ → ρ} (hf : ∀ v, key (f v) = key v) (id : ℕ) :
    UniqueKeys key (t.update id f) := by
  have hkey : ∀ r : ℕ × ρ, key (if r.1 = id then (r.1, f r.2) else r).2 = key r.2 := by
    intro r
    split
    · exact hf r.2
    · rfl
  rw [UniqueKeys, Table.update, List.pairwise_map]
  simp only [hkey]
  exact hu

variable [DecidableEq κ]

lemma rowAt_eq_none : rowAt key t k = none ↔ ∀ r ∈ t.rows, key r.2 ≠ k := by
  rw [rowAt, find?, List.find?_eq_none]
  simp

lemma mem_of_rowAt (h : rowAt key t k = some r) : r ∈ t.rows ∧ key r.2 = k := by
  obtain ⟨hr, hk⟩ := find?_eq_some h
  exact ⟨hr, by simpa using hk⟩

/-- The row of a key is the one row with that key. -/
lemma rowAt_eq_some (hu : UniqueKeys key t) : rowAt key t k = some r ↔ r ∈ t.rows ∧ key r.2 = k := by
  refine ⟨mem_of_rowAt, ?_⟩
  rintro ⟨hr, hk⟩
  cases hrow : rowAt key t k with
  | none => exact absurd hk (rowAt_eq_none.mp hrow r hr)
  | some s =>
    obtain ⟨hs, hks⟩ := mem_of_rowAt hrow
    by_contra hne
    have hsym : Std.Symm (fun r s : ℕ × ρ => key r.2 ≠ key s.2) := ⟨fun _ _ h => h.symm⟩
    exact hu.forall hs hr (by simpa using hne) (hks.trans hk.symm)

lemma UniqueKeys.insert (hu : UniqueKeys key t) {v : ρ} (h : rowAt key t (key v) = none) :
    UniqueKeys key (t.insert v) := by
  refine List.pairwise_append.mpr ⟨hu, List.pairwise_singleton _ _, ?_⟩
  intro r hr s hs
  rw [List.mem_singleton.mp hs]
  exact rowAt_eq_none.mp h r hr

lemma rowAt_insert {v : ρ} (h : rowAt key t (key v) = none) (k : κ) :
    rowAt key (t.insert v) k = if k = key v then some (t.seq + 1, v) else rowAt key t k := by
  have happend : rowAt key (t.insert v) k =
      (rowAt key t k).or (if key v = k then some (t.seq + 1, v) else none) := by
    simp only [rowAt, find?, Table.insert, List.find?_append, List.find?_singleton, beq_iff_eq]
  rw [happend]
  by_cases hk : k = key v
  · rw [hk, h, if_pos rfl]
    rfl
  · rw [if_neg hk, if_neg (Ne.symm hk), Option.or_none]

lemma rowAt_update (hu : UniqueKeys key t) (h : rowAt key t k = some r) {f : ρ → ρ}
    (hf : ∀ v, key (f v) = key v) (j : κ) :
    rowAt key (t.update r.1 f) j = if j = k then some (r.1, f r.2) else rowAt key t j := by
  obtain ⟨hr, hk⟩ := mem_of_rowAt h
  obtain ⟨l₁, l₂, hl, hlt₁, hlt₂, hu'⟩ := rows_update hr f
  have hunique := hu.update hf r.1
  by_cases hj : j = k
  · rw [if_pos hj, hj, rowAt_eq_some hunique, hu']
    exact ⟨by simp, by rw [hf, hk]⟩
  · have hne : key r.2 ≠ j := by
      rw [hk]
      exact Ne.symm hj
    rw [if_neg hj]
    have hskip : (key r.2 == j) = false := by simpa using hne
    simp only [rowAt, find?, hu', hl, List.find?_append, List.find?_cons, hf, hskip]

lemma rowAt_delete (t : Table ρ) (k j : κ) :
    rowAt key (t.delete (fun r => key r == k)) j = if j = k then none else rowAt key t j := by
  rw [rowAt, find?, Table.delete, List.find?_filter]
  by_cases hj : j = k
  · rw [if_pos hj, List.find?_eq_none]
    intro r _
    simp [hj]
  · rw [if_neg hj, rowAt, find?]
    refine congrArg (fun p => t.rows.find? p) (funext (fun r => ?_))
    by_cases hr : key r.2 = j
    · simp [hr, hj]
    · simp [hr]

end ZzP2p.Lib.Table
