import Mathlib.Tactic

/-! Tables kept as lists of rows, where a row is changed in place if its key is there and pushed at
the end if it is not. -/

namespace ZzP2p.Lib.Upsert

variable {α κ : Type*} (key : α → κ)

def KeepsKey (k : κ) (change : Option α → α) : Prop := ∀ r, (∀ q ∈ r, key q = k) → key (change r) = k

variable {key} {k : κ} {change : Option α → α}

lemma KeepsKey.pushed (h : KeepsKey key k change) : key (change none) = k := h none (by simp)

lemma KeepsKey.changed (h : KeepsKey key k change) {r : α} (hr : key r = k) : key (change (some r)) = k :=
  h (some r) (by simpa using hr)

variable [DecidableEq κ]

variable (key) in
def get (k : κ) (rows : List α) : Option α := rows.find? (fun r => key r = k)

variable (key) in
def upsert (k : κ) (change : Option α → α) : List α → List α
  | [] => [change none]
  | r :: rows => if key r = k then change (some r) :: rows else r :: upsert k change rows

lemma get_upsert (hkey : KeepsKey key k change) (j : κ) (rows : List α) :
    get key j (upsert key k change rows) =
      if j = k then some (change (get key k rows)) else get key j rows := by
  induction rows with
  | nil =>
    by_cases hj : j = k
    · simp [get, upsert, hkey.pushed, hj]
    · simp [get, upsert, hkey.pushed, hj, Ne.symm hj]
  | cons r rows ih =>
    rw [upsert]
    split
    · next hr =>
      by_cases hj : j = k
      · simp [get, hkey.changed hr, hr, hj]
      · simp [get, hkey.changed hr, hr, hj, Ne.symm hj]
    · next hr =>
      by_cases hrj : key r = j
      · have hj : j ≠ k := fun he => hr (hrj.trans he)
        simp [get, hrj, hj]
      · have hget : ∀ rest, get key j (r :: rest) = get key j rest := by
          intro rest
          simp [get, hrj]
        have hgetk : get key k (r :: rows) = get key k rows := by simp [get, hr]
        rw [hget, hget, hgetk, ih]

lemma keys_upsert (hkey : KeepsKey key k change) (rows : List α) :
    (upsert key k change rows).map key =
      if k ∈ rows.map key then rows.map key else rows.map key ++ [k] := by
  induction rows with
  | nil => simp [upsert, hkey.pushed]
  | cons r rows ih =>
    rw [upsert]
    split
    · next hr => simp [hkey.changed hr, hr]
    · next hr =>
      rw [List.map_cons, ih]
      by_cases hk : k ∈ rows.map key
      · simp only [hk, if_true, List.map_cons, List.mem_cons_of_mem]
      · simp [hk, Ne.symm hr]

lemma nodup_upsert (hkey : KeepsKey key k change) {rows : List α} (h : (rows.map key).Nodup) :
    ((upsert key k change rows).map key).Nodup := by
  rw [keys_upsert hkey]
  split
  · exact h
  · next hk =>
    rw [← List.concat_eq_append]
    exact h.concat hk

lemma mem_keys_upsert (hkey : KeepsKey key k change) {rows : List α} {j : κ} :
    j ∈ (upsert key k change rows).map key ↔ j = k ∨ j ∈ rows.map key := by
  rw [keys_upsert hkey]
  split
  · next hk =>
    refine ⟨Or.inr, ?_⟩
    rintro (rfl | h)
    · exact hk
    · exact h
  · rw [List.mem_append, List.mem_singleton, or_comm]

lemma get_eq_some_of_mem {rows : List α} (h : (rows.map key).Nodup) {r : α} (hr : r ∈ rows) :
    get key (key r) rows = some r := by
  induction rows with
  | nil => exact absurd hr List.not_mem_nil
  | cons q rows ih =>
    obtain ⟨hq, hrest⟩ := List.nodup_cons.mp h
    rcases List.mem_cons.mp hr with rfl | hr
    · simp [get]
    · have hne : key q ≠ key r := fun he => hq (he ▸ List.mem_map_of_mem hr)
      rw [← ih hrest hr]
      simp [get, hne]

lemma sum_upsert {weight : α → ℕ} {d : ℕ} {rows : List α} (hnone : weight (change none) = d)
    (hsome : ∀ r ∈ rows, key r = k → weight (change (some r)) = weight r + d) :
    ((upsert key k change rows).map weight).sum = (rows.map weight).sum + d := by
  induction rows with
  | nil => simp [upsert, hnone]
  | cons r rows ih =>
    rw [upsert]
    split
    · next hr =>
      rw [List.map_cons, List.sum_cons, List.map_cons, List.sum_cons, hsome r List.mem_cons_self hr]
      omega
    · rw [List.map_cons, List.sum_cons, List.map_cons, List.sum_cons,
        ih (fun q hq => hsome q (List.mem_cons_of_mem r hq))]
      omega

end ZzP2p.Lib.Upsert
