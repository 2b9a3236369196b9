import Mathlib.Tactic

/-! A set of keys that is emptied as a whole right after an insertion takes it over its capacity. -/

namespace ZzP2p.Lib.BoundedSet

variable {α : Type*} [DecidableEq α] (cap : ℕ)

def record (s : Finset α) (k : α) : Bool × Finset α :=
  if k ∈ s then (false, s)
  else (true, if (insert k s).card > cap then ∅ else insert k s)

def recordAll (s : Finset α) (ks : List α) : Finset α := ks.foldl (fun s k => (record cap s k).2) s

def others (k : α) (s : Finset α) : List α → ℕ
  | [] => 0
  | x :: ks => (if x ∉ s ∧ x ≠ k then 1 else 0) + others k (record cap s x).2 ks

variable {cap} {s : Finset α} {k : α}

lemma record_of_mem (h : k ∈ s) : record cap s k = (false, s) := if_pos h

lemma record_of_lt (h : k ∉ s) (hc : s.card < cap) : record cap s k = (true, insert k s) := by
  have hi : ¬ (insert k s).card > cap := by
    rw [Finset.card_insert_of_notMem h]
    omega
  simp only [record, if_neg h, if_neg hi]

lemma record_of_le (h : k ∉ s) (hc : cap ≤ s.card) : record cap s k = (true, ∅) := by
  have hi : (insert k s).card > cap := by
    rw [Finset.card_insert_of_notMem h]
    omega
  simp only [record, if_neg h, if_pos hi]

lemma record_fst : (record cap s k).1 = true ↔ k ∉ s := by
  by_cases h : k ∈ s <;> simp [record, h]

lemma mem_record {k' : α} (h : k' ∈ (record cap s k).2) : k' = k ∨ k' ∈ s := by
  by_cases hk : k ∈ s
  · rw [record_of_mem hk] at h
    exact Or.inr h
  · by_cases hc : s.card < cap
    · rw [record_of_lt hk hc] at h
      exact Finset.mem_insert.mp h
    · simp [record_of_le hk (Nat.not_lt.mp hc)] at h

lemma mem_recordAll (ks : List α) (h : k ∈ s) (hc : s.card + others cap k s ks ≤ cap) :
    k ∈ recordAll cap s ks := by
  induction ks generalizing s with
  | nil => exact h
  | cons x ks ih =>
    by_cases hx : x ∈ s
    · simp only [others, hx, not_true_eq_false, false_and, if_false, record_of_mem hx] at hc
      simpa only [recordAll, List.foldl_cons, record_of_mem hx] using ih h (by omega)
    · have hxk : x ≠ k := fun he => hx (he ▸ h)
      simp only [others, if_pos (And.intro hx hxk)] at hc
      have hlt : s.card < cap := by omega
      simp only [record_of_lt hx hlt] at hc
      have hm : k ∈ recordAll cap (insert x s) ks := by
        apply ih (Finset.mem_insert_of_mem h)
        rw [Finset.card_insert_of_notMem hx]
        omega
      simpa only [recordAll, List.foldl_cons, record_of_lt hx hlt] using hm

lemma notMem_recordAll (ks : List α) (h : k ∉ s) (hk : k ∉ ks) : k ∉ recordAll cap s ks := by
  induction ks generalizing s with
  | nil => exact h
  | cons x ks ih =>
    rw [List.mem_cons, not_or] at hk
    exact ih (fun hm => (mem_record hm).elim hk.1 h) hk.2

lemma recordAll_forgets (ks : List α) (hk : k ∉ ks) (hs : s.card ≤ cap)
    (hc : cap < s.card + others cap k s ks) : k ∉ recordAll cap s ks := by
  induction ks generalizing s with
  | nil =>
    rw [others] at hc
    omega
  | cons x ks ih =>
    rw [List.mem_cons, not_or] at hk
    by_cases hx : x ∈ s
    · simp only [others, hx, not_true_eq_false, false_and, if_false, record_of_mem hx] at hc
      simpa only [recordAll, List.foldl_cons, record_of_mem hx] using ih hk.2 hs (by omega)
    · simp only [others, if_pos (And.intro hx (Ne.symm hk.1))] at hc
      by_cases hlt : s.card < cap
      · simp only [record_of_lt hx hlt] at hc
        have hcard := Finset.card_insert_of_notMem hx
        have hm : k ∉ recordAll cap (insert x s) ks := by
          apply ih hk.2
          · omega
          · omega
        simpa only [recordAll, List.foldl_cons, record_of_lt hx hlt] using hm
      · have hm : k ∉ recordAll cap ∅ ks := notMem_recordAll ks (Finset.notMem_empty k) hk.2
        simpa only [recordAll, List.foldl_cons, record_of_le hx (Nat.not_lt.mp hlt)] using hm

lemma recordAll_of_nodup (ks : List α) (hk : ks.Nodup) (hd : ∀ x ∈ ks, x ∉ s)
    (hc : s.card + ks.length ≤ cap) : recordAll cap s ks = s ∪ ks.toFinset := by
  induction ks generalizing s with
  | nil => simp [recordAll]
  | cons x ks ih =>
    obtain ⟨hx, hk⟩ := List.nodup_cons.mp hk
    have hxs : x ∉ s := hd x List.mem_cons_self
    rw [List.length_cons] at hc
    have hr : recordAll cap (insert x s) ks = insert x s ∪ ks.toFinset := by
      apply ih hk
      · intro y hy
        rw [Finset.mem_insert, not_or]
        exact ⟨fun he => hx (he ▸ hy), hd y (List.mem_cons_of_mem x hy)⟩
      · rw [Finset.card_insert_of_notMem hxs]
        omega
    rw [List.toFinset_cons, Finset.union_insert, ← Finset.insert_union]
    simpa only [recordAll, List.foldl_cons, record_of_lt hxs (by omega : s.card < cap)] using hr

end ZzP2p.Lib.BoundedSet
