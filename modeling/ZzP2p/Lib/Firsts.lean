import Mathlib.Tactic

/-! Rows of a list that bring a new key: those whose key is not in a given set and on no earlier row. -/

namespace ZzP2p.Lib

variable {α κ : Type*} [DecidableEq κ] (key : α → κ)

def firsts : List α → Finset κ → List α
  | [], _ => []
  | x :: xs, seen => if key x ∈ seen then firsts xs seen else x :: firsts xs (insert (key x) seen)

variable {key} {xs ys : List α} {seen : Finset κ} {k : κ}

lemma mem_keys_firsts : k ∈ (firsts key xs seen).map key ↔ k ∈ xs.map key ∧ k ∉ seen := by
  induction xs generalizing seen with
  | nil => simp [firsts]
  | cons x xs ih =>
    rw [firsts]
    split
    · next hx =>
      rw [ih, List.map_cons, List.mem_cons]
      constructor
      · exact fun h => ⟨Or.inr h.1, h.2⟩
      · rintro ⟨rfl | h, hk⟩
        · exact absurd hx hk
        · exact ⟨h, hk⟩
    · next hx =>
      rw [List.map_cons, List.map_cons, List.mem_cons, List.mem_cons, ih, Finset.mem_insert]
      by_cases hk : k = key x
      · simp [hk, hx]
      · simp [hk]

lemma nodup_keys_firsts : ((firsts key xs seen).map key).Nodup := by
  induction xs generalizing seen with
  | nil => exact List.nodup_nil
  | cons x xs ih =>
    rw [firsts]
    split
    · exact ih
    · refine List.nodup_cons.mpr ⟨fun h => ?_, ih⟩
      exact (mem_keys_firsts.mp h).2 (Finset.mem_insert_self _ _)

lemma firsts_subset : firsts key xs seen ⊆ xs := by
  induction xs generalizing seen with
  | nil => exact List.Subset.refl []
  | cons x xs ih =>
    rw [firsts]
    split
    · exact List.subset_cons_of_subset x ih
    · exact List.cons_subset_cons x ih

lemma firsts_append : firsts key (xs ++ ys) seen =
    firsts key xs seen ++ firsts key ys (seen ∪ (xs.map key).toFinset) := by
  induction xs generalizing seen with
  | nil => simp [firsts]
  | cons x xs ih =>
    have hunion : insert (key x) seen ∪ (xs.map key).toFinset =
        seen ∪ ((x :: xs).map key).toFinset := by
      ext k
      simp
    rw [List.cons_append, firsts, firsts]
    split
    · next hx =>
      rw [ih, ← hunion, Finset.insert_eq_of_mem hx]
    · rw [ih, hunion, List.cons_append]

lemma firsts_firsts {seen' : Finset κ} (h : seen ⊆ seen') :
    firsts key (firsts key xs seen) seen' = firsts key xs seen' := by
  induction xs generalizing seen seen' with
  | nil => rfl
  | cons x xs ih =>
    rw [firsts]
    split
    · next hx => rw [ih h, firsts, if_pos (h hx)]
    · rw [firsts, firsts]
      split
      · next hx => exact ih (Finset.insert_subset hx h)
      · rw [ih (Finset.insert_subset_insert _ h)]

end ZzP2p.Lib
