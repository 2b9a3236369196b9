import ZzP2p.Lib.Upsert

/-! Rows gathered in a map by their keys: every row is pushed to the entry of its key, which is made
when the key first comes. A map is walked in an order of its own. -/

namespace ZzP2p.Lib

open Upsert

structure MapOrder (α : Type*) where
  arrange : List α → List α
  perm : ∀ l, (arrange l).Perm l

variable {α β κ : Type*} (key : α → κ) (init : β) (push : β → α → β)

def pushed (r : α) (e : Option (κ × β)) : κ × β := (key r, push ((e.map Prod.snd).getD init) r)

def collect [DecidableEq κ] (rows : List α) : List (κ × β) :=
  rows.foldl (fun entries r => upsert Prod.fst (key r) (pushed key init push r) entries) []

def valueAt [DecidableEq κ] (m : List (κ × β)) (k : κ) : Option β := (get Prod.fst k m).map Prod.snd

variable {key init push} {rows : List α} {k : κ} {b : β}

lemma keepsKey_pushed (r : α) : KeepsKey Prod.fst (key r) (pushed key init push r) := fun _ _ => rfl

variable [DecidableEq κ]

lemma collect_concat (rows : List α) (r : α) : collect key init push (rows ++ [r]) =
    upsert Prod.fst (key r) (pushed key init push r) (collect key init push rows) := by
  rw [collect, List.foldl_concat, ← collect]

lemma nodup_keys_collect (rows : List α) : ((collect key init push rows).map Prod.fst).Nodup := by
  induction rows using List.reverseRecOn with
  | nil => exact List.nodup_nil
  | append_singleton rows r ih =>
    rw [collect_concat]
    exact nodup_upsert (keepsKey_pushed r) ih

lemma mem_keys_collect : k ∈ (collect key init push rows).map Prod.fst ↔ k ∈ rows.map key := by
  induction rows using List.reverseRecOn with
  | nil => rfl
  | append_singleton rows r ih =>
    rw [collect_concat, mem_keys_upsert (keepsKey_pushed r), ih, List.map_append, List.map_singleton,
      List.mem_append, List.mem_singleton, or_comm]

lemma mem_keys_iff_length : k ∈ rows.map key ↔ 0 < (rows.filter (fun r => key r = k)).length := by
  simp [List.length_pos_iff_exists_mem]

lemma get_collect (rows : List α) (k : κ) : get Prod.fst k (collect key init push rows) =
    if k ∈ rows.map key then some (k, (rows.filter (fun r => key r = k)).foldl push init) else none := by
  induction rows using List.reverseRecOn with
  | nil => rfl
  | append_singleton rows r ih =>
    rw [collect_concat, get_upsert (keepsKey_pushed r), List.filter_append, List.foldl_append]
    by_cases hk : k = key r
    · subst hk
      have hentry : ((get Prod.fst (key r) (collect key init push rows)).map Prod.snd).getD init =
          (rows.filter (fun q => key q = key r)).foldl push init := by
        rw [ih]
        split
        · rfl
        · next hno =>
          rw [mem_keys_iff_length, List.length_pos_iff, not_not] at hno
          rw [hno]
          rfl
      simp [pushed, hentry]
    · simp [hk, Ne.symm hk, ih]

lemma valueAt_collect (rows : List α) (k : κ) : valueAt (collect key init push rows) k =
    if k ∈ rows.map key then some ((rows.filter (fun r => key r = k)).foldl push init) else none := by
  rw [valueAt, get_collect]
  split <;> rfl

lemma mem_collect : (k, b) ∈ collect key init push rows ↔
    k ∈ rows.map key ∧ b = (rows.filter (fun r => key r = k)).foldl push init := by
  have hget : (k, b) ∈ collect key init push rows ↔
      get Prod.fst k (collect key init push rows) = some (k, b) :=
    ⟨fun h => get_eq_some_of_mem (nodup_keys_collect rows) h, List.mem_of_find?_eq_some⟩
  rw [hget, get_collect]
  split
  · next hk => simp [hk, eq_comm]
  · next hk => simp [hk]

end ZzP2p.Lib
