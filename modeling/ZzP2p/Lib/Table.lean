import Mathlib.Tactic

/-! Database tables whose rows carry an automatically incremented key. The rows are listed by
ascending key, and no key is given out twice. -/

namespace ZzP2p.Lib

structure Table (ρ : Type*) where
  seq : ℕ
  rows : List (ℕ × ρ)
  ordered : rows.Pairwise (fun r s => r.1 < s.1)
  bounded : ∀ r ∈ rows, r.1 ≤ seq

namespace Table

variable {ρ : Type*}

def empty : Table ρ := ⟨0, [], .nil, by simp⟩

def values (t : Table ρ) : List ρ := t.rows.map Prod.snd

def insert (t : Table ρ) (v : ρ) : Table ρ where
  seq := t.seq + 1
  rows := t.rows ++ [(t.seq + 1, v)]
  ordered := by
    refine List.pairwise_append.mpr ⟨t.ordered, List.pairwise_singleton _ _, ?_⟩
    intro r hr s hs
    rw [List.mem_singleton.mp hs]
    exact Nat.lt_succ_of_le (t.bounded r hr)
  bounded := by
    intro r hr
    rcases List.mem_append.mp hr with hr | hr
    · exact (t.bounded r hr).trans (Nat.le_succ _)
    · exact (List.mem_singleton.mp hr).symm ▸ le_rfl

def update (t : Table ρ) (id : ℕ) (f : ρ → ρ) : Table ρ where
  seq := t.seq
  rows := t.rows.map (fun r => if r.1 = id then (r.1, f r.2) else r)
  ordered := by
    rw [List.pairwise_map]
    exact t.ordered.imp (fun {r s} h => by split <;> split <;> exact h)
  bounded := by
    intro r hr
    obtain ⟨s, hs, rfl⟩ := List.mem_map.mp hr
    split <;> exact t.bounded s hs

def clear (t : Table ρ) : Table ρ := ⟨t.seq, [], .nil, by simp⟩

def find? (t : Table ρ) (p : ρ → Bool) : Option (ℕ × ρ) := t.rows.find? (fun r => p r.2)

def last? (t : Table ρ) : Option ρ := t.values.getLast?

@[simp] lemma values_empty : (empty : Table ρ).values = [] := rfl

@[simp] lemma values_clear (t : Table ρ) : t.clear.values = [] := rfl

@[simp] lemma values_insert (t : Table ρ) (v : ρ) : (t.insert v).values = t.values ++ [v] := by
  simp [values, insert]

lemma values_update (t : Table ρ) (id : ℕ) (f : ρ → ρ) :
    (t.update id f).values = t.rows.map (fun r => if r.1 = id then f r.2 else r.2) := by
  rw [values, update, List.map_map]
  refine List.map_congr_left (fun r _ => ?_)
  simp only [Function.comp_apply]
  split <;> rfl

lemma find?_eq_none {t : Table ρ} {p : ρ → Bool} (h : t.find? p = none) :
    ∀ v ∈ t.values, p v = false := by
  intro v hv
  obtain ⟨r, hr, rfl⟩ := List.mem_map.mp hv
  simpa using List.find?_eq_none.mp h r hr

lemma find?_eq_some {t : Table ρ} {p : ρ → Bool} {r : ℕ × ρ} (h : t.find? p = some r) :
    r ∈ t.rows ∧ p r.2 = true :=
  ⟨List.mem_of_find?_eq_some h, by simpa using List.find?_some h⟩

lemma rows_update {t : Table ρ} {r : ℕ × ρ} (hr : r ∈ t.rows) (f : ρ → ρ) :
    ∃ l₁ l₂, t.rows = l₁ ++ r :: l₂ ∧ (∀ s ∈ l₁, s.1 < r.1) ∧ (∀ s ∈ l₂, r.1 < s.1) ∧
      (t.update r.1 f).rows = l₁ ++ (r.1, f r.2) :: l₂ := by
  obtain ⟨l₁, l₂, hl⟩ := List.append_of_mem hr
  have ho := t.ordered
  rw [hl, List.pairwise_append] at ho
  obtain ⟨-, h₂, h₁₂⟩ := ho
  have hlt₁ : ∀ s ∈ l₁, s.1 < r.1 := fun s hs => h₁₂ s hs r List.mem_cons_self
  have hlt₂ : ∀ s ∈ l₂, r.1 < s.1 := (List.pairwise_cons.mp h₂).1
  have he : ∀ l : List (ℕ × ρ), (∀ s ∈ l, s.1 ≠ r.1) →
      l.map (fun s => if s.1 = r.1 then (s.1, f s.2) else s) = l := fun l h =>
    (List.map_congr_left (fun s hs => if_neg (h s hs))).trans (List.map_id l)
  have he₁ := he l₁ (fun s hs => (hlt₁ s hs).ne)
  have he₂ := he l₂ (fun s hs => (hlt₂ s hs).ne')
  refine ⟨l₁, l₂, hl, hlt₁, hlt₂, ?_⟩
  simp [update, hl, he₁, he₂]

lemma update_split {t : Table ρ} {r : ℕ × ρ} (hr : r ∈ t.rows) (f : ρ → ρ) :
    ∃ l₁ l₂, t.values = l₁ ++ r.2 :: l₂ ∧ (t.update r.1 f).values = l₁ ++ f r.2 :: l₂ := by
  obtain ⟨l₁, l₂, hl, -, -, hu⟩ := rows_update hr f
  exact ⟨l₁.map Prod.snd, l₂.map Prod.snd, by simp [values, hl], by simp [values, hu]⟩

end Table

end ZzP2p.Lib
