import ZzP2p.Lib.Runs
import ZzP2p.Lib.Table

/-! Tables whose rows are linked by hashes, and writers that read the tip and append a row in two
separate steps. -/

namespace ZzP2p.Lib.HashChain

open Runs

variable {ρ η : Type}

structure Links (ρ η : Type) where
  pre : ρ → η
  hash : ρ → η
  genesis : η

def Links.Linked (L : Links ρ η) (t : Table ρ) : Prop :=
  (∀ r ∈ t.values.head?, L.pre r = L.genesis) ∧ t.values.IsChain (fun q r => L.pre r = L.hash q)

def Links.tip (L : Links ρ η) (t : Table ρ) : η := (t.last?.map L.hash).getD L.genesis

lemma Links.linked_insert (L : Links ρ η) (t : Table ρ) (r : ρ) :
    L.Linked (t.insert r) ↔ L.Linked t ∧ L.pre r = L.tip t := by
  simp only [Links.Linked, Links.tip, Table.values_insert, Table.last?, List.isChain_append]
  cases hl : t.values.getLast? with
  | none =>
    rw [List.getLast?_eq_none_iff.mp hl]
    simp
  | some q =>
    have hne : t.values ≠ [] := by
      intro h
      simp [h] at hl
    rw [List.head?_append_of_ne_nil _ hne]
    simp [and_assoc]

def Links.LinkedFrom (L : Links ρ η) : η → List ρ → Prop
  | _, [] => True
  | h, r :: rows => L.pre r = h ∧ L.LinkedFrom (L.hash r) rows

def Links.tipFrom (L : Links ρ η) (h : η) (rows : List ρ) : η := (rows.getLast?.map L.hash).getD h

lemma Links.tipFrom_cons (L : Links ρ η) (h : η) (r : ρ) (rows : List ρ) :
    L.tipFrom h (r :: rows) = L.tipFrom (L.hash r) rows := by
  rw [Links.tipFrom, Links.tipFrom, List.getLast?_cons]
  cases rows.getLast? with
  | none => rfl
  | some q => rfl

lemma Links.linkedFrom_append (L : Links ρ η) (h : η) (xs ys : List ρ) :
    L.LinkedFrom h (xs ++ ys) ↔ L.LinkedFrom h xs ∧ L.LinkedFrom (L.tipFrom h xs) ys := by
  induction xs generalizing h with
  | nil => simp [Links.LinkedFrom, Links.tipFrom]
  | cons r xs ih => rw [List.cons_append, Links.LinkedFrom, Links.LinkedFrom, ih, L.tipFrom_cons, and_assoc]

lemma Links.linkedFrom_replace (L : Links ρ η) {h : η} {xs ys : List ρ} {r r' : ρ}
    (hl : L.LinkedFrom h (xs ++ r :: ys)) (hh : L.hash r' = L.hash r) :
    L.LinkedFrom h (xs ++ r' :: ys) ↔ L.pre r' = L.pre r := by
  obtain ⟨hxs, hr, hys⟩ := (L.linkedFrom_append h xs (r :: ys)).mp hl
  rw [L.linkedFrom_append, Links.LinkedFrom, hh, hr]
  exact ⟨fun hl' => hl'.2.1, fun hp => ⟨hxs, hp, hys⟩⟩

lemma Links.linkedFrom_remove (L : Links ρ η) {h : η} {xs ys : List ρ} {r : ρ}
    (hl : L.LinkedFrom h (xs ++ r :: ys)) :
    L.LinkedFrom h (xs ++ ys) ↔ ys = [] ∨ L.hash r = L.pre r := by
  obtain ⟨hxs, hr, hys⟩ := (L.linkedFrom_append h xs (r :: ys)).mp hl
  rw [L.linkedFrom_append, ← hr]
  cases ys with
  | nil => simp [hxs, Links.LinkedFrom]
  | cons s ys =>
    obtain ⟨hs, hrest⟩ := hys
    simp [hxs, Links.LinkedFrom, hs, hrest]

lemma Links.tipFrom_eq_of_map (L : Links ρ η) {h : η} {xs ys : List ρ}
    (hh : xs.map L.hash = ys.map L.hash) : L.tipFrom h xs = L.tipFrom h ys := by
  rw [Links.tipFrom, Links.tipFrom, ← List.getLast?_map, ← List.getLast?_map, hh]

/-- Rows with the hashes of a linked list are linked when they point where its rows point. -/
lemma Links.linkedFrom_iff_map (L : Links ρ η) {h : η} {xs ys : List ρ}
    (hh : xs.map L.hash = ys.map L.hash) (hl : L.LinkedFrom h ys) :
    L.LinkedFrom h xs ↔ xs.map L.pre = ys.map L.pre := by
  induction xs generalizing h ys with
  | nil =>
    rw [List.map_nil, eq_comm, List.map_eq_nil_iff] at hh
    rw [hh]
    exact iff_of_true trivial rfl
  | cons x xs ih =>
    cases ys with
    | nil => cases hh
    | cons y ys =>
      rw [List.map_cons, List.map_cons, List.cons.injEq] at hh
      rw [Links.LinkedFrom, hh.1, ih hh.2 hl.2, List.map_cons, List.map_cons, List.cons.injEq, hl.1]

inductive Phase (η : Type)
  | start
  | read (tip : η) (rows : ℕ)
  | done

structure Writers (ρ η : Type) where
  table : Table ρ
  phase : ℕ → Phase η

inductive Action
  | read (writer : ℕ)
  | append (writer : ℕ)

variable (L : Links ρ η) (row : ℕ → η → ρ)

def step (s : Writers ρ η) : Action → Writers ρ η
  | .read i => match s.phase i with
    | .start => { s with phase := Function.update s.phase i (.read (L.tip s.table) s.table.rows.length) }
    | _ => s
  | .append i => match s.phase i with
    | .read h _ => ⟨s.table.insert (row i h), Function.update s.phase i .done⟩
    | _ => s

def Uninterrupted (s : Writers ρ η) : Action → Prop
  | .read _ => True
  | .append i => ∀ h n, s.phase i = .read h n → s.table.rows.length = n

structure Inv (s : Writers ρ η) : Prop where
  linked : L.Linked s.table
  read : ∀ i h n, s.phase i = .read h n →
    n ≤ s.table.rows.length ∧ (n = s.table.rows.length → h = L.tip s.table)

lemma inv_start {t : Table ρ} (ht : L.Linked t) : Inv L ⟨t, fun _ => .start⟩ :=
  ⟨ht, fun _ _ _ h => by cases h⟩

variable {L row}

lemma inv_read {s : Writers ρ η} (hi : Inv L s) (i : ℕ) : Inv L (step L row s (.read i)) := by
  simp only [step]
  split
  · refine ⟨hi.linked, ?_⟩
    intro j h n hj
    by_cases hij : j = i
    · subst j
      simp only [Function.update_self, Phase.read.injEq] at hj
      exact ⟨hj.2.ge, fun _ => hj.1.symm⟩
    · exact hi.read j h n (by simpa [Function.update_of_ne hij] using hj)
  · exact hi

lemma inv_append (hrow : ∀ i h, L.pre (row i h) = h) {s : Writers ρ η} (hi : Inv L s) (i : ℕ)
    (hu : Uninterrupted s (.append i)) : Inv L (step L row s (.append i)) := by
  simp only [step]
  split
  · next h n hp =>
    have hn := hu h n hp
    have hh := (hi.read i h n hp).2 hn.symm
    refine ⟨(L.linked_insert _ _).mpr ⟨hi.linked, (hrow i h).trans hh⟩, ?_⟩
    intro j h' n' hj
    have hij : j ≠ i := by
      rintro rfl
      simp at hj
    -- any other writer has read an older tip, and the table has outgrown its row count
    have hlt := (hi.read j h' n' (by simpa [Function.update_of_ne hij] using hj)).1
    simp only [Table.insert, List.length_append, List.length_singleton]
    exact ⟨by omega, fun he => by omega⟩
  · exact hi

lemma inv_step (hrow : ∀ i h, L.pre (row i h) = h) (s : Writers ρ η) (a : Action) (hi : Inv L s)
    (hu : Uninterrupted s a) : Inv L (step L row s a) := by
  cases a with
  | read i => exact inv_read hi i
  | append i => exact inv_append hrow hi i hu

lemma linked_of_uninterrupted (hrow : ∀ i h, L.pre (row i h) = h) {t : Table ρ} (ht : L.Linked t)
    {schedule : List Action} (hg : Guarded (step L row) Uninterrupted ⟨t, fun _ => .start⟩ schedule) :
    ∀ s ∈ visited (step L row) ⟨t, fun _ => .start⟩ schedule, L.Linked s.table := by
  intro s hs
  exact (guarded_invariant (inv_step hrow) (inv_start L ht) hg s hs).linked

lemma read_append (i : ℕ) {s : Writers ρ η} (hs : s.phase i = .start) :
    (([.read i, .append i] : List Action).foldl (step L row) s).table =
      s.table.insert (row i (L.tip s.table)) := by
  simp [step, hs]

end ZzP2p.Lib.HashChain
