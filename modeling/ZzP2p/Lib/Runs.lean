import Mathlib.Tactic

/-! Runs of a system whose actions are total functions on its states. An action that is not
enabled leaves the state alone, so a run is any list of actions. -/

namespace ZzP2p.Lib.Runs

variable {σ α : Type*}

def visited (step : σ → α → σ) (s : σ) : List α → List σ
  | [] => [s]
  | a :: as => s :: visited step (step s a) as

def Guarded (step : σ → α → σ) (ok : σ → α → Prop) (s : σ) : List α → Prop
  | [] => True
  | a :: as => ok s a ∧ Guarded step ok (step s a) as

variable {step : σ → α → σ} {ok : σ → α → Prop}

instance [∀ s a, Decidable (ok s a)] : ∀ (s : σ) (as : List α), Decidable (Guarded step ok s as)
  | _, [] => .isTrue trivial
  | s, a :: as =>
    have : Decidable (Guarded step ok (step s a) as) := instDecidableGuarded (step s a) as
    inferInstanceAs (Decidable (ok s a ∧ Guarded step ok (step s a) as))

lemma self_visited (s : σ) (as : List α) : s ∈ visited step s as := by
  cases as <;> simp [visited]

lemma last_visited (s : σ) (as : List α) : as.foldl step s ∈ visited step s as := by
  induction as generalizing s with
  | nil => simp [visited]
  | cons a as ih => exact List.mem_cons_of_mem _ (ih (step s a))

lemma guarded_const {ok : α → Prop} {s : σ} {as : List α} :
    Guarded step (fun _ a => ok a) s as ↔ ∀ a ∈ as, ok a := by
  induction as generalizing s with
  | nil => simp [Guarded]
  | cons a as ih => simp [Guarded, ih]

lemma guarded_mono {ok' : σ → α → Prop} (h : ∀ s a, ok s a → ok' s a) {s : σ} {as : List α}
    (hg : Guarded step ok s as) : Guarded step ok' s as := by
  induction as generalizing s with
  | nil => trivial
  | cons a as ih => exact ⟨h s a hg.1, ih hg.2⟩

lemma guarded_invariant {I : σ → Prop} (hstep : ∀ s a, I s → ok s a → I (step s a))
    {s : σ} {as : List α} (hs : I s) (hg : Guarded step ok s as) :
    ∀ t ∈ visited step s as, I t := by
  induction as generalizing s with
  | nil => simpa [visited] using hs
  | cons a as ih =>
    intro t ht
    rcases List.mem_cons.mp ht with rfl | ht
    · exact hs
    · exact ih (hstep s a hs hg.1) hg.2 t ht

lemma visited_invariant {I : σ → Prop} (hstep : ∀ s a, I s → I (step s a)) {s : σ} {as : List α}
    (hs : I s) : ∀ t ∈ visited step s as, I t :=
  guarded_invariant (fun s a h _ => hstep s a h) hs (guarded_const.mpr (fun _ _ => trivial))

lemma guarded_of_invariant {I : σ → Prop} {P : σ → α → Prop}
    (hstep : ∀ s a, I s → ok s a → I (step s a)) (hP : ∀ s a, I s → ok s a → P s a)
    {s : σ} {as : List α} (hs : I s) (hg : Guarded step ok s as) : Guarded step P s as := by
  induction as generalizing s with
  | nil => trivial
  | cons a as ih => exact ⟨hP s a hs hg.1, ih (hstep s a hs hg.1) hg.2⟩

lemma guarded_iff_forall_split {s : σ} {as : List α} :
    Guarded step ok s as ↔ ∀ xs a ys, as = xs ++ a :: ys → ok (xs.foldl step s) a := by
  constructor
  · rintro hg xs a ys rfl
    induction xs generalizing s with
    | nil => exact hg.1
    | cons x xs ih => exact ih hg.2
  · intro h
    induction as generalizing s with
    | nil => trivial
    | cons a as ih =>
      refine ⟨h [] a as rfl, ih (fun xs b ys he => ?_)⟩
      exact h (a :: xs) b ys (by rw [he, List.cons_append])

/-- What every step keeps is kept between any two states of the run. -/
lemma guarded_iff_forall_segment {R : σ → σ → Prop} (hrefl : ∀ s, R s s)
    (htrans : ∀ s t u, R s t → R t u → R s u) {s : σ} {as : List α} :
    Guarded step (fun s a => R s (step s a)) s as ↔
      ∀ xs ys zs, as = xs ++ ys ++ zs → R (xs.foldl step s) ((xs ++ ys).foldl step s) := by
  rw [guarded_iff_forall_split]
  constructor
  · intro h xs ys zs he
    induction ys using List.reverseRecOn generalizing zs with
    | nil => simpa using hrefl (xs.foldl step s)
    | append_singleton ys a ih =>
      have hlast := h (xs ++ ys) a zs (by simpa using he)
      have hpre := ih (a :: zs) (by simpa using he)
      rw [← List.append_assoc, List.foldl_append]
      exact htrans _ _ _ hpre hlast
  · intro h xs a ys he
    have hone := h xs [a] ys (by simpa using he)
    rwa [List.foldl_append] at hone

lemma guarded_iff_last {G : σ → Prop} (hexact : ∀ s a, G s → (G (step s a) ↔ ok s a))
    (habsorb : ∀ s a, ¬ G s → ¬ G (step s a)) {s : σ} (hs : G s) (as : List α) :
    G (as.foldl step s) ↔ Guarded step ok s as := by
  have hlost : ∀ (as : List α) (s : σ), ¬ G s → ¬ G (as.foldl step s) := by
    intro as
    induction as with
    | nil => exact fun s h => h
    | cons a as ih => exact fun s h => ih _ (habsorb s a h)
  induction as generalizing s with
  | nil => simpa [Guarded] using hs
  | cons a as ih =>
    by_cases ha : G (step s a)
    · simpa only [List.foldl_cons, Guarded, (hexact s a hs).mp ha, true_and] using ih ha
    · refine ⟨fun h => absurd h (hlost as _ ha), ?_⟩
      exact fun h => absurd ((hexact s a hs).mpr h.1) ha

lemma foldl_simulates {τ : Type*} {next : τ → α → τ} {abs : τ → σ}
    (hsim : ∀ t a, step (abs t) a = abs (next t a)) (t : τ) (as : List α) :
    as.foldl step (abs t) = abs (as.foldl next t) := by
  induction as generalizing t with
  | nil => rfl
  | cons a as ih => simpa only [List.foldl_cons, hsim] using ih (next t a)

lemma guarded_simulates {τ : Type*} {next : τ → α → τ} {abs : τ → σ}
    (hsim : ∀ t a, step (abs t) a = abs (next t a)) (t : τ) (as : List α) :
    Guarded step ok (abs t) as ↔ Guarded next (fun t a => ok (abs t) a) t as := by
  induction as generalizing t with
  | nil => exact Iff.rfl
  | cons a as ih => simp only [Guarded, hsim, ih]

/-- If `ok` says exactly which steps keep the goal `G`, then the goal holds along a run exactly
when every step of it is `ok`. The background invariant `I` may use both. -/
lemma guarded_iff {I G : σ → Prop} (hexact : ∀ s a, I s → G s → (G (step s a) ↔ ok s a))
    (hstep : ∀ s a, I s → G s → ok s a → I (step s a)) {s : σ} {as : List α}
    (hi : I s) (hg : G s) :
    (∀ t ∈ visited step s as, G t) ↔ Guarded step ok s as := by
  induction as generalizing s with
  | nil => simpa [visited, Guarded] using hg
  | cons a as ih =>
    constructor
    · intro h
      have ha : G (step s a) := h _ (List.mem_cons_of_mem _ (self_visited _ _))
      have hok := (hexact s a hi hg).mp ha
      refine ⟨hok, (ih (hstep s a hi hg hok) ha).mp ?_⟩
      exact fun t ht => h t (List.mem_cons_of_mem _ ht)
    · rintro ⟨hok, hrest⟩ t ht
      have ha := (hexact s a hi hg).mpr hok
      rcases List.mem_cons.mp ht with rfl | ht
      · exact hg
      · exact (ih (hstep s a hi hg hok) ha).mpr hrest t ht

lemma guarded_iff_of_exact {G : σ → Prop} (hexact : ∀ s a, G s → (G (step s a) ↔ ok s a)) {s : σ}
    {as : List α} (hg : G s) : (∀ t ∈ visited step s as, G t) ↔ Guarded step ok s as := by
  apply guarded_iff (I := fun _ => True)
  · exact fun s a _ h => hexact s a h
  · exact fun _ _ _ _ _ => trivial
  · trivial
  · exact hg

end ZzP2p.Lib.Runs
