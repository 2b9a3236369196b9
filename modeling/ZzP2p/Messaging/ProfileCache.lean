import ZzP2p.Lib.Runs

/-! The profile of one address, kept in `profile.json` and in a cache. No lock is held from the access to
the file to the update of the cache, so that the calls on an address interleave between the two. -/

namespace ZzP2p.Messaging.ProfileCache

open Lib.Runs

structure UserProfile where
  name : String
  notes : String
  avatarPath : Option String
  addedAt : ℤ
  nickname : String
  gender : String
  age : UInt32
  country : String
  ethnicity : String
  bloodType : String
  heightCm : UInt32
  weightKg : UInt32
  education : String
  homeAddress : String
deriving DecidableEq

def UserProfile.default (now : ℤ) : UserProfile :=
  ⟨"", "", none, now, "", "", 0, "", "", "", 0, 0, "", ""⟩

inductive ProfileFile
  | missing
  | invalid
  | profile (p : UserProfile)

inductive Call
  | loadProfile (now : ℤ)
  | saveProfile (p : UserProfile)

inductive Outcome
  | loaded (p : UserProfile)
  | saved
  | invalidData

inductive Stage
  | start
  /-- the cache was asked in vain -/
  | missed
  /-- the file was read or written, and the cache is next -/
  | holding (p : UserProfile)
  | returned (outcome : Outcome)

structure Shared (ι : Type) where
  file : ProfileFile
  cache : Option UserProfile
  stage : ι → Stage

variable {ι : Type} [DecidableEq ι] (calls : ι → Call)

def Shared.goTo (s : Shared ι) (i : ι) (stage : Stage) : Shared ι :=
  { s with stage := Function.update s.stage i stage }

def step (s : Shared ι) (i : ι) : Shared ι :=
  match calls i, s.stage i with
  | .loadProfile _, .start => match s.cache with
    | some p => s.goTo i (.returned (.loaded p))
    | none => s.goTo i .missed
  | .loadProfile now, .missed => match s.file with
    | .missing => s.goTo i (.holding (.default now))
    | .invalid => s.goTo i (.returned .invalidData)
    | .profile p => s.goTo i (.holding p)
  | .saveProfile p, .start => { s with file := .profile p }.goTo i (.holding p)
  | .loadProfile _, .holding p => { s with cache := some p }.goTo i (.returned (.loaded p))
  | .saveProfile _, .holding p => { s with cache := some p }.goTo i (.returned .saved)
  | _, _ => s

def start (file : ProfileFile) (cache : Option UserProfile) : Shared ι := ⟨file, cache, fun _ => .start⟩

/-- A profile goes into the cache while the file still holds it. -/
def Fresh (s : Shared ι) (i : ι) : Prop :=
  ∀ p q, s.stage i = .holding p → s.file = .profile q → p = q

def Quiescent (s : Shared ι) : Prop := ∀ i, s.stage i = .start ∨ ∃ r, s.stage i = .returned r

structure Coherent (s : Shared ι) (q : UserProfile) : Prop where
  written : ∃ k, calls k = .saveProfile q
  file : s.file = .profile q
  cached : ∀ p, s.cache = some p → p = q
  later : ∀ j now, calls j = .loadProfile now → s.stage j = .start →
    (step calls s j).stage j = .returned (.loaded q)

lemma step_cases (s : Shared ι) (i : ι) : step calls s i = s ∨
    (∃ now stage, calls i = .loadProfile now ∧ step calls s i = s.goTo i stage) ∨
    (∃ p, calls i = .saveProfile p ∧ s.stage i = .start ∧
      step calls s i = { s with file := .profile p }.goTo i (.holding p)) ∨
    (∃ p r, s.stage i = .holding p ∧
      step calls s i = { s with cache := some p }.goTo i (.returned r)) := by
  cases hs : s.stage i with
  | start =>
    cases hc : calls i with
    | loadProfile now =>
      cases hcache : s.cache with
      | some p =>
        exact Or.inr (Or.inl ⟨now, .returned (.loaded p), rfl, by simp only [step, hc, hs, hcache]⟩)
      | none => exact Or.inr (Or.inl ⟨now, .missed, rfl, by simp only [step, hc, hs, hcache]⟩)
    | saveProfile p => exact Or.inr (Or.inr (Or.inl ⟨p, rfl, rfl, by simp only [step, hc, hs]⟩))
  | missed =>
    cases hc : calls i with
    | loadProfile now =>
      cases hf : s.file with
      | missing =>
        exact Or.inr (Or.inl ⟨now, .holding (.default now), rfl, by simp only [step, hc, hs, hf]⟩)
      | invalid => exact Or.inr (Or.inl ⟨now, .returned .invalidData, rfl, by simp only [step, hc, hs, hf]⟩)
      | profile p => exact Or.inr (Or.inl ⟨now, .holding p, rfl, by simp only [step, hc, hs, hf]⟩)
    | saveProfile p => exact Or.inl (by simp only [step, hc, hs])
  | holding p =>
    cases hc : calls i with
    | loadProfile now =>
      exact Or.inr (Or.inr (Or.inr ⟨p, .loaded p, rfl, by simp only [step, hc, hs]⟩))
    | saveProfile p' => exact Or.inr (Or.inr (Or.inr ⟨p, .saved, rfl, by simp only [step, hc, hs]⟩))
  | returned r => exact Or.inl (by cases hc : calls i <;> simp only [step, hc, hs])

/-- Once a save has written the file, the cache holds the same profile or a save is about to. -/
def Tracks (s : Shared ι) : Prop :=
  (∃ i p, calls i = .saveProfile p ∧ s.stage i ≠ .start) →
    ∃ k q, calls k = .saveProfile q ∧ s.file = .profile q ∧
      (s.cache = some q ∨ ∃ i p, calls i = .saveProfile p ∧ s.stage i = .holding p)

variable {calls}

lemma Tracks.step {s : Shared ι} {i : ι} (h : Tracks calls s) (hf : Fresh s i) :
    Tracks calls (step calls s i) := by
  rcases step_cases calls s i with he | ⟨now, stage, hc, he⟩ | ⟨p, hc, -, he⟩ | ⟨p, r, hp, he⟩
  · rwa [he]
  · -- a step of a load before its insertion: the stages of the saves are what they were
    rw [he]
    have hsave : ∀ j p, calls j = .saveProfile p → (s.goTo i stage).stage j = s.stage j := by
      intro j p hj
      have hji : j ≠ i := by
        rintro rfl
        rw [hc] at hj
        cases hj
      simp [Shared.goTo, hji]
    rintro ⟨j, p, hj, hjs⟩
    rw [hsave j p hj] at hjs
    obtain ⟨k, q, hk, hfile, hcache⟩ := h ⟨j, p, hj, hjs⟩
    refine ⟨k, q, hk, hfile, hcache.imp_right ?_⟩
    rintro ⟨j', p', hj', hs'⟩
    exact ⟨j', p', hj', by rw [hsave j' p' hj', hs']⟩
  · rw [he]
    intro _
    exact ⟨i, p, hc, rfl, Or.inr ⟨i, p, hc, by simp [Shared.goTo]⟩⟩
  · rw [he]
    rintro ⟨j, p', hj, hjs⟩
    have hstarted : s.stage j ≠ .start := by
      by_cases hji : j = i
      · rw [hji, hp]
        exact Stage.noConfusion
      · simpa [Shared.goTo, hji] using hjs
    obtain ⟨k, q, hk, hfile, -⟩ := h ⟨j, p', hj, hstarted⟩
    exact ⟨k, q, hk, hfile, Or.inl (congrArg some (hf p q hp hfile))⟩

theorem cache_coherent_of_fresh (calls : ι → Call) (file : ProfileFile) (cache : Option UserProfile)
    (schedule : List ι) (hg : Guarded (step calls) Fresh (start file cache) schedule) :
    ∀ s ∈ visited (step calls) (start file cache) schedule, Quiescent s →
      (∃ i p r, calls i = .saveProfile p ∧ s.stage i = .returned r) → ∃ q, Coherent calls s q := by
  rintro s hs hq ⟨i, p, r, hi, hr⟩
  have hstart : Tracks calls (start file cache) := fun ⟨_, _, _, h⟩ => absurd rfl h
  have ht : Tracks calls s := guarded_invariant (fun _ _ h hf => h.step hf) hstart hg s hs
  obtain ⟨k, q, hk, hfile, hcache⟩ := ht ⟨i, p, hi, by rw [hr]; exact Stage.noConfusion⟩
  have hc : s.cache = some q := by
    rcases hcache with hc | ⟨j, p', -, hj⟩
    · exact hc
    · rcases hq j with h | ⟨r', h⟩
      · cases h.symm.trans hj
      · cases h.symm.trans hj
  refine ⟨q, ⟨k, hk⟩, hfile, fun p' hp' => ?_, fun j now hj hjs => ?_⟩
  · exact Option.some.inj (hp'.symm.trans hc)
  · simp [step, hj, hjs, hc, Shared.goTo]

def older : UserProfile := .default 1

def newer : UserProfile := { older with name := "alice" }

def loadAndSave : Fin 2 → Call := ![.loadProfile 5, .saveProfile newer]

theorem cache_coherent_in_turn :
    ∃ q, Coherent loadAndSave ([0, 0, 0, 1, 1].foldl (step loadAndSave) (start (.profile older) none)) q := by
  refine cache_coherent_of_fresh loadAndSave (.profile older) none [0, 0, 0, 1, 1] ?_ _
    (last_visited _ _) ?_ ⟨1, newer, .saved, rfl, rfl⟩
  · refine ⟨?_, ?_, ?_, ?_, ?_, trivial⟩
    · exact fun p q hp _ => Stage.noConfusion hp
    · exact fun p q hp _ => Stage.noConfusion hp
    · exact fun p q hp hf => (Stage.holding.inj hp).symm.trans (ProfileFile.profile.inj hf)
    · exact fun p q hp _ => Stage.noConfusion hp
    · exact fun p q hp hf => (Stage.holding.inj hp).symm.trans (ProfileFile.profile.inj hf)
  · intro i
    fin_cases i
    · exact Or.inr ⟨_, rfl⟩
    · exact Or.inr ⟨_, rfl⟩

theorem stale_profile_stays_cached :
    ¬ ∀ (calls : Fin 2 → Call) (file : ProfileFile) (cache : Option UserProfile)
      (schedule : List (Fin 2)), ∀ s ∈ visited (step calls) (start file cache) schedule, Quiescent s →
      (∃ i p r, calls i = .saveProfile p ∧ s.stage i = .returned r) → ∃ q, Coherent calls s q := by
  intro h
  have hquiet : Quiescent ([0, 0, 1, 1, 0].foldl (step loadAndSave) (start (.profile older) none)) := by
    intro i
    fin_cases i
    · exact Or.inr ⟨_, rfl⟩
    · exact Or.inr ⟨_, rfl⟩
  obtain ⟨q, hq⟩ := h loadAndSave (.profile older) none [0, 0, 1, 1, 0] _ (last_visited _ _) hquiet
    ⟨1, newer, .saved, rfl, rfl⟩
  obtain rfl : newer = q := ProfileFile.profile.inj hq.file
  exact absurd (hq.cached older rfl) (by decide)

end ZzP2p.Messaging.ProfileCache
