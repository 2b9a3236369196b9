import Mathlib.Algebra.BigOperators.Group.Finset.Basic
import Mathlib.Algebra.Order.BigOperators.Group.Finset
import ZzP2p.Lib.Runs

/-! A shared cell that several executions change: each reads it, works on its copy and writes the
result back, in two separate steps. -/

namespace ZzP2p.Lib.ReadModifyWrite

open Runs

variable {ι σ : Type}

inductive Phase (σ : Type)
  | start
  | read (copy : σ)
  | done

def Phase.isDone : Phase σ → Bool
  | .done => true
  | _ => false

structure Shared (ι σ : Type) where
  value : σ
  phase : ι → Phase σ

inductive Action (ι : Type)
  | read (i : ι)
  | write (i : ι)

/-- the credits of the executions that are done -/
def paid [Fintype ι] (credit : ι → ℕ) (phase : ι → Phase σ) : ℕ :=
  ∑ i, if (phase i).isDone then credit i else 0

lemma paid_le [Fintype ι] (credit : ι → ℕ) (phase : ι → Phase σ) : paid credit phase ≤ ∑ i, credit i := by
  apply Finset.sum_le_sum
  intro i _
  split
  · exact le_rfl
  · exact Nat.zero_le _

variable [DecidableEq ι] (job : ι → σ → σ)

def step (s : Shared ι σ) : Action ι → Shared ι σ
  | .read i => match s.phase i with
    | .start => { s with phase := Function.update s.phase i (.read s.value) }
    | _ => s
  | .write i => match s.phase i with
    | .read copy => ⟨job i copy, Function.update s.phase i .done⟩
    | _ => s

def fresh (value : σ) : Shared ι σ := ⟨value, fun _ => .start⟩

def Finished (s : Shared ι σ) : Prop := ∀ i, (s.phase i).isDone = true

/-- An execution writes while the cell still holds what it has read. -/
def Current (s : Shared ι σ) : Action ι → Prop
  | .read _ => True
  | .write i => ∀ copy, s.phase i = .read copy → copy = s.value

variable {job}

lemma read_write {s : Shared ι σ} (i : ι) (hs : s.phase i = .start) :
    ([.read i, .write i].foldl (step job) s).value = job i s.value := by
  simp [step, hs]

lemma step_cases (s : Shared ι σ) (a : Action ι) : step job s a = s ∨
    (∃ i, s.phase i = .start ∧
      step job s a = { s with phase := Function.update s.phase i (.read s.value) }) ∨
    (∃ i copy, a = .write i ∧ s.phase i = .read copy ∧
      step job s a = ⟨job i copy, Function.update s.phase i .done⟩) := by
  cases a with
  | read i =>
    cases hp : s.phase i with
    | start => exact Or.inr (Or.inl ⟨i, hp, by simp only [step, hp]⟩)
    | read copy => exact Or.inl (by simp only [step, hp])
    | done => exact Or.inl (by simp only [step, hp])
  | write i =>
    cases hp : s.phase i with
    | start => exact Or.inl (by simp only [step, hp])
    | read copy => exact Or.inr (Or.inr ⟨i, copy, rfl, hp, by simp only [step, hp]⟩)
    | done => exact Or.inl (by simp only [step, hp])

variable [Fintype ι] {weigh : σ → ℕ} {credit : ι → ℕ} {bound : ℕ} {value : σ}

lemma paid_update {phase : ι → Phase σ} {i : ι} {p : Phase σ} (hi : (phase i).isDone = false) :
    paid credit (Function.update phase i p) = paid credit phase + if p.isDone then credit i else 0 := by
  have hrest : ∀ j ∈ Finset.univ.erase i, (if (Function.update phase i p j).isDone then credit j else 0) =
      if (phase j).isDone then credit j else 0 := by
    intro j hj
    rw [Function.update_of_ne (Finset.ne_of_mem_erase hj)]
  have hold := Finset.add_sum_erase Finset.univ
    (fun j => if (phase j).isDone then credit j else 0) (Finset.mem_univ i)
  have hnew := Finset.add_sum_erase Finset.univ
    (fun j => if (Function.update phase i p j).isDone then credit j else 0) (Finset.mem_univ i)
  simp only [Function.update_self, Finset.sum_congr rfl hrest] at hnew
  simp only [hi, Bool.false_eq_true, if_false, zero_add] at hold
  rw [paid, paid, ← hnew, ← hold, add_comm]

lemma weigh_step (hjob : ∀ i v, weigh v + credit i < bound → weigh (job i v) = weigh v + credit i)
    (htotal : weigh value + ∑ i, credit i < bound) {s : Shared ι σ} {a : Action ι}
    (hs : weigh s.value = weigh value + paid credit s.phase) (ha : Current s a) :
    weigh (step job s a).value = weigh value + paid credit (step job s a).phase := by
  rcases step_cases s a with he | ⟨i, hp, he⟩ | ⟨i, copy, rfl, hp, he⟩
  · rw [he]
    exact hs
  · have hi : (s.phase i).isDone = false := by rw [hp]; rfl
    have hpaid : paid credit (Function.update s.phase i (.read s.value)) = paid credit s.phase :=
      paid_update hi
    rw [he, hpaid]
    exact hs
  · obtain rfl := ha copy hp
    have hi : (s.phase i).isDone = false := by rw [hp]; rfl
    have hpaid : paid credit (Function.update s.phase i .done) = paid credit s.phase + credit i :=
      paid_update hi
    have hle := paid_le credit (Function.update s.phase i .done)
    have hroom : weigh s.value + credit i < bound := by omega
    rw [he, hpaid, hjob i s.value hroom]
    omega

variable (weigh) in
lemma weigh_finished (hjob : ∀ i v, weigh v + credit i < bound → weigh (job i v) = weigh v + credit i)
    (htotal : weigh value + ∑ i, credit i < bound) {schedule : List (Action ι)}
    (hg : Guarded (step job) Current (fresh value) schedule)
    (hf : Finished (schedule.foldl (step job) (fresh value))) :
    weigh (schedule.foldl (step job) (fresh value)).value = weigh value + ∑ i, credit i := by
  have hstart : weigh (fresh value : Shared ι σ).value =
      weigh value + paid credit (fresh value : Shared ι σ).phase := by
    simp [fresh, paid, Phase.isDone]
  have hinv := guarded_invariant (I := fun s => weigh s.value = weigh value + paid credit s.phase)
    (fun s a hs ha => weigh_step hjob htotal hs ha) hstart hg _ (last_visited _ _)
  have hall : paid credit (schedule.foldl (step job) (fresh value)).phase = ∑ i, credit i :=
    Finset.sum_congr rfl (fun i _ => if_pos (hf i))
  rw [hinv, hall]

end ZzP2p.Lib.ReadModifyWrite
