import Mathlib.Tactic
import Mathlib.Data.Prod.Lex
import Mathlib.Order.WellFounded

/-! Potential arguments for systems whose steps may be disabled. What the steps of a run are charged
is paid by a potential that never grows; a run ends if every step that is free uses up a second
number. -/

namespace ZzP2p.Lib.Potential

variable {σ α : Type*} (step : σ → α → Option σ)

def total (charge : σ → α → ℕ) (s : σ) : List α → ℕ
  | [] => 0
  | a :: as => (step s a).elim 0 (fun t => charge s a + total charge t as)

variable {step} {charge : σ → α → ℕ} (potential : σ → ℕ)

lemma total_le (h : ∀ s a t, step s a = some t → charge s a + potential t ≤ potential s)
    (s : σ) (as : List α) : total step charge s as ≤ potential s := by
  induction as generalizing s with
  | nil => exact Nat.zero_le _
  | cons a as ih =>
    cases hs : step s a with
    | none => simp [total, hs]
    | some t =>
      have hpay := h s a t hs
      have hrest := ih t
      simp only [total, hs, Option.elim_some]
      omega

/-- A potential that some steps raise again: what is charged is paid by it and by those raises. -/
lemma total_le_add {raised : σ → α → ℕ} {I : σ → Prop}
    (h : ∀ s a t, I s → step s a = some t → I t ∧ charge s a + potential t ≤ potential s + raised s a)
    {s : σ} (hs : I s) (as : List α) :
    total step charge s as ≤ potential s + total step raised s as := by
  induction as generalizing s with
  | nil => exact Nat.zero_le _
  | cons a as ih =>
    cases hstep : step s a with
    | none => simp [total, hstep]
    | some t =>
      obtain ⟨ht, hpay⟩ := h s a t hs hstep
      have hrest := ih ht
      simp only [total, hstep, Option.elim_some]
      omega

lemma not_forall_decreasing (size : σ → ℕ) (run : ℕ → σ) :
    ¬ ∀ n, potential (run (n + 1)) < potential (run n) ∨
      potential (run (n + 1)) ≤ potential (run n) ∧ size (run (n + 1)) < size (run n) := by
  intro h
  obtain ⟨n, hn⟩ := WellFounded.not_rel_apply_succ (r := (· < · : ℕ ×ₗ ℕ → ℕ ×ₗ ℕ → Prop))
    (fun n => toLex (potential (run n), size (run n)))
  apply hn
  rw [Prod.Lex.toLex_lt_toLex]
  rcases h n with hlt | ⟨hle, hlt⟩
  · exact Or.inl hlt
  · exact hle.lt_or_eq.imp id (fun heq => ⟨heq, hlt⟩)

lemma not_forall_step (size : σ → ℕ)
    (h : ∀ s a t, step s a = some t → potential t < potential s ∨
      potential t ≤ potential s ∧ size t < size s)
    (run : ℕ → σ) (act : ℕ → α) : ¬ ∀ n, step (run n) (act n) = some (run (n + 1)) := by
  intro hrun
  obtain ⟨n, hn⟩ := WellFounded.not_rel_apply_succ (r := (· < · : ℕ ×ₗ ℕ → ℕ ×ₗ ℕ → Prop))
    (fun n => toLex (potential (run n), size (run n)))
  apply hn
  rw [Prod.Lex.toLex_lt_toLex]
  rcases h _ _ _ (hrun n) with hlt | ⟨hle, hlt⟩
  · exact Or.inl hlt
  · rcases hle.lt_or_eq with hlt' | heq
    · exact Or.inl hlt'
    · exact Or.inr ⟨heq, hlt⟩

end ZzP2p.Lib.Potential
