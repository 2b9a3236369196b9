import Mathlib.Tactic

/-! Services, whose calls are answered and change a state. A service follows another when from related
states each call gets the same answer and leads to related states. -/

namespace ZzP2p.Lib.Service

variable {σ τ α β : Type*}

def after (serve : σ → α → β × σ) (s : σ) (calls : List α) : σ := calls.foldl (fun s a => (serve s a).2) s

def answers (serve : σ → α → β × σ) (s : σ) : List α → List β
  | [] => []
  | a :: calls => (serve s a).1 :: answers serve (serve s a).2 calls

def Follows (R : σ → τ → Prop) (serve : σ → α → β × σ) (ideal : τ → α → β × τ) : Prop :=
  ∀ s t a, R s t → (serve s a).1 = (ideal t a).1 ∧ R (serve s a).2 (ideal t a).2

variable {R : σ → τ → Prop} {serve : σ → α → β × σ} {ideal : τ → α → β × τ} {s : σ} {t : τ}

lemma answers_eq (h : Follows R serve ideal) (hr : R s t) (calls : List α) :
    answers serve s calls = answers ideal t calls := by
  induction calls generalizing s t with
  | nil => rfl
  | cons a calls ih =>
    obtain ⟨hanswer, hnext⟩ := h s t a hr
    rw [answers, answers, hanswer, ih hnext]

lemma after_related (h : Follows R serve ideal) (hr : R s t) (calls : List α) :
    R (after serve s calls) (after ideal t calls) := by
  induction calls generalizing s t with
  | nil => exact hr
  | cons a calls ih => exact ih (h s t a hr).2

end ZzP2p.Lib.Service
