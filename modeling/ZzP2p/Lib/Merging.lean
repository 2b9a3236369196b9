import Mathlib.Tactic
import Mathlib.Order.CompletePartialOrder

/-! Operations that only add to what a state holds. What an operation adds is described by the
upper bounds of the result, so repetitions and the order of a list of operations are irrelevant. -/

namespace ZzP2p.Lib.Merging

variable {σ α L : Type*} [PartialOrder L]

/-- A bound of the result is a bound of the old content that also covers the operation's part. -/
def Merges (content : σ → L) (step : σ → α → σ) (covers : α → L → Prop) : Prop :=
  ∀ s a x, content (step s a) ≤ x ↔ content s ≤ x ∧ covers a x

variable {content : σ → L} {step : σ → α → σ} {covers : α → L → Prop}

lemma Merges.of_sup {L : Type*} [SemilatticeSup L] {content : σ → L} {new : α → L}
    (h : ∀ s a, content (step s a) = content s ⊔ new a) :
    Merges content step (fun a x => new a ≤ x) := by
  intro s a x
  rw [h, sup_le_iff]

lemma Merges.le_step (h : Merges content step covers) (s : σ) (a : α) : content s ≤ content (step s a) :=
  ((h s a _).mp le_rfl).1

lemma Merges.foldl_le_iff (h : Merges content step covers) (s : σ) (as : List α) (x : L) :
    content (as.foldl step s) ≤ x ↔ content s ≤ x ∧ ∀ a ∈ as, covers a x := by
  induction as generalizing s with
  | nil => simp
  | cons a as ih => rw [List.foldl_cons, ih, h, List.forall_mem_cons, and_assoc]

lemma Merges.foldl_congr (h : Merges content step covers) (s : σ) {as bs : List α}
    (hab : ∀ a, a ∈ as ↔ a ∈ bs) : content (as.foldl step s) = content (bs.foldl step s) := by
  refine eq_of_forall_ge_iff (fun x => ?_)
  rw [h.foldl_le_iff, h.foldl_le_iff]
  exact and_congr_right (fun _ => forall_congr' (fun a => imp_congr_left (hab a)))

end ZzP2p.Lib.Merging
