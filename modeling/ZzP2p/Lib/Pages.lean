import Mathlib.Tactic

/-! A list cut into pages of one width. There is at least one page, and the last may be short. -/

namespace ZzP2p.Lib.Pages

variable {α : Type*} (xs : List α) (width : ℕ)

def page (i : ℕ) : List α := (xs.drop (i * width)).take width

def count : ℕ := max ((xs.length + width - 1) / width) 1

variable {xs width} {i : ℕ}

lemma length_le_count_mul (h : 0 < width) : xs.length ≤ count xs width * width := by
  have hceil : xs.length ≤ (xs.length + width - 1) / width * width := by
    have hmod := Nat.mod_lt (xs.length + width - 1) h
    have hdiv := Nat.div_add_mod' (xs.length + width - 1) width
    omega
  exact hceil.trans (Nat.mul_le_mul_right _ (le_max_left _ _))

lemma mul_lt_of_lt_count (hi : i + 1 < count xs width) : (i + 1) * width < xs.length := by
  rcases Nat.eq_zero_or_pos width with hz | h
  · simp [count, hz] at hi
  · have hquot : i + 1 < (xs.length + width - 1) / width := by
      rcases lt_max_iff.mp hi with hi | hi
      · exact hi
      · omega
    have hmul := (Nat.le_div_iff_mul_le h).mp (Nat.succ_le_of_lt hquot)
    rw [Nat.succ_mul] at hmul
    omega

lemma mul_le_of_lt_count (hi : i < count xs width) : i * width ≤ xs.length := by
  cases i with
  | zero => simp
  | succ i => exact (mul_lt_of_lt_count hi).le

lemma flatMap_page_range (n : ℕ) : (List.range n).flatMap (page xs width) = xs.take (n * width) := by
  induction n with
  | zero => simp
  | succ n ih =>
    rw [List.range_succ, List.flatMap_append, ih, List.flatMap_singleton, Nat.succ_mul, List.take_add, page]

lemma flatMap_page (h : 0 < width) : (List.range (count xs width)).flatMap (page xs width) = xs := by
  rw [flatMap_page_range, List.take_of_length_le (length_le_count_mul h)]

lemma length_page (hi : i + 1 < count xs width) : (page xs width i).length = width := by
  have hmul := mul_lt_of_lt_count hi
  rw [Nat.succ_mul] at hmul
  rw [page, List.length_take, List.length_drop]
  omega

lemma page_eq_nil (h : 0 < width) (hi : count xs width ≤ i) : page xs width i = [] := by
  have hle : xs.length ≤ i * width := (length_le_count_mul h).trans (Nat.mul_le_mul_right _ hi)
  rw [page, List.drop_eq_nil_of_le hle, List.take_nil]

end ZzP2p.Lib.Pages
