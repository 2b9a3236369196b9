import Mathlib.Tactic

/-! Reading and writing numbers as digit text: the digits that `Nat.toDigits` writes are read back
to the same number. -/

namespace ZzP2p.Lib.Numerals

def toDigit (radix : ℕ) (c : Char) : Option ℕ :=
  let d :=
    if '0' ≤ c ∧ c ≤ '9' then some (c.toNat - '0'.toNat)
    else if 'a' ≤ c ∧ c ≤ 'z' then some (c.toNat - 'a'.toNat + 10)
    else if 'A' ≤ c ∧ c ≤ 'Z' then some (c.toNat - 'A'.toNat + 10)
    else none
  d.filter (· < radix)

def isDigit (radix : ℕ) (c : Char) : Bool := (toDigit radix c).isSome

def value (radix : ℕ) (cs : List Char) : ℕ :=
  cs.foldl (fun n c => radix * n + (toDigit radix c).getD 0) 0

def Stops (radix : ℕ) (cs : List Char) : Prop := ∀ c ∈ cs.head?, isDigit radix c = false

@[simp] lemma stops_nil (radix : ℕ) : Stops radix [] := by simp [Stops]

@[simp] lemma stops_cons (radix : ℕ) (c : Char) (cs : List Char) :
    Stops radix (c :: cs) ↔ isDigit radix c = false := by simp [Stops]

variable {radix : ℕ}

lemma toDigit_digitChar (hr : radix ≤ 16) {d : ℕ} (hd : d < radix) :
    toDigit radix d.digitChar = some d := by
  have hd' : d < 16 := by omega
  have hraw : toDigit 16 d.digitChar = some d := by
    interval_cases d <;> decide
  simp only [toDigit, Option.filter_eq_some_iff, decide_eq_true_eq] at hraw ⊢
  exact ⟨hraw.1, hd⟩

lemma isDigit_of_mem_toDigits (hr₁ : 1 < radix) (hr : radix ≤ 16) {n : ℕ} {c : Char}
    (hc : c ∈ Nat.toDigits radix n) : isDigit radix c = true := by
  induction n using Nat.strong_induction_on with
  | _ n ih =>
    rw [Nat.toDigits_eq_if hr₁] at hc
    split at hc
    · next hn => simp [List.mem_singleton.mp hc, isDigit, toDigit_digitChar hr hn]
    · next hn =>
      rcases List.mem_append.mp hc with hc | hc
      · exact ih (n / radix) (Nat.div_lt_self (by omega) hr₁) hc
      · have hm := Nat.mod_lt n (by omega : radix > 0)
        simp [List.mem_singleton.mp hc, isDigit, toDigit_digitChar hr hm]

lemma value_toDigits (hr₁ : 1 < radix) (hr : radix ≤ 16) (n : ℕ) :
    value radix (Nat.toDigits radix n) = n := by
  induction n using Nat.strong_induction_on with
  | _ n ih =>
    rw [Nat.toDigits_eq_if hr₁]
    split
    · next hn => simp [value, toDigit_digitChar hr hn]
    · next hn =>
      have hm := Nat.mod_lt n (by omega : radix > 0)
      have hq := ih (n / radix) (Nat.div_lt_self (by omega) hr₁)
      simp only [value] at hq
      simp only [value, List.foldl_append, hq, List.foldl_cons, List.foldl_nil,
        toDigit_digitChar hr hm, Option.getD_some]
      exact Nat.div_add_mod n radix

lemma digitChar_eq_zero {d : ℕ} (hd : d < 16) (h : d.digitChar = '0') : d = 0 := by
  interval_cases d <;> first | rfl | exact absurd h (by decide)

lemma repr_injective : Function.Injective Nat.repr := by
  intro a b h
  have hv := congrArg (fun s => value 10 (String.toList s)) h
  simpa only [Nat.toList_repr, value_toDigits (by decide : 1 < 10) (by decide)] using hv

lemma repr_ne_minus (m : ℕ) (s : String) : m.repr ≠ "-" ++ s := by
  intro h
  have hl := congrArg String.toList h
  rw [Nat.toList_repr, String.toList_append] at hl
  have hd : isDigit 10 '-' = true :=
    isDigit_of_mem_toDigits (n := m) (by decide) (by decide) (by simp [hl])
  exact absurd hd (by decide)

lemma int_repr_injective : Function.Injective Int.repr := by
  intro a b h
  rw [Int.repr_eq_if, Int.repr_eq_if] at h
  split at h <;> split at h
  · have hn := repr_injective h
    omega
  · exact absurd h (repr_ne_minus _ _)
  · exact absurd h.symm (repr_ne_minus _ _)
  · have hl := congrArg String.toList h
    simp only [String.toList_append, List.append_cancel_left_eq] at hl
    have hn := repr_injective (String.toList_inj.mp hl)
    omega

lemma int_repr_length_pos (a : ℤ) : 0 < a.repr.length := by
  rw [Int.repr_eq_if]
  split
  · exact Nat.length_repr_pos
  · rw [String.length_append]
    exact Nat.lt_of_lt_of_le Nat.length_repr_pos (Nat.le_add_left _ _)

lemma repr_ne_empty (n : ℕ) : n.repr ≠ "" := by
  intro h
  have hpos : 0 < n.repr.length := Nat.length_repr_pos
  simp [h] at hpos

lemma repr_last (n : ℕ) :
    ∃ (s : String) (d : ℕ), d < 10 ∧ n.repr = s ++ d.repr ∧ (10 ≤ n → s ≠ "") := by
  by_cases hn : 10 ≤ n
  · refine ⟨(n / 10).repr, n % 10, Nat.mod_lt _ (by decide), ?_, fun _ => repr_ne_empty _⟩
    exact Nat.repr_eq_repr_append_repr hn
  · exact ⟨"", n, by omega, by simp, fun h => absurd h hn⟩

lemma int_repr_last {a : ℤ} (h : ¬ (0 ≤ a ∧ a ≤ 9)) :
    ∃ (s : String) (d : ℕ), s ≠ "" ∧ d < 10 ∧ a.repr = s ++ d.repr := by
  rw [Int.repr_eq_if]
  split
  · obtain ⟨s, d, hd, hs, hne⟩ := repr_last a.toNat
    exact ⟨s, d, hne (by omega), hd, hs⟩
  · obtain ⟨s, d, hd, hs, -⟩ := repr_last (-a).toNat
    exact ⟨"-" ++ s, d, by simp, hd, by rw [hs, String.append_assoc]⟩

lemma toDigits_head_zero (hr₁ : 1 < radix) (hr : radix ≤ 16) {n : ℕ}
    (h : (Nat.toDigits radix n).head? = some '0') : n = 0 := by
  induction n using Nat.strong_induction_on with
  | _ n ih =>
    rw [Nat.toDigits_eq_if hr₁] at h
    split at h
    · next hn => exact digitChar_eq_zero (by omega) (by simpa using h)
    · next hn =>
      rw [List.head?_append_of_ne_nil _ Nat.toDigits_ne_nil] at h
      have hq := ih (n / radix) (Nat.div_lt_self (by omega) hr₁) h
      have := Nat.div_pos (by omega : radix ≤ n) (by omega)
      omega

lemma takeWhile_toDigits (hr₁ : 1 < radix) (hr : radix ≤ 16) (n : ℕ) {rest : List Char}
    (hs : Stops radix rest) :
    (Nat.toDigits radix n ++ rest).takeWhile (isDigit radix) = Nat.toDigits radix n := by
  rw [List.takeWhile_append_of_pos (fun c hc => isDigit_of_mem_toDigits hr₁ hr hc)]
  cases rest with
  | nil => simp
  | cons c rest => simp [(stops_cons radix c rest).mp hs]

lemma dropWhile_toDigits (hr₁ : 1 < radix) (hr : radix ≤ 16) (n : ℕ) {rest : List Char}
    (hs : Stops radix rest) :
    (Nat.toDigits radix n ++ rest).dropWhile (isDigit radix) = rest := by
  rw [List.dropWhile_append_of_pos (fun c hc => isDigit_of_mem_toDigits hr₁ hr hc)]
  cases rest with
  | nil => simp
  | cons c rest => simp [(stops_cons radix c rest).mp hs]

def dropPlus : List Char → List Char
  | '+' :: rest => rest
  | cs => cs

def parseUnsigned (bound : ℕ) (cs : List Char) : Option ℕ :=
  let digits := dropPlus cs
  if digits ≠ [] ∧ digits.all (isDigit 10) ∧ value 10 digits < bound then some (value 10 digits)
  else none

def parseSigned (bound : ℕ) : List Char → Option ℤ
  | '-' :: digits =>
    if digits ≠ [] ∧ digits.all (isDigit 10) ∧ value 10 digits ≤ bound then some (-(value 10 digits : ℤ))
    else none
  | cs => (parseUnsigned bound cs).map Int.ofNat

lemma dropPlus_toDigits (n : ℕ) : dropPlus (Nat.toDigits 10 n) = Nat.toDigits 10 n := by
  unfold dropPlus
  split
  · next rest h =>
    have hd : isDigit 10 '+' = true :=
      isDigit_of_mem_toDigits (n := n) (by decide) (by decide) (by simp [h])
    exact absurd hd (by decide)
  · rfl

lemma parseUnsigned_toDigits {bound n : ℕ} (hn : n < bound) :
    parseUnsigned bound (Nat.toDigits 10 n) = some n := by
  have hall : ∀ c ∈ Nat.toDigits 10 n, isDigit 10 c = true :=
    fun c hc => isDigit_of_mem_toDigits (by decide) (by decide) hc
  have hv : value 10 (Nat.toDigits 10 n) = n := value_toDigits (by decide) (by decide) n
  simp only [parseUnsigned, dropPlus_toDigits, hv]
  exact if_pos ⟨Nat.toDigits_ne_nil, List.all_eq_true.mpr hall, hn⟩

end ZzP2p.Lib.Numerals
