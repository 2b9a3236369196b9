import Mathlib.Tactic

/-! Percent-encodings of byte strings. One byte string has many: a byte that is not reserved may stand
for itself, and the digits of an escape are written in either case. -/

namespace ZzP2p.Lib.PercentEncoding

def lowerDigit (n : ℕ) : UInt8 := UInt8.ofNat (if n < 10 then 48 + n else 87 + n)

def upperDigit (n : ℕ) : UInt8 := UInt8.ofNat (if n < 10 then 48 + n else 55 + n)

def Digit (n : ℕ) (d : UInt8) : Prop := d = lowerDigit n ∨ d = upperDigit n

/-- 37 is the percent sign -/
inductive Encodes (reserved : List UInt8) : List UInt8 → List UInt8 → Prop
  | nil : Encodes reserved [] []
  | literal {b : UInt8} {bytes text : List UInt8} (hb : b ∉ reserved) (h : Encodes reserved bytes text) :
      Encodes reserved (b :: bytes) (b :: text)
  | escaped {b hi lo : UInt8} {bytes text : List UInt8} (hhi : Digit (b.toNat / 16) hi)
      (hlo : Digit (b.toNat % 16) lo) (h : Encodes reserved bytes text) :
      Encodes reserved (b :: bytes) (37 :: hi :: lo :: text)

lemma Digit.bounds {n : ℕ} {d : UInt8} (hn : n < 16) (h : Digit n d) : 48 ≤ d.toNat ∧ d.toNat ≤ 57 ∨
    65 ≤ d.toNat ∧ d.toNat ≤ 70 ∨ 97 ≤ d.toNat ∧ d.toNat ≤ 102 := by
  rcases h with rfl | rfl
  · rw [lowerDigit, UInt8.toNat_ofNat']
    split <;> omega
  · rw [upperDigit, UInt8.toNat_ofNat']
    split <;> omega

/-- A separator that is reserved and is no part of an escape does not occur in an encoding. -/
lemma Encodes.notMem {reserved bytes text : List UInt8} (h : Encodes reserved bytes text) {sep : UInt8}
    (hsep : sep ∈ reserved) (hpercent : sep ≠ 37) (hdigit : ∀ n < 16, ¬ Digit n sep) : sep ∉ text := by
  induction h with
  | nil => exact List.not_mem_nil
  | @literal b bytes text hb h ih =>
    have hne : sep ≠ b := by
      rintro rfl
      exact hb hsep
    apply List.not_mem_cons_of_ne_of_not_mem hne ih
  | @escaped b hi lo bytes text hhi hlo h ih =>
    have hb := b.toNat_lt
    have hne : ∀ {n : ℕ} {d : UInt8}, n < 16 → Digit n d → sep ≠ d := by
      rintro n d hn hd rfl
      exact hdigit n hn hd
    apply List.not_mem_cons_of_ne_of_not_mem hpercent
    apply List.not_mem_cons_of_ne_of_not_mem (hne (by omega) hhi)
    exact List.not_mem_cons_of_ne_of_not_mem (hne (by omega) hlo) ih

end ZzP2p.Lib.PercentEncoding
