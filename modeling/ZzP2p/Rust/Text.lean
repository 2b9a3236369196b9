import Mathlib.Data.List.TakeWhile
import Mathlib.Tactic

/-! Trimming of text at white space, as the standard library does it. -/

namespace ZzP2p.Rust

/-- the characters with the property White_Space -/
def isWhitespace (c : Char) : Bool :=
  let n := c.toNat
  (9 ≤ n && n ≤ 13) || n = 0x20 || n = 0x85 || n = 0xa0 || n = 0x1680 || (0x2000 ≤ n && n ≤ 0x200a) ||
    n = 0x2028 || n = 0x2029 || n = 0x202f || n = 0x205f || n = 0x3000

def trim (s : List Char) : List Char := ((s.dropWhile isWhitespace).reverse.dropWhile isWhitespace).reverse

lemma trim_ne_nil {s : List Char} {c : Char} (hc : c ∈ s) (h : isWhitespace c = false) : trim s ≠ [] := by
  rw [trim, ne_eq, List.reverse_eq_nil_iff, List.dropWhile_eq_nil_iff]
  intro hall
  have hmem : c ∈ s.dropWhile isWhitespace := by
    rw [← List.takeWhile_append_dropWhile (p := isWhitespace) (l := s)] at hc
    rcases List.mem_append.mp hc with ht | hd
    · exact absurd (List.mem_takeWhile_imp ht) (by simp [h])
    · exact hd
  exact absurd (hall c (List.mem_reverse.mpr hmem)) (by simp [h])

end ZzP2p.Rust
