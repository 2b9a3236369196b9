import ZzP2p.Db.Transaction
import ZzP2p.Lib.Numerals

/-! What the hashed bytes say about a transaction. Epoch, cycle and type stand at fixed places; the two
addresses and the amount follow one another with nothing in between. -/

namespace ZzP2p.Db.Transaction

open Lib.Numerals Rust

structure SameTransaction (c c' : Args) : Prop where
  epoch : c.epoch = c'.epoch
  cycle : c.cycle = c'.cycle
  txType : c.txType = c'.txType
  fromAddr : c.fromAddr = c'.fromAddr
  toAddr : c.toAddr = c'.toAddr
  amount : c.amount = c'.amount

def Commits (prevHash : String) (c c' : Args) : Prop :=
  hashInput prevHash c = hashInput prevHash c' → SameTransaction c c'

/-- the part of the hashed text that has no separators -/
def payment (c : Args) : String := c.fromAddr ++ c.toAddr ++ toString c.amount.toInt

/-- The same text, cut at other places into two addresses and an amount. -/
structure Recut (c c' : Args) : Prop where
  epoch : c.epoch = c'.epoch
  cycle : c.cycle = c'.cycle
  txType : c.txType = c'.txType
  payment : payment c = payment c'
  cut : c.fromAddr.length ≠ c'.fromAddr.length ∨ c.toAddr.length ≠ c'.toAddr.length

lemma txType_of_text {x x' : TxType} {s s' : String} (h : x.intoValue ++ s = x'.intoValue ++ s') :
    x = x' ∧ s = s' := by
  have hl := congrArg String.toList h
  simp only [String.toList_append] at hl
  have hx : x = x' := by
    have hhead := congrArg List.head? hl
    cases x <;> cases x' <;> first | rfl | simp [TxType.intoValue] at hhead
  subst hx
  exact ⟨rfl, String.toList_inj.mp (List.append_cancel_left hl)⟩

lemma int64_of_bytes {x x' : Int64} {rest rest' : Bytes}
    (h : leBytes x.toUInt64 ++ rest = leBytes x'.toUInt64 ++ rest') : x = x' ∧ rest = rest' := by
  obtain ⟨hx, hrest⟩ := List.append_inj h (by simp)
  exact ⟨int64_leBytes_injective hx, hrest⟩

lemma hashInput_eq_iff (prevHash : String) (c c' : Args) :
    hashInput prevHash c = hashInput prevHash c' ↔
      c.epoch = c'.epoch ∧ c.cycle = c'.cycle ∧ c.txType = c'.txType ∧ payment c = payment c' := by
  have hsplit : ∀ c : Args, hashInput prevHash c = utf8 prevHash ++ (leBytes c.epoch.toUInt64 ++
      (leBytes c.cycle.toUInt64 ++ utf8 (c.txType.intoValue ++ payment c))) := by
    intro c
    simp only [hashInput, payment, utf8_append, List.append_assoc]
  rw [hsplit, hsplit, List.append_cancel_left_eq]
  constructor
  · intro h
    obtain ⟨he, h⟩ := int64_of_bytes h
    obtain ⟨hc, h⟩ := int64_of_bytes h
    obtain ⟨ht, hp⟩ := txType_of_text (utf8_injective h)
    exact ⟨he, hc, ht, hp⟩
  · rintro ⟨he, hc, ht, hp⟩
    rw [he, hc, ht, hp]

lemma payment_cut {c c' : Args} (h : payment c = payment c')
    (hf : c.fromAddr.length = c'.fromAddr.length) (ht : c.toAddr.length = c'.toAddr.length) :
    c.fromAddr = c'.fromAddr ∧ c.toAddr = c'.toAddr ∧ c.amount = c'.amount := by
  have hl := congrArg String.toList h
  simp only [payment, String.toList_append, List.append_assoc] at hl
  obtain ⟨hfrom, hl⟩ := List.append_inj hl (by simpa only [String.length_toList] using hf)
  obtain ⟨hto, hl⟩ := List.append_inj hl (by simpa only [String.length_toList] using ht)
  refine ⟨String.toList_inj.mp hfrom, String.toList_inj.mp hto, ?_⟩
  exact Int64.toInt_inj.mp (int_repr_injective (String.toList_inj.mp hl))

lemma commits_iff (prevHash : String) (c c' : Args) : Commits prevHash c c' ↔ ¬ Recut c c' := by
  rw [Commits, hashInput_eq_iff]
  constructor
  · rintro h ⟨he, hc, ht, hp, hcut⟩
    have hsame := h ⟨he, hc, ht, hp⟩
    rcases hcut with hcut | hcut
    · exact hcut (congrArg String.length hsame.fromAddr)
    · exact hcut (congrArg String.length hsame.toAddr)
  · rintro h ⟨he, hc, ht, hp⟩
    have hcut : c.fromAddr.length = c'.fromAddr.length ∧ c.toAddr.length = c'.toAddr.length := by
      by_contra hne
      exact h ⟨he, hc, ht, hp, not_and_or.mp hne⟩
    obtain ⟨hfrom, hto, hamount⟩ := payment_cut hp hcut.1 hcut.2
    exact ⟨he, hc, ht, hfrom, hto, hamount⟩

lemma digit_text {d : ℕ} (hd : d < 10) : toString (Int64.ofInt d).toInt = d.repr := by
  rw [Int64.toInt_ofInt_of_le (by omega) (by omega)]
  rfl

lemma exists_recut {c : Args}
    (h : ¬ (c.fromAddr = "" ∧ c.toAddr = "" ∧ 0 ≤ c.amount.toInt ∧ c.amount.toInt ≤ 9)) :
    ∃ c', Recut c c' := by
  by_cases hf : c.fromAddr = ""
  · by_cases ht : c.toAddr = ""
    · obtain ⟨s, d, hs, hd, ha⟩ := int_repr_last (fun hr => h ⟨hf, ht, hr⟩)
      refine ⟨{ c with fromAddr := s, amount := Int64.ofInt d }, rfl, rfl, rfl, ?_, Or.inl ?_⟩
      · simp only [payment, hf, ht, digit_text hd]
        simpa using ha
      · rw [hf]
        exact fun hl => hs (String.length_eq_zero_iff.mp hl.symm)
    · refine ⟨{ c with fromAddr := c.toAddr, toAddr := "" }, rfl, rfl, rfl, ?_, Or.inr ?_⟩
      · simp [payment, hf]
      · exact fun hl => ht (String.length_eq_zero_iff.mp hl)
  · refine ⟨{ c with fromAddr := "", toAddr := c.fromAddr ++ c.toAddr }, rfl, rfl, rfl, ?_, Or.inl ?_⟩
    · simp [payment]
    · exact fun hl => hf (String.length_eq_zero_iff.mp hl)

lemma not_recut_of_digit {c c' : Args} (hf : c.fromAddr = "") (ht : c.toAddr = "")
    (ha : 0 ≤ c.amount.toInt ∧ c.amount.toInt ≤ 9) : ¬ Recut c c' := by
  rintro ⟨-, -, -, hp, hcut⟩
  have hl := congrArg String.length hp
  have hone : (Int.repr c.amount.toInt).length ≤ 1 := by
    rw [Int.repr_eq_if, if_pos ha.1, Nat.length_repr_le_iff (by decide)]
    omega
  have hpos := int_repr_length_pos c'.amount.toInt
  simp only [payment, hf, ht, String.length_append, Int.toString_eq_repr, String.length_empty] at hl hcut
  omega

theorem hash_commits_iff (prevHash : String) (c : Args) :
    (∀ c', Commits prevHash c c' ↔ ¬ Recut c c') ∧
      ((∀ c', Commits prevHash c c') ↔
        c.fromAddr = "" ∧ c.toAddr = "" ∧ 0 ≤ c.amount.toInt ∧ c.amount.toInt ≤ 9) := by
  refine ⟨commits_iff prevHash c, ?_, ?_⟩
  · intro h
    by_contra hd
    obtain ⟨c', hc'⟩ := exists_recut hd
    exact (commits_iff prevHash c c').mp (h c') hc'
  · rintro ⟨hf, ht, ha⟩ c'
    exact (commits_iff prevHash c c').mpr (not_recut_of_digit hf ht ha)

theorem two_payments_share_bytes :
    ¬ ∀ (prevHash : String) (c c' : Args),
      hashInput prevHash c = hashInput prevHash c' → SameTransaction c c' := by
  intro h
  have hs := h preHash ⟨0, 0, .transfer, "a", "bc", 1, "", 0⟩ ⟨0, 0, .transfer, "ab", "c", 1, "", 0⟩
    ((hashInput_eq_iff _ _ _).mpr ⟨rfl, rfl, rfl, by decide⟩)
  exact absurd hs.fromAddr (by decide)

end ZzP2p.Db.Transaction
