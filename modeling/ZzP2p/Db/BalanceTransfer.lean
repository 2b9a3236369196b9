import ZzP2p.Db.BalanceSupply

/-! What one transfer does to the rows. The debit is checked against the balance it is taken from; the
credit is not checked against the end of the range, where it wraps around. -/

namespace ZzP2p.Db.Balance

open Lib

def rowsBut (addresses : List String) (t : BalanceTable) : List (ℕ × Columns) :=
  t.rows.filter (fun r => r.2.address ∉ addresses)

lemma set_rowsBut {now : ℤ} {t t' : BalanceTable} {address : String} {n : UInt64}
    {addresses : List String} (ha : address ∈ addresses) (h : set now t address n = .ok t') :
    rowsBut addresses t' = rowsBut addresses t := by
  simp only [set] at h
  split at h
  · next r hf =>
    obtain ⟨hr, he⟩ := Table.find?_eq_some hf
    obtain rfl : r.2.address = address := by simpa using he
    obtain ⟨l₁, l₂, hl, -, -, hl'⟩ := Table.rows_update hr (fun m => { m with balance := u64Text n })
    obtain rfl := Except.ok.inj h
    simp [rowsBut, hl, hl', ha]
  · simp only [insertUnique] at h
    split at h
    · cases h
    · obtain rfl := Except.ok.inj h
      simp [rowsBut, Table.insert, ha]

lemma transfer_ok {t : BalanceTable} (ht : WellFormed t) (now : ℤ) {fromAddr toAddr : String}
    (hne : fromAddr ≠ toAddr) {amount : UInt64} (h₀ : amount ≠ 0)
    (hle : amount ≤ balanceOf t fromAddr) :
    ∃ t', transfer now t fromAddr toAddr amount = (.ok (), t') ∧
      balanceOf t' fromAddr = balanceOf t fromAddr - amount ∧
      balanceOf t' toAddr = balanceOf t toAddr + amount ∧
      rowsBut [fromAddr, toAddr] t' = rowsBut [fromAddr, toAddr] t := by
  obtain ⟨t₁, h₁, ht₁, hf₁, ho₁, -⟩ := set_spec ht now fromAddr (balanceOf t fromAddr - amount)
  obtain ⟨t₂, h₂, -, hf₂, ho₂, -⟩ := set_spec ht₁ now toAddr (balanceOf t toAddr + amount)
  refine ⟨t₂, transfer_eq ht h₀ hle h₁ h₂, ?_, hf₂, ?_⟩
  · rw [ho₂ fromAddr hne, hf₁]
  · exact (set_rowsBut (by simp) h₂).trans (set_rowsBut (by simp) h₁)

lemma transfer_err {t : BalanceTable} (ht : WellFormed t) (now : ℤ) (fromAddr toAddr : String)
    {amount : UInt64} (h : ¬ (0 < amount ∧ amount ≤ balanceOf t fromAddr)) :
    ∃ e, transfer now t fromAddr toAddr amount = (.error e, t) := by
  rcases transfer_cases ht now fromAddr toAddr amount with ⟨-, he⟩ | ⟨-, -, he⟩ | ⟨h₀, hle, -⟩
  · exact ⟨_, he⟩
  · exact ⟨_, he⟩
  · exact absurd ⟨UInt64.pos_iff_ne_zero.mpr h₀, hle⟩ h

structure ExactTransfer (now : ℤ) (t : BalanceTable) (fromAddr toAddr : String) (amount : UInt64) :
    Prop where
  ok_iff : (transfer now t fromAddr toAddr amount).1 = .ok () ↔
    0 < amount ∧ amount ≤ balanceOf t fromAddr ∧
      (balanceOf t toAddr).toNat + amount.toNat ≤ 2 ^ 64 - 1
  moved : ∀ t', transfer now t fromAddr toAddr amount = (.ok (), t') →
    (balanceOf t' fromAddr).toNat + amount.toNat = (balanceOf t fromAddr).toNat ∧
    (balanceOf t' toAddr).toNat = (balanceOf t toAddr).toNat + amount.toNat ∧
    rowsBut [fromAddr, toAddr] t' = rowsBut [fromAddr, toAddr] t
  kept : ∀ e t', transfer now t fromAddr toAddr amount = (.error e, t') → t' = t

def CreditWraps (t : BalanceTable) (fromAddr toAddr : String) (amount : UInt64) : Prop :=
  0 < amount ∧ amount ≤ balanceOf t fromAddr ∧
    2 ^ 64 ≤ (balanceOf t toAddr).toNat + amount.toNat

lemma exactTransfer_refused {now : ℤ} {t : BalanceTable} (ht : WellFormed t) (fromAddr toAddr : String)
    {amount : UInt64} (h : ¬ (0 < amount ∧ amount ≤ balanceOf t fromAddr)) :
    ExactTransfer now t fromAddr toAddr amount := by
  obtain ⟨e, he⟩ := transfer_err ht now fromAddr toAddr h
  refine ⟨?_, ?_, ?_⟩
  · simp only [he, reduceCtorEq, false_iff]
    exact fun hok => h ⟨hok.1, hok.2.1⟩
  · intro t' he'
    cases he.symm.trans he'
  · intro e' t' he'
    exact (congrArg Prod.snd (he.symm.trans he')).symm

lemma exactTransfer_paid_iff {now : ℤ} {t : BalanceTable} (ht : WellFormed t)
    {fromAddr toAddr : String} (hne : fromAddr ≠ toAddr) {amount : UInt64} (h₀ : 0 < amount)
    (hle : amount ≤ balanceOf t fromAddr) :
    ExactTransfer now t fromAddr toAddr amount ↔
      (balanceOf t toAddr).toNat + amount.toNat < 2 ^ 64 := by
  obtain ⟨t', he, hf, ht', hrows⟩ := transfer_ok ht now hne (UInt64.pos_iff_ne_zero.mp h₀) hle
  constructor
  · intro h
    have hroom := (h.ok_iff.mp (by rw [he])).2.2
    omega
  · intro hroom
    refine ⟨?_, ?_, ?_⟩
    · simp only [he, true_iff]
      exact ⟨h₀, hle, by omega⟩
    · intro t'' he'
      obtain rfl : t' = t'' := congrArg Prod.snd (he.symm.trans he')
      have hle' := UInt64.le_iff_toNat_le.mp hle
      refine ⟨?_, ?_, hrows⟩
      · rw [hf, UInt64.toNat_sub_of_le _ _ hle]
        omega
      · rw [ht', UInt64.toNat_add]
        omega
    · intro e t'' he'
      cases he.symm.trans he'

theorem exactTransfer_iff (now : ℤ) (t : BalanceTable) (ht : WellFormed t)
    (fromAddr toAddr : String) (hne : fromAddr ≠ toAddr) (amount : UInt64) :
    ExactTransfer now t fromAddr toAddr amount ↔ ¬ CreditWraps t fromAddr toAddr amount := by
  by_cases hpay : 0 < amount ∧ amount ≤ balanceOf t fromAddr
  · rw [exactTransfer_paid_iff ht hne hpay.1 hpay.2, CreditWraps, ← Nat.not_le]
    exact not_congr ⟨fun hw => ⟨hpay.1, hpay.2, hw⟩, fun hw => hw.2.2⟩
  · refine ⟨fun _ hw => hpay ⟨hw.1, hw.2.1⟩, fun _ => ?_⟩
    exact exactTransfer_refused ht fromAddr toAddr hpay

theorem exactTransfer_oneAccount :
    (transfer 0 oneAccount "a" "b" 5).1 = .ok () ∧ ExactTransfer 0 oneAccount "a" "b" 5 := by
  refine ⟨by decide, ?_⟩
  apply (exactTransfer_iff 0 oneAccount oneAccount_wellFormed "a" "b" (by decide) 5).mpr
  exact fun h => absurd h.2.2 (by decide)

def fullReceiver : BalanceTable := oneAccount.insert ⟨"b", u64Text (-1), 0⟩

lemma fullReceiver_wellFormed : WellFormed fullReceiver :=
  (insert_spec oneAccount_wellFormed 0 "b" (-1) (by decide)).1

theorem transfer_wraps_full_receiver :
    ¬ ∀ (now : ℤ) (t : BalanceTable) (fromAddr toAddr : String) (amount : UInt64), WellFormed t →
      fromAddr ≠ toAddr → ExactTransfer now t fromAddr toAddr amount := by
  intro h
  have hc := h 0 fullReceiver "a" "b" 1 fullReceiver_wellFormed (by decide)
  exact absurd (hc.ok_iff.mp (by decide)).2.2 (by decide)

end ZzP2p.Db.Balance
