import ZzP2p.Db.Balance
import ZzP2p.Lib.Runs

/-! Transfers and the total supply. A transfer to another address moves its amount; a transfer to
the paying address itself writes the row twice, and the second write is the credit. -/

namespace ZzP2p.Db.Balance

open Lib Lib.Runs

lemma wellFormed_of_split {t t' : BalanceTable} (ht : WellFormed t) {m : Columns} {n : UInt64}
    {l₁ l₂ : List Columns} (h : t.values = l₁ ++ m :: l₂)
    (h' : t'.values = l₁ ++ { m with balance := u64Text n } :: l₂) : WellFormed t' := by
  refine ⟨?_, ?_⟩
  · have hd := ht.distinct
    rw [h] at hd
    simpa [h'] using hd
  · intro c hc
    rw [h'] at hc
    rcases List.mem_append.mp hc with hc | hc
    · exact ht.parses c (by simp [h, hc])
    · rcases List.mem_cons.mp hc with rfl | hc
      · exact ⟨n, parseU64_u64Text n⟩
      · exact ht.parses c (by simp [h, hc])

lemma amountOf_text (m : Columns) (n : UInt64) : amountOf { m with balance := u64Text n } = n := by
  simp [amountOf, Except.toOption]

lemma balanceOf_congr {t t' : BalanceTable} (ht : WellFormed t) (ht' : WellFormed t')
    {address : String} (h : ∀ m : Columns, m.address = address → (m ∈ t.values ↔ m ∈ t'.values)) :
    balanceOf t' address = balanceOf t address := by
  by_cases hm : ∃ m ∈ t.values, m.address = address
  · obtain ⟨m, hm, rfl⟩ := hm
    rw [balanceOf_of_mem ht hm, balanceOf_of_mem ht' ((h m rfl).mp hm)]
  · push Not at hm
    rw [balanceOf_of_not_mem hm, balanceOf_of_not_mem]
    intro m hmt ha
    exact hm m ((h m ha).mpr hmt) ha

lemma update_spec {t : BalanceTable} (ht : WellFormed t) {r : ℕ × Columns} (hr : r ∈ t.rows)
    (n : UInt64) :
    let t' := t.update r.1 (fun m => { m with balance := u64Text n })
    WellFormed t' ∧ balanceOf t' r.2.address = n ∧
      (∀ b, b ≠ r.2.address → balanceOf t' b = balanceOf t b) ∧
      supply t' + (balanceOf t r.2.address).toNat = supply t + n.toNat := by
  intro t'
  obtain ⟨l₁, l₂, hl, hl'⟩ := Table.update_split hr (fun m => { m with balance := u64Text n })
  change t'.values = _ at hl'
  have ht' := wellFormed_of_split ht hl hl'
  have hb : balanceOf t r.2.address = amountOf r.2 := balanceOf_of_mem ht (mem_values_of_rows hr)
  refine ⟨ht', ?_, ?_, ?_⟩
  · have hm : { r.2 with balance := u64Text n } ∈ t'.values := by simp [hl']
    exact (balanceOf_of_mem ht' hm).trans (amountOf_text _ n)
  · intro b hb'
    apply balanceOf_congr ht ht'
    intro m hm
    have hm₁ : m ≠ r.2 := by rintro rfl; exact hb' hm.symm
    have hm₂ : m ≠ { r.2 with balance := u64Text n } := by rintro rfl; exact hb' hm.symm
    simp [hl, hl', hm₁, hm₂]
  · simp only [supply_eq, hl, hl', hb, List.map_append, List.map_cons, List.sum_append,
      List.sum_cons, amountOf_text]
    omega

lemma insert_spec {t : BalanceTable} (ht : WellFormed t) (now : ℤ) (address : String) (n : UInt64)
    (hnone : ∀ m ∈ t.values, m.address ≠ address) :
    let t' := t.insert ⟨address, u64Text n, now⟩
    WellFormed t' ∧ balanceOf t' address = n ∧
      (∀ b, b ≠ address → balanceOf t' b = balanceOf t b) ∧
      supply t' + (balanceOf t address).toNat = supply t + n.toNat := by
  intro t'
  let m : Columns := ⟨address, u64Text n, now⟩
  have hv : t'.values = t.values ++ [m] := Table.values_insert t m
  have ht' : WellFormed t' := by
    refine ⟨?_, ?_⟩
    · simpa [hv, m, List.nodup_append, ht.distinct] using hnone
    · intro c hc
      rcases List.mem_append.mp (hv ▸ hc) with hc | hc
      · exact ht.parses c hc
      · exact ⟨n, by rw [List.mem_singleton.mp hc]; exact parseU64_u64Text n⟩
  refine ⟨ht', ?_, ?_, ?_⟩
  · exact (balanceOf_of_mem ht' (m := m) (by simp [hv])).trans (amountOf_text m n)
  · intro b hb
    apply balanceOf_congr ht ht'
    intro c hc
    have hne : c ≠ m := by rintro rfl; exact hb hc.symm
    simp [hv, hne]
  · have ha : amountOf m = n := amountOf_text m n
    rw [balanceOf_of_not_mem hnone, supply_eq, supply_eq, hv]
    simp [ha]

lemma set_spec {t : BalanceTable} (ht : WellFormed t) (now : ℤ) (address : String) (n : UInt64) :
    ∃ t', set now t address n = .ok t' ∧ WellFormed t' ∧ balanceOf t' address = n ∧
      (∀ b, b ≠ address → balanceOf t' b = balanceOf t b) ∧
      supply t' + (balanceOf t address).toNat = supply t + n.toNat := by
  simp only [set]
  cases hf : t.find? (fun m => m.address == address) with
  | some r =>
    obtain ⟨hr, ha⟩ := Table.find?_eq_some hf
    obtain rfl : r.2.address = address := by simpa using ha
    exact ⟨_, rfl, update_spec ht hr n⟩
  | none =>
    have hnone : ∀ m ∈ t.values, m.address ≠ address := by
      intro m hm
      simpa using Table.find?_eq_none hf m hm
    have hany : t.values.any (fun m => m.address == address) = false := by simpa using hnone
    exact ⟨_, by simp [insertUnique, hany], insert_spec ht now address n hnone⟩

lemma balanceOf_add_le {t : BalanceTable} (ht : WellFormed t) {a b : String} (h : a ≠ b) :
    (balanceOf t a).toNat + (balanceOf t b).toNat ≤ supply t := by
  -- emptying both rows one after the other leaves a supply that is not negative
  obtain ⟨t₁, -, ht₁, -, hb, hs₁⟩ := set_spec ht 0 a 0
  obtain ⟨t₂, -, -, -, -, hs₂⟩ := set_spec ht₁ 0 b 0
  rw [hb b h.symm] at hs₂
  simp only [UInt64.toNat_zero] at hs₁ hs₂
  omega

lemma set_set_spec {t : BalanceTable} (ht : WellFormed t) (now : ℤ) (a b : String) (x y : UInt64) :
    ∃ t₁ t₂, set now t a x = .ok t₁ ∧ set now t₁ b y = .ok t₂ ∧ WellFormed t₂ ∧
      (a ≠ b → supply t₂ + (balanceOf t a).toNat + (balanceOf t b).toNat =
        supply t + x.toNat + y.toNat) ∧
      (a = b → supply t₂ + (balanceOf t a).toNat = supply t + y.toNat) := by
  obtain ⟨t₁, h₁, ht₁, hx, hb₁, hs₁⟩ := set_spec ht now a x
  obtain ⟨t₂, h₂, ht₂, -, -, hs₂⟩ := set_spec ht₁ now b y
  refine ⟨t₁, t₂, h₁, h₂, ht₂, ?_, ?_⟩
  · intro hab
    rw [hb₁ b hab.symm] at hs₂
    omega
  · rintro rfl
    rw [hx] at hs₂
    omega

lemma transfer_eq {t t₁ t₂ : BalanceTable} (ht : WellFormed t) {now : ℤ} {fromAddr toAddr : String}
    {amount : UInt64} (h₀ : amount ≠ 0) (hle : amount ≤ balanceOf t fromAddr)
    (h₁ : set now t fromAddr (balanceOf t fromAddr - amount) = .ok t₁)
    (h₂ : set now t₁ toAddr (balanceOf t toAddr + amount) = .ok t₂) :
    transfer now t fromAddr toAddr amount = (.ok (), t₂) := by
  have hlt : ¬ balanceOf t fromAddr < amount := UInt64.not_lt.mpr hle
  have hbody : transferBody now fromAddr toAddr amount t = .ok ((), t₂) := by
    simp only [transferBody, get_eq ht, bind, Except.bind, hlt, if_false, pure, Except.pure, h₁, h₂]
  simp [transfer, h₀, inTransaction, hbody]

lemma transfer_cases {t : BalanceTable} (ht : WellFormed t) (now : ℤ) (fromAddr toAddr : String)
    (amount : UInt64) :
    (amount = 0 ∧
      transfer now t fromAddr toAddr amount = (.error (.anyhow "transfer amount must > 0"), t)) ∨
    (amount ≠ 0 ∧ balanceOf t fromAddr < amount ∧
      transfer now t fromAddr toAddr amount = (.error (.anyhow "insufficient funds"), t)) ∨
    (amount ≠ 0 ∧ amount ≤ balanceOf t fromAddr ∧
      ∃ t', transfer now t fromAddr toAddr amount = (.ok (), t') ∧ WellFormed t' ∧
        (fromAddr ≠ toAddr →
          supply t' + (balanceOf t fromAddr).toNat + (balanceOf t toAddr).toNat =
            supply t + (balanceOf t fromAddr - amount).toNat + (balanceOf t toAddr + amount).toNat) ∧
        (fromAddr = toAddr →
          supply t' + (balanceOf t fromAddr).toNat = supply t + (balanceOf t toAddr + amount).toNat)) := by
  by_cases h₀ : amount = 0
  · exact Or.inl ⟨h₀, by simp [transfer, h₀]⟩
  by_cases hlt : balanceOf t fromAddr < amount
  · refine Or.inr (Or.inl ⟨h₀, hlt, ?_⟩)
    have hbody : transferBody now fromAddr toAddr amount t = .error (.anyhow "insufficient funds") := by
      simp only [transferBody, get_eq ht, bind, Except.bind, hlt, if_true]
      rfl
    simp [transfer, h₀, inTransaction, hbody]
  · obtain ⟨t₁, t₂, h₁, h₂, ht₂, hs⟩ := set_set_spec ht now fromAddr toAddr
      (balanceOf t fromAddr - amount) (balanceOf t toAddr + amount)
    have hle := UInt64.not_lt.mp hlt
    exact Or.inr (Or.inr ⟨h₀, hle, t₂, transfer_eq ht h₀ hle h₁ h₂, ht₂, hs⟩)

structure Call where
  now : ℤ
  fromAddr : String
  toAddr : String
  amount : UInt64

def step (t : BalanceTable) (c : Call) : BalanceTable :=
  (transfer c.now t c.fromAddr c.toAddr c.amount).2

def SelfCredit (t : BalanceTable) (c : Call) : Prop :=
  c.fromAddr = c.toAddr ∧ c.amount ≠ 0 ∧ c.amount ≤ balanceOf t c.fromAddr

lemma step_wellFormed {t : BalanceTable} (ht : WellFormed t) (c : Call) : WellFormed (step t c) := by
  rcases transfer_cases ht c.now c.fromAddr c.toAddr c.amount with
    ⟨-, h⟩ | ⟨-, -, h⟩ | ⟨-, -, t', h, ht', -⟩
  · simpa [step, h] using ht
  · simpa [step, h] using ht
  · simpa [step, h] using ht'

lemma supply_step_iff {t : BalanceTable} (ht : WellFormed t) (hs : supply t < 2 ^ 64) (c : Call) :
    supply (step t c) = supply t ↔ ¬ SelfCredit t c := by
  rcases transfer_cases ht c.now c.fromAddr c.toAddr c.amount with
    ⟨h₀, h⟩ | ⟨-, hlt, h⟩ | ⟨h₀, hle, t', h, -, hother, hself⟩
  · rw [show step t c = t by simp [step, h]]
    simp [SelfCredit, h₀]
  · rw [show step t c = t by simp [step, h]]
    simp [SelfCredit, hlt]
  · have hpos : c.amount.toNat ≠ 0 := fun he => h₀ (UInt64.toNat_inj.mp he)
    have hbound := c.amount.toNat_lt
    have hle' : c.amount.toNat ≤ (balanceOf t c.fromAddr).toNat := UInt64.le_iff_toNat_le.mp hle
    rw [show step t c = t' by simp [step, h]]
    by_cases hft : c.fromAddr = c.toAddr
    · have hs' := hself hft
      rw [← hft, UInt64.toNat_add] at hs'
      refine ⟨fun he => ?_, fun hn => (hn ⟨hft, h₀, hle⟩).elim⟩
      -- a credit that wraps around is still not the balance it started from
      have hb := (balanceOf t c.fromAddr).toNat_lt
      omega
    · have hs' := hother hft
      have hsum := balanceOf_add_le ht hft
      rw [UInt64.toNat_sub_of_le _ _ hle, UInt64.toNat_add] at hs'
      exact ⟨fun _ hc => hft hc.1, fun _ => by omega⟩

theorem supply_conserved_iff (t : BalanceTable) (ht : WellFormed t) (hs : supply t ≤ 2 ^ 64 - 1)
    (calls : List Call) :
    (∀ t' ∈ visited step t calls, supply t' = supply t) ↔
      Guarded step (fun t c => ¬ SelfCredit t c) t calls := by
  refine guarded_iff (I := WellFormed) ?_ (fun _ c h _ _ => step_wellFormed h c) ht rfl
  intro t' c ht' he
  rw [← he] at hs ⊢
  exact supply_step_iff ht' (by omega) c

def oneAccount : BalanceTable := Table.empty.insert ⟨"a", "10", 0⟩

lemma oneAccount_wellFormed : WellFormed oneAccount := by
  refine ⟨by decide, ?_⟩
  intro m hm
  obtain rfl : m = ⟨"a", "10", 0⟩ := by simpa [oneAccount] using hm
  exact ⟨10, by decide⟩

theorem supply_conserved_oneAccount :
    balanceOf (step oneAccount ⟨0, "a", "b", 5⟩) "b" = 5 ∧
      ∀ t' ∈ visited step oneAccount [⟨0, "a", "b", 5⟩], supply t' = supply oneAccount := by
  refine ⟨by decide, ?_⟩
  apply (supply_conserved_iff oneAccount oneAccount_wellFormed (by decide) _).mpr
  exact ⟨fun h => absurd h.1 (by decide), trivial⟩

theorem self_transfer_mints :
    ¬ ∀ (t : BalanceTable) (calls : List Call), WellFormed t → supply t ≤ 2 ^ 64 - 1 →
      supply (calls.foldl step t) = supply t := by
  intro h
  have hc := h oneAccount [⟨0, "a", "a", 5⟩] oneAccount_wellFormed (by decide)
  exact absurd hc (by decide)

end ZzP2p.Db.Balance
