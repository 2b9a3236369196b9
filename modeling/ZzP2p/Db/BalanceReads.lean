import ZzP2p.Db.BalanceSupply

/-! Runs of `set` and `transfer` on a table that starts empty: every amount stays in the form the store
writes, so that reading one balance and listing them all agree. -/

namespace ZzP2p.Db.Balance

open Lib Lib.Runs

structure Canonical (t : BalanceTable) : Prop where
  distinct : (t.values.map Columns.address).Nodup
  decimal : ∀ m ∈ t.values, ∃ n : UInt64, m.balance = u64Text n

lemma Canonical.wellFormed {t : BalanceTable} (h : Canonical t) : WellFormed t := by
  refine ⟨h.distinct, fun m hm => ?_⟩
  obtain ⟨n, hn⟩ := h.decimal m hm
  exact ⟨n, by rw [hn, parseU64_u64Text]⟩

lemma set_decimal {now : ℤ} {t t' : BalanceTable} {address : String} {n : UInt64}
    (ht : ∀ m ∈ t.values, ∃ n : UInt64, m.balance = u64Text n) (h : set now t address n = .ok t') :
    ∀ m ∈ t'.values, ∃ n : UInt64, m.balance = u64Text n := by
  intro m hm
  simp only [set] at h
  split at h
  · next r hf =>
    obtain rfl := Except.ok.inj h
    rw [Table.values_update] at hm
    obtain ⟨s, hs, rfl⟩ := List.mem_map.mp hm
    split
    · exact ⟨n, rfl⟩
    · exact ht s.2 (mem_values_of_rows hs)
  · simp only [insertUnique] at h
    split at h
    · cases h
    · obtain rfl := Except.ok.inj h
      rw [Table.values_insert] at hm
      rcases List.mem_append.mp hm with hm | hm
      · exact ht m hm
      · exact ⟨n, by rw [List.mem_singleton.mp hm]⟩

lemma set_canonical {t : BalanceTable} (ht : Canonical t) (now : ℤ) (address : String) (n : UInt64) :
    ∃ t', set now t address n = .ok t' ∧ Canonical t' := by
  obtain ⟨t', h, ht', -⟩ := set_spec ht.wellFormed now address n
  exact ⟨t', h, ht'.distinct, set_decimal ht.decimal h⟩

lemma transfer_canonical {t : BalanceTable} (ht : Canonical t) (now : ℤ) (fromAddr toAddr : String)
    (amount : UInt64) : Canonical (transfer now t fromAddr toAddr amount).2 := by
  rcases transfer_cases ht.wellFormed now fromAddr toAddr amount with
    ⟨-, h⟩ | ⟨-, -, h⟩ | ⟨h₀, hle, -⟩
  · simpa only [h] using ht
  · simpa only [h] using ht
  · obtain ⟨t₁, h₁, ht₁⟩ := set_canonical ht now fromAddr (balanceOf t fromAddr - amount)
    obtain ⟨t₂, h₂, ht₂⟩ := set_canonical ht₁ now toAddr (balanceOf t toAddr + amount)
    simpa only [transfer_eq ht.wellFormed h₀ hle h₁ h₂] using ht₂

inductive Operation
  | set (now : ℤ) (address : String) (amount : UInt64)
  | transfer (now : ℤ) (fromAddr toAddr : String) (amount : UInt64)

def apply (t : BalanceTable) : Operation → BalanceTable
  | .set now address amount => match set now t address amount with
    | .ok t' => t'
    | .error _ => t
  | .transfer now fromAddr toAddr amount => (transfer now t fromAddr toAddr amount).2

lemma apply_canonical {t : BalanceTable} (ht : Canonical t) (o : Operation) : Canonical (apply t o) := by
  cases o with
  | set now address amount =>
    obtain ⟨t', h, ht'⟩ := set_canonical ht now address amount
    simpa only [apply, h] using ht'
  | transfer now fromAddr toAddr amount => exact transfer_canonical ht now fromAddr toAddr amount

lemma get_of_listed {t : BalanceTable} (ht : WellFormed t) {address : String} {n : UInt64}
    (h : (address, n) ∈ getAll t) : get t address = .ok n := by
  obtain ⟨m, hm, he⟩ := List.mem_map.mp h
  obtain ⟨rfl, rfl⟩ := Prod.mk.inj he
  rw [get_eq ht, balanceOf_of_mem ht hm, amountOf]

lemma get_of_not_listed {t : BalanceTable} (ht : WellFormed t) {address : String}
    (h : address ∉ (getAll t).map Prod.fst) : get t address = .ok 0 := by
  rw [get_eq ht, balanceOf_of_not_mem]
  rintro m hm rfl
  exact h (List.mem_map.mpr ⟨_, List.mem_map_of_mem hm, rfl⟩)

lemma run_canonical (operations : List Operation) : Canonical (operations.foldl apply Table.empty) := by
  have hempty : Canonical Table.empty := ⟨by simp, by simp⟩
  exact visited_invariant (I := Canonical) (fun _ o h => apply_canonical h o) hempty _ (last_visited _ _)

theorem reads_agree (operations : List Operation) :
    let t := operations.foldl apply Table.empty
    (t.values.map Columns.address).Nodup ∧
      (∀ m ∈ t.values, ∃ n : UInt64, m.balance = u64Text n) ∧
      ∀ address, (∀ e, get t address ≠ .error e) ∧
        (∀ n, (address, n) ∈ getAll t → get t address = .ok n) ∧
        (address ∉ (getAll t).map Prod.fst → get t address = .ok 0) := by
  intro t
  have ht : Canonical t := run_canonical operations
  refine ⟨ht.distinct, ht.decimal, fun address => ⟨fun e => ?_, fun n hn => ?_, fun hn => ?_⟩⟩
  · simp [get_eq ht.wellFormed]
  · exact get_of_listed ht.wellFormed hn
  · exact get_of_not_listed ht.wellFormed hn

end ZzP2p.Db.Balance
