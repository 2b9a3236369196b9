import ZzP2p.Db.Database

/-! The balance store: one row per address, the amount kept as decimal text. -/

namespace ZzP2p.Db.Balance

open Lib

structure Columns where
  address : String
  balance : String
  updatedAt : ℤ
deriving DecidableEq

abbrev BalanceTable := Table Columns

def get (t : BalanceTable) (address : String) : Except StoreError UInt64 :=
  match t.find? (fun m => m.address == address) with
  | some m => parseU64 m.2.balance
  | none => .ok 0

def set (now : ℤ) (t : BalanceTable) (address : String) (amount : UInt64) :
    Except StoreError BalanceTable :=
  match t.find? (fun m => m.address == address) with
  -- the update names the balance column only, so `updatedAt` stays what it was
  | some existing => .ok (t.update existing.1 (fun m => { m with balance := u64Text amount }))
  | none => insertUnique Columns.address t ⟨address, u64Text amount, now⟩

def transferBody (now : ℤ) (fromAddr toAddr : String) (amount : UInt64) (t : BalanceTable) :
    Except StoreError (Unit × BalanceTable) := do
  let fromBalance ← get t fromAddr
  if fromBalance < amount then throw (.anyhow "insufficient funds")
  let toBalance ← get t toAddr
  let t ← set now t fromAddr (fromBalance - amount)
  let t ← set now t toAddr (toBalance + amount)
  return ((), t)

def transfer (now : ℤ) (t : BalanceTable) (fromAddr toAddr : String) (amount : UInt64) :
    Except StoreError Unit × BalanceTable :=
  if amount = 0 then (.error (.anyhow "transfer amount must > 0"), t)
  else inTransaction (transferBody now fromAddr toAddr amount) t

def getAll (t : BalanceTable) : List (String × UInt64) :=
  t.values.map (fun m => (m.address, (parseU64 m.balance).toOption.getD 0))

structure WellFormed (t : BalanceTable) : Prop where
  distinct : (t.values.map Columns.address).Nodup
  parses : ∀ m ∈ t.values, ∃ n, parseU64 m.balance = .ok n

def amountOf (m : Columns) : UInt64 := (parseU64 m.balance).toOption.getD 0

def balanceOf (t : BalanceTable) (address : String) : UInt64 :=
  ((t.find? (fun m => m.address == address)).map (fun m => amountOf m.2)).getD 0

def supply (t : BalanceTable) : ℕ := ((getAll t).map (fun e => e.2.toNat)).sum

lemma supply_eq (t : BalanceTable) : supply t = (t.values.map (fun m => (amountOf m).toNat)).sum := by
  simp [supply, getAll, amountOf, Function.comp_def]

lemma mem_values_of_rows {t : BalanceTable} {r : ℕ × Columns} (hr : r ∈ t.rows) : r.2 ∈ t.values :=
  List.mem_map_of_mem hr

lemma get_eq {t : BalanceTable} (ht : WellFormed t) (address : String) :
    get t address = .ok (balanceOf t address) := by
  simp only [get, balanceOf]
  cases hf : t.find? (fun m => m.address == address) with
  | none => rfl
  | some r =>
    obtain ⟨n, hn⟩ := ht.parses _ (mem_values_of_rows (Table.find?_eq_some hf).1)
    simp [amountOf, hn, Except.toOption]

lemma balanceOf_of_mem {t : BalanceTable} (ht : WellFormed t) {m : Columns} (hm : m ∈ t.values) :
    balanceOf t m.address = amountOf m := by
  simp only [balanceOf]
  cases hf : t.find? (fun c => c.address == m.address) with
  | none => simpa using Table.find?_eq_none hf m hm
  | some r =>
    obtain ⟨hr, ha⟩ := Table.find?_eq_some hf
    have he : r.2 = m :=
      List.inj_on_of_nodup_map ht.distinct (mem_values_of_rows hr) hm (by simpa using ha)
    simp [he]

lemma balanceOf_of_not_mem {t : BalanceTable} {address : String}
    (h : ∀ m ∈ t.values, m.address ≠ address) : balanceOf t address = 0 := by
  simp only [balanceOf]
  cases hf : t.find? (fun c => c.address == address) with
  | none => rfl
  | some r =>
    obtain ⟨hr, ha⟩ := Table.find?_eq_some hf
    exact (h r.2 (mem_values_of_rows hr) (by simpa using ha)).elim

end ZzP2p.Db.Balance
