import ZzP2p.Lib.ReadModifyWrite
import ZzP2p.Witness.Ring

/-! The rewards of several locks of the ring that run at once. Each takes the whole table of balances,
credits the witnesses in its copy and puts the copy back. -/

namespace ZzP2p.Witness

open Lib Lib.Runs Lib.Upsert Lib.ReadModifyWrite Protocols

def balanceOf (balances : List BalanceEntry) (a : String) : ℕ :=
  ((get BalanceEntry.address a balances).map (fun b => b.balance.toNat)).getD 0

def reward (ring : List SeedRecord) (a : String) : ℕ := (perWitness ring).toNat * (nodes ring).count a

structure Lock where
  ring : List SeedRecord
  now : UInt64

def lockBalances {k : ℕ} (locks : Fin k → Lock) (i : Fin k) (balances : List BalanceEntry) :
    List BalanceEntry :=
  distribute (locks i).now (locks i).ring balances

def tableStep {k : ℕ} (locks : Fin k → Lock) :
    Shared (Fin k) (List BalanceEntry) → Action (Fin k) → Shared (Fin k) (List BalanceEntry) :=
  ReadModifyWrite.step (lockBalances locks)

lemma tableStep_alone {k : ℕ} (locks : Fin k → Lock) (i : Fin k) {s : State}
    {t : Shared (Fin k) (List BalanceEntry)} (ht : t.phase i = .start) (hs : s.balances = t.value)
    (hash : Rust.Digest) : ([.read i, .write i].foldl (tableStep locks) t).value =
      (lockWitnessRing s (locks i).ring hash (locks i).now).balances := by
  rw [tableStep, read_write i ht, ← hs]
  rfl

lemma keepsKey_creditEntry (now r : UInt64) (a : String) :
    KeepsKey BalanceEntry.address a (creditEntry now r a) := by
  intro o ho
  cases o with
  | none => rfl
  | some b => exact ho b rfl

/-- the balance as it is stored; the code adds to it modulo `2 ^ 64` -/
def amount (balances : List BalanceEntry) (a : String) : UInt64 :=
  ((get BalanceEntry.address a balances).map (fun b => b.balance)).getD 0

lemma balanceOf_eq (balances : List BalanceEntry) (a : String) :
    balanceOf balances a = (amount balances a).toNat := by
  rw [balanceOf, amount]
  cases get BalanceEntry.address a balances with
  | none => rfl
  | some b => rfl

lemma amount_credit {now r : UInt64} {balances : List BalanceEntry} {seed : SeedRecord} {a : String} :
    amount (credit now r balances seed) a =
      if a = seed.nodeAddress then amount balances a + r else amount balances a := by
  rw [amount, credit, get_upsert (keepsKey_creditEntry now r _)]
  split
  · next ha =>
    rw [← ha, amount]
    cases get BalanceEntry.address a balances with
    | none => simp [creditEntry]
    | some b => rfl
  · rfl

/-- Each record of the ring pays its node once, so a node with several sockets is paid several times. -/
lemma amount_foldl_credit {now r : UInt64} {a : String} (ring : List SeedRecord)
    {balances : List BalanceEntry} : amount (ring.foldl (credit now r) balances) a =
      amount balances a + r * UInt64.ofNat ((nodes ring).count a) := by
  induction ring generalizing balances with
  | nil => simp [nodes]
  | cons seed ring ih =>
    rw [List.foldl_cons, ih, amount_credit]
    by_cases ha : a = seed.nodeAddress
    · have hcount : (nodes (seed :: ring)).count a = (nodes ring).count a + 1 := by
        simp [nodes, ha]
      rw [if_pos ha, hcount, UInt64.ofNat_add, UInt64.mul_add, UInt64.add_assoc, UInt64.add_comm r]
      simp
    · have hcount : (nodes (seed :: ring)).count a = (nodes ring).count a := by
        simp [nodes, Ne.symm ha]
      rw [if_neg ha, hcount]

lemma balanceOf_foldl_credit {now r : UInt64} {a : String} (ring : List SeedRecord)
    {balances : List BalanceEntry} (h : balanceOf balances a + r.toNat * (nodes ring).count a < 2 ^ 64) :
    balanceOf (ring.foldl (credit now r) balances) a =
      balanceOf balances a + r.toNat * (nodes ring).count a := by
  rw [balanceOf_eq] at h ⊢
  rw [balanceOf_eq, amount_foldl_credit, UInt64.toNat_add, UInt64.toNat_mul, UInt64.toNat_ofNat',
    Nat.mul_mod_mod, Nat.add_mod_mod]
  exact Nat.mod_eq_of_lt h

lemma balanceOf_lockBalances {k : ℕ} {locks : Fin k → Lock} {i : Fin k} {balances : List BalanceEntry}
    {a : String} (h : balanceOf balances a + reward (locks i).ring a < 2 ^ 64) :
    balanceOf (lockBalances locks i balances) a = balanceOf balances a + reward (locks i).ring a :=
  balanceOf_foldl_credit (locks i).ring h

theorem rewards_not_lost {k : ℕ} (locks : Fin k → Lock) (balances : List BalanceEntry)
    (schedule : List (Action (Fin k)))
    (hroom : ∀ a, balanceOf balances a + ∑ i, reward (locks i).ring a < 2 ^ 64)
    (hcurrent : Guarded (tableStep locks) Current (fresh balances) schedule)
    (hfinished : Finished (schedule.foldl (tableStep locks) (fresh balances))) (a : String) :
    balanceOf (schedule.foldl (tableStep locks) (fresh balances)).value a =
      balanceOf balances a + ∑ i, reward (locks i).ring a := by
  apply weigh_finished (fun b => balanceOf b a)
  · intro i v h
    exact balanceOf_lockBalances h
  · exact hroom a
  · exact hcurrent
  · exact hfinished

def twoLocks (_ : Fin 2) : Lock := ⟨oneRing, 0⟩

theorem rewards_one_after_another : balanceOf ([.read 0, .write 0, .read 1, .write 1].foldl
    (tableStep twoLocks) (fresh [])).value "n" = 2000 := by
  have hcredit : ∀ a, ∑ i, reward (twoLocks i).ring a ≤ 2000 := by
    intro a
    rw [Fin.sum_univ_two]
    have hone : reward oneRing a ≤ 1000 := by
      simp only [reward, oneRing, nodes, List.map_cons, List.map_nil, List.count_cons, List.count_nil]
      split <;> decide
    show reward oneRing a + reward oneRing a ≤ 2000
    omega
  rw [rewards_not_lost]
  · decide
  · intro a
    have hempty : balanceOf [] a = 0 := rfl
    have := hcredit a
    omega
  · refine ⟨trivial, ?_, trivial, ?_, trivial⟩
    · rintro copy h
      exact (Phase.read.inj h).symm
    · rintro copy h
      exact (Phase.read.inj h).symm
  · intro i
    fin_cases i <;> rfl

theorem rewards_lost : ¬ ∀ (k : ℕ) (locks : Fin k → Lock) (balances : List BalanceEntry)
    (schedule : List (Action (Fin k))),
    Finished (schedule.foldl (tableStep locks) (fresh balances)) →
    ∀ a, balanceOf (schedule.foldl (tableStep locks) (fresh balances)).value a =
      balanceOf balances a + ∑ i, reward (locks i).ring a := by
  intro h
  have hfinished : Finished ([.read 0, .read 1, .write 0, .write 1].foldl (tableStep twoLocks) (fresh [])) := by
    intro i
    fin_cases i <;> rfl
  have hlast := h 2 twoLocks [] [.read 0, .read 1, .write 0, .write 1] hfinished "n"
  have hvalue : balanceOf ([.read 0, .read 1, .write 0, .write 1].foldl (tableStep twoLocks)
    (fresh [])).value "n" = 1000 := by decide
  rw [hvalue] at hlast
  revert hlast
  decide

end ZzP2p.Witness
