import ZzP2p.Lib.Upsert
import ZzP2p.Protocols.RegistryMerge
import ZzP2p.Protocols.SeedMerge

/-! The witness ring: ticks that compare the hash of the ring, and what is stored when the ring is
locked. -/

namespace ZzP2p.Witness

open Rust Lib.Upsert Protocols

structure TickCommand where
  seeds : Option SeedsCommand
  ringHash : Digest

structure WitnessEntry where
  address : String
  seedAddr : String
  weight : UInt64
  status : String
  lastTickTs : UInt64
  rank : UInt32
deriving DecidableEq

structure BalanceEntry where
  address : String
  balance : UInt64
  updatedAt : UInt64
deriving DecidableEq

/-- The slots of the global context are found by their type: the counter and the remembered hash are
empty at first, the two tables are taken to be empty when they are missing. -/
structure State where
  registry : NodeRegistry
  count : Option UInt32
  hash : Option Digest
  witnesses : List WitnessEntry
  balances : List BalanceEntry

/-- the order in which a map of the registry is iterated -/
structure Order where
  arrange : List SeedRecord → List SeedRecord
  perm : ∀ l, (arrange l).Perm l

/-- What handling a tick meets: operations on the registry before the ring is read, the order of the
iteration and the clocks. -/
structure Handling where
  during : List NodeRegistry.Operation
  order : Order
  firstSeen : Clock
  now : UInt64

def WITNESS_RING_STABLE_ROUNDS : UInt32 := 2

variable (sha256 : Bytes → Digest)

def computeWitnessRingHash (seeds : List SeedRecord) : Digest :=
  sha256 (((seeds.map SeedRecord.address).insertionSort (· ≤ ·)).flatMap utf8)

def getWitnessRingFromRegistry (order : Order) (firstSeen : Clock) (reg : NodeRegistry) : List SeedRecord :=
  order.arrange (seedRecords firstSeen reg)

def registryAt (s : State) (tick : TickCommand) (h : Handling) : NodeRegistry :=
  h.during.foldl NodeRegistry.operate (tick.seeds.elim s.registry (tickMerge sha256 s.registry))

def getWitnessRing (s : State) (tick : TickCommand) (h : Handling) : List SeedRecord :=
  h.order.arrange (seedRecords h.firstSeen (registryAt sha256 s tick h))

def witnessOf (now : UInt64) (seed : SeedRecord) (i : ℕ) : WitnessEntry :=
  ⟨seed.nodeAddress, seed.address, 1, "active", now, UInt32.ofNat i⟩

def storeWitness (now : UInt64) (existing : List WitnessEntry) (p : SeedRecord × ℕ) : List WitnessEntry :=
  upsert WitnessEntry.address p.1.nodeAddress (fun _ => witnessOf now p.1 p.2) existing

def storeWitnesses (now : UInt64) (ring : List SeedRecord) (existing : List WitnessEntry) :
    List WitnessEntry :=
  ring.zipIdx.foldl (storeWitness now) existing

def perWitness (ring : List SeedRecord) : UInt64 :=
  if 0 < ring.length then 1000 / UInt64.ofNat ring.length else 0

def creditEntry (now reward : UInt64) (address : String) : Option BalanceEntry → BalanceEntry
  | some b => { b with balance := b.balance + reward }
  | none => ⟨address, reward, now⟩

def credit (now reward : UInt64) (balances : List BalanceEntry) (seed : SeedRecord) : List BalanceEntry :=
  upsert BalanceEntry.address seed.nodeAddress (creditEntry now reward seed.nodeAddress) balances

def distribute (now : UInt64) (ring : List SeedRecord) (balances : List BalanceEntry) : List BalanceEntry :=
  ring.foldl (credit now (perWitness ring)) balances

def lockWitnessRing (s : State) (ring : List SeedRecord) (hash : Digest) (now : UInt64) : State :=
  { s with
    witnesses := storeWitnesses now ring s.witnesses
    hash := some hash
    balances := distribute now ring s.balances }

/-- the counter and the remembered hash after a tick that agrees, and whether the ring is stable -/
def countStable (s : State) (localHash : Digest) : State × Bool :=
  if s.hash = some localHash then
    let newCount := s.count.getD 0 + 1
    ({ s with count := some newCount }, WITNESS_RING_STABLE_ROUNDS ≤ newCount)
  else ({ s with count := some 1, hash := some localHash }, false)

def tickHandler (s : State) (tick : TickCommand) (h : Handling) : State × Option (List SeedRecord) :=
  let ring := getWitnessRing sha256 s tick h
  let localHash := computeWitnessRingHash sha256 ring
  let s := { s with registry := registryAt sha256 s tick h }
  if localHash = tick.ringHash then
    let (s, stable) := countStable s localHash
    if stable then (lockWitnessRing s ring localHash h.now, some ring) else (s, none)
  else (s, none)

inductive Event
  | tick (tick : TickCommand) (h : Handling)
  | operate (o : NodeRegistry.Operation)

def step (s : State) : Event → State
  | .tick tick h => (tickHandler sha256 s tick h).1
  | .operate o => { s with registry := s.registry.operate o }

def locked (s : State) : Event → Option (List SeedRecord)
  | .tick tick h => (tickHandler sha256 s tick h).2
  | .operate _ => none

def nodes (ring : List SeedRecord) : List String := ring.map SeedRecord.nodeAddress

def start : State := ⟨.empty, none, none, [], []⟩

def oneRing : List SeedRecord := [⟨"1.2.3.4:80", "n", 0⟩]

lemma countStable_cases (s : State) (localHash : Digest) :
    (s.hash = some localHash ∧ ∃ n, countStable s localHash =
        ({ s with count := some n }, decide (WITNESS_RING_STABLE_ROUNDS ≤ n))) ∨
      (s.hash ≠ some localHash ∧ countStable s localHash =
        ({ s with count := some 1, hash := some localHash }, false)) := by
  rw [countStable]
  split
  · next hh => exact Or.inl ⟨hh, _, rfl⟩
  · next hh => exact Or.inr ⟨hh, rfl⟩

lemma tickHandler_cases (s : State) (tick : TickCommand) (h : Handling) :
    let ring := getWitnessRing sha256 s tick h
    let localHash := computeWitnessRingHash sha256 ring
    let s' := { s with registry := registryAt sha256 s tick h }
    (localHash ≠ tick.ringHash ∧ tickHandler sha256 s tick h = (s', none)) ∨
    (localHash = tick.ringHash ∧ ∃ n, tickHandler sha256 s tick h =
      ({ s' with count := some n, hash := some localHash }, none)) ∨
    (localHash = tick.ringHash ∧ s.hash = some localHash ∧ ∃ n, tickHandler sha256 s tick h =
      (lockWitnessRing { s' with count := some n } ring localHash h.now, some ring)) := by
  intro ring localHash s'
  by_cases heq : localHash = tick.ringHash
  · right
    have hhandler : tickHandler sha256 s tick h =
        if (countStable s' localHash).2 then
          (lockWitnessRing (countStable s' localHash).1 ring localHash h.now, some ring)
        else ((countStable s' localHash).1, none) := if_pos heq
    rcases countStable_cases s' localHash with ⟨hh, n, hc⟩ | ⟨-, hc⟩
    · rw [hc] at hhandler
      by_cases hn : WITNESS_RING_STABLE_ROUNDS ≤ n
      · right
        refine ⟨heq, hh, n, ?_⟩
        rw [hhandler, if_pos (decide_eq_true hn)]
      · left
        refine ⟨heq, n, ?_⟩
        rw [hhandler, if_neg (by simpa using hn), ← hh]
    · left
      refine ⟨heq, 1, ?_⟩
      rw [hhandler, hc]
      rfl
  · exact Or.inl ⟨heq, if_neg heq⟩

section Agreement

variable {sha256} {s : State} {tick : TickCommand} {h : Handling}

lemma tickHandler_disagreeing
    (hne : computeWitnessRingHash sha256 (getWitnessRing sha256 s tick h) ≠ tick.ringHash) :
    tickHandler sha256 s tick h = ({ s with registry := registryAt sha256 s tick h }, none) := if_neg hne

lemma tickHandler_first
    (heq : computeWitnessRingHash sha256 (getWitnessRing sha256 s tick h) = tick.ringHash)
    (hh : s.hash = none) : tickHandler sha256 s tick h =
      (⟨registryAt sha256 s tick h, some 1, some tick.ringHash, s.witnesses, s.balances⟩, none) := by
  simp [tickHandler, heq, countStable, hh]

lemma tickHandler_second
    (heq : computeWitnessRingHash sha256 (getWitnessRing sha256 s tick h) = tick.ringHash)
    (hh : s.hash = some tick.ringHash) (hc : s.count = some 1) :
    (tickHandler sha256 s tick h).2 = some (getWitnessRing sha256 s tick h) := by
  have hstable : WITNESS_RING_STABLE_ROUNDS ≤ 2 := by decide
  simp [tickHandler, heq, countStable, hh, hc, hstable]

end Agreement

end ZzP2p.Witness
