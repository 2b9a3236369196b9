import Mathlib.Data.List.Sort
import ZzP2p.Lib.Firsts
import ZzP2p.Protocols.NodeRegistry
import ZzP2p.Rust.Bytes
import ZzP2p.Rust.NetParser

/-! Lists of seeds as they are sent between nodes, with the hash that goes with them. -/

namespace ZzP2p.Protocols

open Rust

structure SeedRecord where
  address : String
  nodeAddress : String
  firstSeen : Int64
deriving DecidableEq

structure SeedsCommand where
  seeds : List SeedRecord
  hash : Digest
deriving DecidableEq

variable (sha256 : Bytes → Digest)

namespace SeedsCommand

def dedup : List SeedRecord → Finset String → List SeedRecord
  | [], _ => []
  | seed :: seeds, seen =>
    if seed.address ∈ seen then dedup seeds seen
    else seed :: dedup seeds (insert seed.address seen)

def hashOf (seeds : List SeedRecord) : Digest :=
  let sorted := seeds.insertionSort (fun a b => a.nodeAddress ≤ b.nodeAddress)
  sha256 (sorted.flatMap (fun seed => utf8 seed.nodeAddress ++ leBytes seed.firstSeen.toUInt64))

def new (seeds : List SeedRecord) : SeedsCommand :=
  let deduped := dedup seeds ∅
  ⟨deduped, hashOf sha256 deduped⟩

def verify (cmd : SeedsCommand) : Bool := hashOf sha256 cmd.seeds = cmd.hash

lemma verify_new (seeds : List SeedRecord) : (new sha256 seeds).verify sha256 = true :=
  decide_eq_true rfl

lemma dedup_eq_firsts (seeds : List SeedRecord) (seen : Finset String) :
    dedup seeds seen = Lib.firsts SeedRecord.address seeds seen := by
  induction seeds generalizing seen with
  | nil => rfl
  | cons seed seeds ih => rw [dedup, Lib.firsts, ih, ih]

lemma mem_of_mem_dedup {seeds : List SeedRecord} {seen : Finset String} {seed : SeedRecord}
    (h : seed ∈ dedup seeds seen) : seed ∈ seeds := by
  rw [dedup_eq_firsts] at h
  exact Lib.firsts_subset h

end SeedsCommand

/-- what the clock shows when the record of a seed is made -/
abbrev Clock := SocketAddr × String → Int64

def seedRecords (now : Clock) (reg : NodeRegistry) : List SeedRecord :=
  reg.getAllSeeds.map (fun p => ⟨p.1.display, p.2, now p⟩)

end ZzP2p.Protocols
