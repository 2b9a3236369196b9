import ZzP2p.Lib.HashChain
import ZzP2p.Lib.Sha256
import ZzP2p.Rust.Bytes

/-! The store of epoch allocations. The rows of all epochs stand in one table, and the rows of each
epoch form a hash chain of their own. -/

namespace ZzP2p.Db.EpochAllocation

open Lib Lib.HashChain Rust

structure Columns where
  epoch : Int64
  round : Int64
  address : String
  weight : String
  amount : String
  preHash : String
  hash : String
  createdAt : Int64
deriving DecidableEq

abbrev AllocationTable := Table Columns

structure Args where
  epoch : Int64
  round : Int64
  address : String
  weight : String
  amount : String

def genesis : String := String.ofList (List.replicate 64 '0')

def getByEpoch (t : AllocationTable) (epoch : Int64) : List Columns :=
  t.values.filter (fun r => r.epoch = epoch)

def lastHash (t : AllocationTable) (epoch : Int64) : String :=
  ((getByEpoch t epoch).reverse.head?.map Columns.hash).getD genesis

variable (sha256 : Bytes → Digest)

def rowHash (prevHash : String) (c : Args) (ts : Int64) : String :=
  hex (sha256 (utf8 prevHash ++ leBytes c.epoch.toUInt64 ++ leBytes c.round.toUInt64 ++ utf8 c.address ++
    utf8 c.weight ++ utf8 c.amount ++ leBytes ts.toUInt64))

def insert (t : AllocationTable) (c : Args) (ts : Int64) : String × AllocationTable :=
  let prevHash := lastHash t c.epoch
  let hash := rowHash sha256 prevHash c ts
  (hash, t.insert ⟨c.epoch, c.round, c.address, c.weight, c.amount, prevHash, hash, ts⟩)

def linksHold : List Columns → Bool
  | q :: r :: rows => if r.preHash ≠ q.hash then false else linksHold (r :: rows)
  | _ => true

def verifyChain (t : AllocationTable) (epoch : Int64) : Bool :=
  match getByEpoch t epoch with
  | [] => true
  | r :: rows => if r.preHash ≠ genesis then false else linksHold (r :: rows)

def links : Links Columns String := ⟨Columns.preHash, Columns.hash, genesis⟩

variable {t : AllocationTable} {e : Int64}

lemma linksHold_cons (q : Columns) (rows : List Columns) :
    linksHold (q :: rows) = true ↔ links.LinkedFrom (links.hash q) rows := by
  induction rows generalizing q with
  | nil => simp [linksHold, Links.LinkedFrom]
  | cons r rows ih =>
    rw [linksHold, Links.LinkedFrom, ← ih]
    by_cases hr : r.preHash = q.hash
    · simp [hr, links]
    · simp [hr, links]

lemma verifyChain_iff : verifyChain t e = true ↔ links.LinkedFrom genesis (getByEpoch t e) := by
  rw [verifyChain]
  cases getByEpoch t e with
  | nil => simp [Links.LinkedFrom]
  | cons r rows =>
    rw [Links.LinkedFrom, ← linksHold_cons]
    by_cases hr : r.preHash = genesis
    · simp [hr, links]
    · simp [hr, links]

lemma lastHash_eq : lastHash t e = links.tipFrom genesis (getByEpoch t e) := by
  rw [lastHash, List.head?_reverse]
  rfl

lemma getByEpoch_insert (r : Columns) :
    getByEpoch (t.insert r) e = getByEpoch t e ++ if r.epoch = e then [r] else [] := by
  by_cases hr : r.epoch = e
  · simp [getByEpoch, hr]
  · simp [getByEpoch, hr]

lemma linkedFrom_insert (h : ∀ e, links.LinkedFrom genesis (getByEpoch t e)) (c : Args) (ts e : Int64) :
    links.LinkedFrom genesis (getByEpoch (insert sha256 t c ts).2 e) := by
  rw [insert, getByEpoch_insert, Links.linkedFrom_append]
  refine ⟨h e, ?_⟩
  split
  · next he =>
    refine ⟨?_, trivial⟩
    rw [← lastHash_eq, ← he]
    rfl
  · trivial

theorem verify_chain_accepts_inserts (calls : List (Args × Int64)) (e : Int64) :
    verifyChain (calls.foldl (fun t c => (insert sha256 t c.1 c.2).2) Table.empty) e = true := by
  have hrun : ∀ t : AllocationTable, (∀ e, links.LinkedFrom genesis (getByEpoch t e)) →
      ∀ e, links.LinkedFrom genesis
        (getByEpoch (calls.foldl (fun t c => (insert sha256 t c.1 c.2).2) t) e) := by
    induction calls with
    | nil => exact fun t h => h
    | cons c calls ih => exact fun t h => ih _ (linkedFrom_insert sha256 h c.1 c.2)
  exact verifyChain_iff.mpr (hrun Table.empty (fun _ => trivial) e)

end ZzP2p.Db.EpochAllocation
