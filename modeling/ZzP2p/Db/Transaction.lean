import ZzP2p.Lib.HashChain
import ZzP2p.Lib.Sha256
import ZzP2p.Rust.Bytes

/-! The transaction store. A call of `insert_with_next_hash` queries the last hash and inserts its
row in a second statement, outside any database transaction. -/

namespace ZzP2p.Db.Transaction

open Lib Lib.Runs Lib.HashChain Rust

inductive TxType
  | transfer
  | mint
  | burn
deriving DecidableEq

def TxType.intoValue : TxType → String
  | .transfer => "transfer"
  | .mint => "mint"
  | .burn => "burn"

def preHash : String := String.ofList (List.replicate 32 '0')

structure Columns where
  epoch : Int64
  cycle : Int64
  txType : TxType
  fromAddress : String
  toAddress : String
  amount : String
  timestamp : Int64
  preHash : String
  hash : String
  shardKey : String

abbrev TransactionTable := Table Columns

structure Args where
  epoch : Int64
  cycle : Int64
  txType : TxType
  fromAddr : String
  toAddr : String
  amount : Int64
  shardKey : String
  timestamp : Int64

def links : Links Columns String := ⟨Columns.preHash, Columns.hash, preHash⟩

def lastHash (t : TransactionTable) : String := (t.last?.map Columns.hash).getD preHash

def hashInput (prevHash : String) (c : Args) : Bytes :=
  utf8 prevHash ++ leBytes c.epoch.toUInt64 ++ leBytes c.cycle.toUInt64 ++
    utf8 c.txType.intoValue ++ utf8 c.fromAddr ++ utf8 c.toAddr ++ utf8 (toString c.amount.toInt)

variable (sha256 : Bytes → Digest)

def newRow (c : Args) (prevHash : String) : Columns where
  epoch := c.epoch
  cycle := c.cycle
  txType := c.txType
  fromAddress := c.fromAddr
  toAddress := c.toAddr
  amount := toString c.amount.toInt
  timestamp := c.timestamp
  preHash := prevHash
  hash := hex (sha256 (hashInput prevHash c))
  shardKey := c.shardKey

def insertWithNextHash (t : TransactionTable) (c : Args) : String × TransactionTable :=
  let prevHash := lastHash t
  let am := newRow sha256 c prevHash
  (am.hash, t.insert am)

def Unforked (t : TransactionTable) : Prop :=
  (∀ r ∈ t.values.head?, r.preHash = preHash) ∧ t.values.IsChain (fun q r => r.preHash = q.hash)

def callStep (calls : ℕ → Args) : Writers Columns String → Action → Writers Columns String :=
  step links (fun i h => newRow sha256 (calls i) h)

lemma callStep_alone (calls : ℕ → Args) (i : ℕ) {s : Writers Columns String}
    (hs : s.phase i = .start) :
    (([.read i, .append i] : List Action).foldl (callStep sha256 calls) s).table =
      (insertWithNextHash sha256 s.table (calls i)).2 :=
  read_append i hs

theorem unforked_of_uninterrupted (calls : ℕ → Args) (t : TransactionTable) (ht : Unforked t)
    (schedule : List Action)
    (hu : Guarded (callStep sha256 calls) Uninterrupted ⟨t, fun _ => .start⟩ schedule) :
    ∀ s ∈ visited (callStep sha256 calls) ⟨t, fun _ => .start⟩ schedule, Unforked s.table :=
  linked_of_uninterrupted (L := links) (fun _ _ => rfl) ht hu

def twoCalls : ℕ → Args := fun _ => ⟨0, 0, .transfer, "a", "b", 1, "", 0⟩

def inTurn : List Action := [.read 0, .append 0, .read 1, .append 1]

theorem unforked_two_calls :
    (inTurn.foldl (callStep Sha256.digest twoCalls)
        ⟨Table.empty, fun _ => .start⟩).table.values.length = 2 ∧
      ∀ s ∈ visited (callStep Sha256.digest twoCalls) ⟨Table.empty, fun _ => .start⟩ inTurn,
        Unforked s.table := by
  refine ⟨rfl, ?_⟩
  refine unforked_of_uninterrupted _ twoCalls Table.empty ⟨by simp, by simp⟩ _ ?_
  refine ⟨trivial, ?_, trivial, ?_, trivial⟩
  all_goals
    intro h n hp
    obtain ⟨-, rfl⟩ := Phase.read.inj hp
    rfl

theorem concurrent_calls_fork :
    ¬ ∀ (sha256 : Bytes → Digest) (calls : ℕ → Args) (schedule : List Action),
      Unforked (schedule.foldl (callStep sha256 calls) ⟨Table.empty, fun _ => .start⟩).table := by
  intro h
  have hc := (h Sha256.digest twoCalls [.read 0, .read 1, .append 0, .append 1]).2
  have hf : preHash = hex (Sha256.digest (hashInput preHash (twoCalls 0))) :=
    (List.isChain_cons_cons.mp hc).1
  -- the genesis mark has half the length of a digest
  have hl := hex_length (Sha256.digest (hashInput preHash (twoCalls 0)))
  rw [← hf] at hl
  exact absurd hl (by decide)

end ZzP2p.Db.Transaction
