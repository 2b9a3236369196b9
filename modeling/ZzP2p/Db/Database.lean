import ZzP2p.Lib.Numerals
import ZzP2p.Lib.Table

/-! What the stores share: their errors, transactions, unique columns and numbers kept as text.
A transaction dropped without a commit is rolled back. A writing statement meets the clock and the
message of a database that refuses it. -/

namespace ZzP2p.Db

open Lib Lib.Numerals

inductive StoreError
  | anyhow (message : String)
  | parseInt
  | uniqueConstraint
deriving DecidableEq

def inTransaction {σ α : Type} (body : σ → Except StoreError (α × σ)) (s : σ) :
    Except StoreError α × σ :=
  match body s with
  | .ok (a, s') => (.ok a, s')
  | .error e => (.error e, s)

def insertUnique {ρ κ : Type} [DecidableEq κ] (key : ρ → κ) (t : Table ρ) (v : ρ) :
    Except StoreError (Table ρ) :=
  if t.values.any (fun m => key m == key v) then .error .uniqueConstraint else .ok (t.insert v)

structure Statement where
  now : Int64
  refusal : Option String

def insertRow {ρ : Type} (w : Statement) (t : Table ρ) (v : ρ) : Except StoreError ρ × Table ρ :=
  match w.refusal with
  | some message => (.error (.anyhow message), t)
  | none =>
    -- keys are signed 64-bit numbers that are never given out twice
    if t.seq + 1 < 2 ^ 63 then (.ok v, t.insert v)
    else (.error (.anyhow "database or disk is full"), t)

def updateRow {ρ : Type} (w : Statement) (t : Table ρ) (id : ℕ) (f : ρ → ρ) :
    Except StoreError Unit × Table ρ :=
  match w.refusal with
  | some message => (.error (.anyhow message), t)
  | none => (.ok (), t.update id f)

/-- an order of rows; the database is free in the order of rows that come neither before nor after -/
structure OrderBy {ρ : Type} (before : ρ → ρ → Prop) where
  arrange : List ρ → List ρ
  perm : ∀ rows, (arrange rows).Perm rows
  sorted : ∀ rows, (arrange rows).Pairwise before

lemma insertRow_cases {ρ : Type} (w : Statement) (t : Table ρ) (v : ρ) :
    (∃ e, insertRow w t v = (.error e, t)) ∨
      t.seq + 1 < 2 ^ 63 ∧ insertRow w t v = (.ok v, t.insert v) := by
  rw [insertRow]
  split
  · exact Or.inl ⟨_, rfl⟩
  · split
    · next hroom => exact Or.inr ⟨hroom, rfl⟩
    · exact Or.inl ⟨_, rfl⟩

lemma updateRow_cases {ρ : Type} (w : Statement) (t : Table ρ) (id : ℕ) (f : ρ → ρ) :
    (w.refusal ≠ none ∧ ∃ e, updateRow w t id f = (.error e, t)) ∨
      w.refusal = none ∧ updateRow w t id f = (.ok (), t.update id f) := by
  rw [updateRow]
  split
  · next hw => exact Or.inl ⟨by simp [hw], _, rfl⟩
  · next hw => exact Or.inr ⟨hw, rfl⟩

def u64Text (n : UInt64) : String := toString n.toNat

def parseU64 (s : String) : Except StoreError UInt64 :=
  match parseUnsigned (2 ^ 64) s.toList with
  | some n => .ok (UInt64.ofNat n)
  | none => .error .parseInt

@[simp] lemma parseU64_u64Text (n : UInt64) : parseU64 (u64Text n) = .ok n := by
  have ht : (u64Text n).toList = Nat.toDigits 10 n.toNat := Nat.toList_repr
  simp only [parseU64, ht, parseUnsigned_toDigits n.toNat_lt, UInt64.ofNat_toNat]

end ZzP2p.Db
