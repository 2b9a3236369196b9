import ZzP2p.Db.Database
import ZzP2p.Lib.KeyedTable
import ZzP2p.Lib.Service

/-! The store of contacts. The column of the addresses is unique, so that the table is an address book. -/

namespace ZzP2p.Db.Contact

open Lib

structure Columns where
  name : String
  address : String
  createdAt : Int64
  updatedAt : Int64
deriving DecidableEq

abbrev ContactTable := Table Columns

def newRow (now : Int64) (name address : String) : Columns := ⟨name, address, now, now⟩

def add (w : Statement) (t : ContactTable) (name address : String) :
    Except StoreError (ℕ × Columns) × ContactTable :=
  if w.refusal = none ∧ (t.rowAt Columns.address address).isSome then (.error .uniqueConstraint, t)
  else match insertRow w t (newRow w.now name address) with
    | (.ok row, t') => (.ok (t'.seq, row), t')
    | (.error e, t') => (.error e, t')

abbrev ByName := OrderBy (fun q r : ℕ × Columns => q.2.name ≤ r.2.name)

def getAll (order : ByName) (t : ContactTable) : List (ℕ × Columns) := order.arrange t.rows

def findByAddress (t : ContactTable) (address : String) : Option (ℕ × Columns) :=
  t.rowAt Columns.address address

def updateName (w : Statement) (t : ContactTable) (address name : String) :
    Except StoreError Unit × ContactTable :=
  match findByAddress t address with
  | some existing => updateRow w t existing.1 (fun r => { r with name := name, updatedAt := w.now })
  | none => (.ok (), t)

def delete (w : Statement) (t : ContactTable) (address : String) : Except StoreError Unit × ContactTable :=
  match w.refusal with
  | some message => (.error (.anyhow message), t)
  | none => (.ok (), t.delete (fun r => r.address == address))

inductive Call
  | add (w : Statement) (name address : String)
  | updateName (w : Statement) (address name : String)
  | delete (w : Statement) (address : String)

inductive Reply
  | contact (id : ℕ) (row : Columns)
  | done
deriving DecidableEq

def serve (t : ContactTable) : Call → Except StoreError Reply × ContactTable
  | .add w name address =>
    let r := add w t name address
    (r.1.map (fun c => .contact c.1 c.2), r.2)
  | .updateName w address name =>
    let r := updateName w t address name
    (r.1.map (fun _ => .done), r.2)
  | .delete w address =>
    let r := delete w t address
    (r.1.map (fun _ => .done), r.2)

/-- an address book: the entries by address, and the last number given out -/
structure Book where
  seq : ℕ
  entry : String → Option (ℕ × Columns)

namespace Book

def write (b : Book) (address : String) (e : Option (ℕ × Columns)) : Book :=
  { b with entry := Function.update b.entry address e }

def refused (w : Statement) : Option StoreError := w.refusal.map .anyhow

def serve (b : Book) : Call → Except StoreError Reply × Book
  | .add w name address => match refused w with
    | some e => (.error e, b)
    | none =>
      if (b.entry address).isSome then (.error .uniqueConstraint, b)
      else if b.seq + 1 < 2 ^ 63 then
        let row := newRow w.now name address
        (.ok (.contact (b.seq + 1) row), ⟨b.seq + 1, (b.write address (some (b.seq + 1, row))).entry⟩)
      else (.error (.anyhow "database or disk is full"), b)
  | .updateName w address name => match b.entry address with
    | none => (.ok .done, b)
    | some (id, row) => match refused w with
      | some e => (.error e, b)
      | none => (.ok .done, b.write address (some (id, { row with name := name, updatedAt := w.now })))
  | .delete w address => match refused w with
    | some e => (.error e, b)
    | none => (.ok .done, b.write address none)

end Book

structure Holds (t : ContactTable) (b : Book) : Prop where
  unique : t.UniqueKeys Columns.address
  seq : t.seq = b.seq
  entry : ∀ a, findByAddress t a = b.entry a

variable {t : ContactTable} {b : Book}

/-- the answers agree, and the table holds the book afterwards -/
def Agree (t : ContactTable) (b : Book) (c : Call) : Prop :=
  (serve t c).1 = (b.serve c).1 ∧ Holds (serve t c).2 (b.serve c).2

lemma Holds.write (h : Holds t b) {t' : ContactTable} {address : String} {e : Option (ℕ × Columns)} {n : ℕ}
    (hu : t'.UniqueKeys Columns.address) (hn : t'.seq = n)
    (hrow : ∀ a, t'.rowAt Columns.address a = if a = address then e else t.rowAt Columns.address a) :
    Holds t' ⟨n, (b.write address e).entry⟩ := by
  refine ⟨hu, hn, fun a => ?_⟩
  rw [findByAddress, hrow]
  by_cases ha : a = address
  · simp [Book.write, ha]
  · simp only [Book.write, ha, if_false, Function.update_of_ne, ne_eq, not_false_eq_true]
    exact h.entry a

lemma Holds.add (h : Holds t b) (w : Statement) (name address : String) :
    Agree t b (.add w name address) := by
  have hentry : t.rowAt Columns.address address = b.entry address := h.entry address
  have hseq := h.seq
  cases hw : w.refusal with
  | some message =>
    simp only [Agree, serve, Contact.add, insertRow, Book.serve, Book.refused, hw]
    exact ⟨rfl, h⟩
  | none =>
    cases hold : b.entry address with
    | some e =>
      simp only [Agree, serve, Contact.add, Book.serve, Book.refused, hw, hentry, hold]
      exact ⟨rfl, h⟩
    | none =>
      have hfresh : t.rowAt Columns.address (newRow w.now name address).address = none := hentry.trans hold
      by_cases hroom : b.seq + 1 < 2 ^ 63
      · simp only [Agree, serve, Contact.add, insertRow, Book.serve, Book.refused, hw, hentry, hold, hseq,
          hroom, Option.map_none, Option.isSome_none, Bool.false_eq_true, and_false, if_false, if_true]
        refine ⟨by simp [Except.map, Table.insert, hseq], ?_⟩
        apply h.write (h.unique.insert hfresh) (by simp [Table.insert, hseq])
        intro a
        rw [Table.rowAt_insert hfresh, hseq]
        rfl
      · simp only [Agree, serve, Contact.add, insertRow, Book.serve, Book.refused, hw, hentry, hold, hseq,
          hroom, Option.map_none, Option.isSome_none, Bool.false_eq_true, and_false, if_false]
        exact ⟨rfl, h⟩

lemma Holds.updateName (h : Holds t b) (w : Statement) (address name : String) :
    Agree t b (.updateName w address name) := by
  have hentry := h.entry address
  cases hold : b.entry address with
  | none =>
    simp only [Agree, serve, Contact.updateName, Book.serve, hentry, hold]
    exact ⟨rfl, h⟩
  | some e =>
    cases hw : w.refusal with
    | some message =>
      simp only [Agree, serve, Contact.updateName, updateRow, Book.serve, Book.refused, hentry, hold, hw]
      exact ⟨rfl, h⟩
    | none =>
      have hkey : ∀ r : Columns, ({ r with name := name, updatedAt := w.now } : Columns).address = r.address :=
        fun _ => rfl
      simp only [Agree, serve, Contact.updateName, updateRow, Book.serve, Book.refused, hentry, hold, hw]
      refine ⟨rfl, h.write (h.unique.update hkey e.1) h.seq ?_⟩
      exact Table.rowAt_update h.unique (hentry.trans hold) hkey

lemma Holds.delete (h : Holds t b) (w : Statement) (address : String) : Agree t b (.delete w address) := by
  cases hw : w.refusal with
  | some message =>
    simp only [Agree, serve, Contact.delete, Book.serve, Book.refused, hw]
    exact ⟨rfl, h⟩
  | none =>
    simp only [Agree, serve, Contact.delete, Book.serve, Book.refused, hw]
    exact ⟨rfl, h.write (h.unique.delete _) h.seq (Table.rowAt_delete t address)⟩

lemma serve_follows : Service.Follows Holds serve Book.serve := by
  intro t b c h
  cases c with
  | add w name address => exact h.add w name address
  | updateName w address name => exact h.updateName w address name
  | delete w address => exact h.delete w address

structure Shows (b : Book) (contacts : List (ℕ × Columns)) : Prop where
  once : (contacts.map (fun c => c.2.address)).Nodup
  sorted : contacts.Pairwise (fun c d => c.2.name ≤ d.2.name)
  entries : ∀ c, c ∈ contacts ↔ b.entry c.2.address = some c

lemma Holds.getAll (h : Holds t b) (order : ByName) : Shows b (getAll order t) := by
  have hperm := order.perm t.rows
  constructor
  · rw [Contact.getAll, (hperm.map _).nodup_iff]
    exact List.pairwise_map.mpr h.unique
  · exact order.sorted t.rows
  · intro c
    rw [Contact.getAll, hperm.mem_iff, ← h.entry, findByAddress, Table.rowAt_eq_some h.unique]
    exact ⟨fun hc => ⟨hc, rfl⟩, fun hc => hc.1⟩

theorem contacts_follow_book (h : Holds t b) (calls : List Call) :
    Service.answers serve t calls = Service.answers Book.serve b calls ∧
      (∀ a, findByAddress (Service.after serve t calls) a = (Service.after Book.serve b calls).entry a) ∧
      ∀ order, Shows (Service.after Book.serve b calls) (getAll order (Service.after serve t calls)) := by
  have hafter := Service.after_related serve_follows h calls
  exact ⟨Service.answers_eq serve_follows h calls, hafter.entry, hafter.getAll⟩

lemma holds_empty : Holds Table.empty ⟨0, fun _ => none⟩ :=
  ⟨Table.uniqueKeys_empty, rfl, fun _ => rfl⟩

theorem contacts_follow_book_twice :
    Service.answers serve Table.empty [.add ⟨5, none⟩ "Ann" "a", .add ⟨6, none⟩ "Bob" "a"] =
      [.ok (.contact 1 ⟨"Ann", "a", 5, 5⟩), .error .uniqueConstraint] := by
  rw [(contacts_follow_book holds_empty [.add ⟨5, none⟩ "Ann" "a", .add ⟨6, none⟩ "Bob" "a"]).1]
  rfl

end ZzP2p.Db.Contact
