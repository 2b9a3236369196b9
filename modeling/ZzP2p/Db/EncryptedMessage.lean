import ZzP2p.Db.Database
import ZzP2p.Db.Transaction
import ZzP2p.Lib.Runs

/-! The store of encrypted messages. A message that its receiver deletes leaves the inbox and keeps its
status, and the count of unread messages looks at the status only. -/

namespace ZzP2p.Db.EncryptedMessage

open Lib Lib.Runs Rust

structure Columns where
  msgId : String
  fromAddress : String
  toAddress : String
  encryptedContent : Bytes
  nonce : Bytes
  ephemeralPk : Bytes
  createdAt : Int64
  sizeBytes : Int64
  status : String
  deletedBySender : Bool
  deletedByReceiver : Bool
  preHash : String
  hash : String
deriving DecidableEq

abbrev MessageTable := Table Columns

variable (sha256 : Bytes → Digest)

def computeHash (msgId fromAddr toAddr : String) (content : Bytes) (createdAt : Int64) (preHash : String) :
    String :=
  hex (sha256 (utf8 msgId ++ utf8 fromAddr ++ utf8 toAddr ++ content ++ leBytes createdAt.toUInt64 ++
    utf8 preHash))

structure NewMessage where
  msgId : String
  fromAddress : String
  toAddress : String
  encryptedContent : Bytes
  nonce : Bytes
  ephemeralPk : Bytes

def newRow (now : Int64) (m : NewMessage) : Columns where
  msgId := m.msgId
  fromAddress := m.fromAddress
  toAddress := m.toAddress
  encryptedContent := m.encryptedContent
  nonce := m.nonce
  ephemeralPk := m.ephemeralPk
  createdAt := now
  sizeBytes := Int64.ofNat m.encryptedContent.length
  status := "unread"
  deletedBySender := false
  deletedByReceiver := false
  preHash := Transaction.preHash
  hash := computeHash sha256 m.msgId m.fromAddress m.toAddress m.encryptedContent now Transaction.preHash

def insert (w : Statement) (t : MessageTable) (m : NewMessage) : Except StoreError Columns × MessageTable :=
  insertRow w t (newRow sha256 w.now m)

abbrev ByCreatedAt := OrderBy (fun q r : Columns => q.createdAt ≤ r.createdAt)

def getForRecipient (order : ByCreatedAt) (t : MessageTable) (address : String) : List Columns :=
  order.arrange (t.values.filter (fun r => r.toAddress == address && !r.deletedByReceiver))

def getUnreadCount (t : MessageTable) (address : String) : ℕ :=
  t.values.countP (fun r => r.toAddress == address && r.status == "unread")

/-- the part that three methods share: a message is looked up and changed -/
def change (w : Statement) (t : MessageTable) (p : Columns → Bool) (f : Columns → Columns) :
    Except StoreError Unit × MessageTable :=
  match t.find? p with
  | some record => updateRow w t record.1 f
  | none => (.error (.anyhow "message not found"), t)

def read (r : Columns) : Columns := { r with status := "read" }

def receivedBy (msgId receiver : String) (r : Columns) : Bool := r.msgId == msgId && r.toAddress == receiver

def markRead (w : Statement) (t : MessageTable) (msgId recipient : String) :
    Except StoreError Unit × MessageTable :=
  change w t (receivedBy msgId recipient) read

def deleteBySender (w : Statement) (t : MessageTable) (msgId sender : String) :
    Except StoreError Unit × MessageTable :=
  change w t (fun r => r.msgId == msgId && r.fromAddress == sender)
    (fun r => { r with deletedBySender := true })

def deleteByReceiver (w : Statement) (t : MessageTable) (msgId receiver : String) :
    Except StoreError Unit × MessageTable :=
  change w t (receivedBy msgId receiver) (fun r => { r with deletedByReceiver := true })

/-- the loop of `mark_read_all`, which the first refused update ends -/
def readEach (w : ℕ → Statement) : List (ℕ × Columns) → MessageTable → Except StoreError Unit × MessageTable
  | [], t => (.ok (), t)
  | record :: records, t =>
    match updateRow (w record.1) t record.1 read with
    | (.ok _, t) => readEach w records t
    | (.error e, t) => (.error e, t)

def markReadAll (w : ℕ → Statement) (t : MessageTable) (address : String) :
    Except StoreError Unit × MessageTable :=
  readEach w (t.rows.filter (fun r => r.2.toAddress == address && r.2.status == "unread")) t

inductive Call
  | insert (w : Statement) (m : NewMessage)
  | markRead (w : Statement) (msgId recipient : String)
  | markReadAll (w : ℕ → Statement) (address : String)
  | deleteBySender (w : Statement) (msgId sender : String)
  | deleteByReceiver (w : Statement) (msgId receiver : String)

def call (t : MessageTable) : Call → MessageTable
  | .insert w m => (insert sha256 w t m).2
  | .markRead w msgId recipient => (markRead w t msgId recipient).2
  | .markReadAll w address => (markReadAll w t address).2
  | .deleteBySender w msgId sender => (deleteBySender w t msgId sender).2
  | .deleteByReceiver w msgId receiver => (deleteByReceiver w t msgId receiver).2

def CountsInbox (t : MessageTable) : Prop :=
  ∀ (order : ByCreatedAt) (a : String),
    getUnreadCount t a = ((getForRecipient order t a).filter (fun r => r.status == "unread")).length

/-- A deletion by the receiver that goes through meets a message that has been read. -/
def DeletesRead (t : MessageTable) : Call → Prop
  | .deleteByReceiver w msgId receiver =>
    w.refusal ≠ none ∨ ∀ r ∈ t.find? (receivedBy msgId receiver), r.2.status ≠ "unread"
  | _ => True

def byCreatedAt : ByCreatedAt where
  arrange := List.insertionSort (fun q r => q.createdAt ≤ r.createdAt)
  perm := List.perm_insertionSort _
  sorted := List.pairwise_insertionSort _

def Shown (r : Columns) : Prop := r.status = "unread" → r.deletedByReceiver = false

variable {sha256} {t : MessageTable}

def unreadBy (address : String) (r : Columns) : Bool := r.toAddress == address && r.status == "unread"

lemma length_inbox (order : ByCreatedAt) (a : String) :
    ((getForRecipient order t a).filter (fun r => r.status == "unread")).length =
      ((t.values.filter (unreadBy a)).filter (fun r => !r.deletedByReceiver)).length := by
  have hperm := (order.perm (t.values.filter (fun r => r.toAddress == a && !r.deletedByReceiver))).filter
    (fun r => r.status == "unread")
  rw [getForRecipient, hperm.length_eq, List.filter_filter, List.filter_filter]
  congr 1
  refine List.filter_congr (fun r _ => ?_)
  rw [unreadBy, Bool.and_comm, Bool.and_right_comm, Bool.and_comm]

lemma countsInbox_iff : CountsInbox t ↔ ∀ r ∈ t.values, Shown r := by
  have hone : ∀ (order : ByCreatedAt) (a : String), getUnreadCount t a =
      ((getForRecipient order t a).filter (fun r => r.status == "unread")).length ↔
        ∀ r ∈ t.values.filter (unreadBy a), (!r.deletedByReceiver) = true := by
    intro order a
    rw [length_inbox, ← List.length_filter_eq_length_iff, eq_comm, getUnreadCount,
      List.countP_eq_length_filter]
    rfl
  constructor
  · intro h r hr hunread
    have hall := (hone byCreatedAt r.toAddress).mp (h byCreatedAt r.toAddress)
    have hmem : r ∈ t.values.filter (unreadBy r.toAddress) := by simp [hr, unreadBy, hunread]
    simpa using hall r hmem
  · intro h order a
    apply (hone order a).mpr
    intro r hr
    obtain ⟨hr, hu⟩ := List.mem_filter.mp hr
    simp only [unreadBy, Bool.and_eq_true, beq_iff_eq] at hu
    simp [h r hr hu.2]

lemma shown_read (r : Columns) : Shown (read r) := by
  intro h
  exact absurd h (by simp [read])

lemma shown_update {id : ℕ} {r : Columns} {f : Columns → Columns} (hr : (id, r) ∈ t.rows)
    (h : ∀ q ∈ t.values, Shown q) : (∀ q ∈ (t.update id f).values, Shown q) ↔ Shown (f r) := by
  obtain ⟨l₁, l₂, hl, hu⟩ := Table.update_split hr f
  rw [hl] at h
  rw [hu]
  constructor
  · exact fun hall => hall _ (by simp)
  · intro hf q hq
    rcases List.mem_append.mp hq with hq | hq
    · exact h q (List.mem_append_left _ hq)
    · rcases List.mem_cons.mp hq with rfl | hq
      · exact hf
      · exact h q (List.mem_append_right _ (List.mem_cons_of_mem _ hq))

lemma shown_change_iff (w : Statement) {p : Columns → Bool} {f : Columns → Columns}
    (h : ∀ q ∈ t.values, Shown q) : (∀ q ∈ (change w t p f).2.values, Shown q) ↔
      (w.refusal ≠ none ∨ ∀ r ∈ t.find? p, Shown (f r.2)) := by
  rw [change]
  cases hf : t.find? p with
  | none => exact iff_of_true h (Or.inr (by simp))
  | some record =>
    rcases updateRow_cases w t record.1 f with ⟨hw, e, he⟩ | ⟨hw, hok⟩
    · simp only [he]
      exact iff_of_true h (Or.inl hw)
    · simp only [hok]
      rw [shown_update (Table.find?_eq_some hf).1 h]
      simp [hw]

lemma shown_readEach (w : ℕ → Statement) (records : List (ℕ × Columns)) (h : ∀ q ∈ t.values, Shown q) :
    ∀ q ∈ (readEach w records t).2.values, Shown q := by
  induction records generalizing t with
  | nil => exact h
  | cons record records ih =>
    rw [readEach]
    rcases updateRow_cases (w record.1) t record.1 read with ⟨-, e, he⟩ | ⟨-, hok⟩
    · simp only [he]
      exact h
    · simp only [hok]
      apply ih
      intro q hq
      rw [Table.values_update] at hq
      obtain ⟨r, hr, rfl⟩ := List.mem_map.mp hq
      split
      · exact shown_read _
      · exact h _ (List.mem_map_of_mem hr)

lemma countsInbox_call_iff (t : MessageTable) (c : Call) (h : CountsInbox t) :
    CountsInbox (call sha256 t c) ↔ DeletesRead t c := by
  rw [countsInbox_iff] at h ⊢
  cases c with
  | insert w m =>
    refine iff_of_true ?_ trivial
    rw [call, insert]
    rcases insertRow_cases w t (newRow sha256 w.now m) with ⟨e, he⟩ | ⟨-, hok⟩
    · rw [he]
      exact h
    · rw [hok, Table.values_insert]
      intro r hr
      rcases List.mem_append.mp hr with hr | hr
      · exact h r hr
      · rw [List.mem_singleton.mp hr]
        exact fun _ => rfl
  | markRead w msgId recipient =>
    exact iff_of_true ((shown_change_iff w h).mpr (Or.inr fun r _ => shown_read r.2)) trivial
  | markReadAll w address => exact iff_of_true (shown_readEach w _ h) trivial
  | deleteBySender w msgId sender =>
    refine iff_of_true ((shown_change_iff w h).mpr (Or.inr fun r hr => ?_)) trivial
    exact h r.2 (List.mem_map_of_mem (Table.find?_eq_some hr).1)
  | deleteByReceiver w msgId receiver =>
    rw [call, deleteByReceiver, shown_change_iff w h, DeletesRead]
    simp [Shown]

theorem unread_count_iff (sha256 : Bytes → Digest) (calls : List Call) :
    (∀ t ∈ visited (call sha256) Table.empty calls, CountsInbox t) ↔
      Guarded (call sha256) DeletesRead Table.empty calls := by
  apply guarded_iff_of_exact countsInbox_call_iff
  rw [countsInbox_iff]
  simp

def hello : NewMessage := ⟨"m", "a", "b", [], [], []⟩

def insertThenDelete : List Call := [.insert ⟨0, none⟩ hello, .deleteByReceiver ⟨0, none⟩ "m" "b"]

theorem deleted_message_counts_unread :
    let t := insertThenDelete.foldl (call Sha256.digest) Table.empty
    getUnreadCount t "b" = 1 ∧ getForRecipient byCreatedAt t "b" = [] ∧ ¬ CountsInbox t := by
  intro t
  have hcount : getUnreadCount t "b" = 1 := rfl
  have hinbox : getForRecipient byCreatedAt t "b" = [] := rfl
  refine ⟨hcount, hinbox, fun h => ?_⟩
  have hone := h byCreatedAt "b"
  rw [hcount, hinbox] at hone
  cases hone

end ZzP2p.Db.EncryptedMessage
