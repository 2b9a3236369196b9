import Mathlib.Tactic

/-! The chat messages stored for one contact. Each operation runs under the store's lock, so it is
one step; reading and writing the file is taken to succeed. -/

namespace ZzP2p.Messaging.UserStore

structure ChatMessage where
  id : UInt64
  contactAddress : String
  content : String
  isSent : Bool
  status : String
  timestamp : ℤ
deriving DecidableEq

def addMessage (now : ℤ) (msgs : List ChatMessage) (contact content : String) (isSent : Bool)
    (status : String) : List ChatMessage :=
  let nextId := (msgs.getLast?.map (fun m => m.id + 1)).getD 1
  msgs ++ [⟨nextId, contact, content, isSent, status, now⟩]

/-- the position that `iter_mut().rev().find(|m| m.is_sent)` stops at -/
def lastSent (msgs : List ChatMessage) : Option ℕ :=
  (msgs.reverse.findIdx? (fun m => m.isSent)).map (fun i => msgs.length - 1 - i)

def updateLastSentStatus (msgs : List ChatMessage) (newStatus : String) : List ChatMessage :=
  match lastSent msgs with
  | some i => msgs.modify i (fun m => { m with status := newStatus })
  | none => msgs

def markRead (m : ChatMessage) : ChatMessage :=
  if m.isSent = false ∧ m.status = "received" then { m with status := "read" } else m

def markAsRead (msgs : List ChatMessage) : List ChatMessage := msgs.map markRead

lemma updateLastSentStatus_of_ne {msgs : List ChatMessage} {i : ℕ} (h : lastSent msgs ≠ some i)
    (newStatus : String) : (updateLastSentStatus msgs newStatus)[i]? = msgs[i]? := by
  simp only [updateLastSentStatus]
  split
  · next j hj =>
    rw [List.getElem?_modify]
    have hij : j ≠ i := fun he => h (he ▸ hj)
    simp [hij]
  · rfl

lemma updateLastSentStatus_last {msgs : List ChatMessage} {i : ℕ} (h : lastSent msgs = some i)
    (newStatus : String) :
    (updateLastSentStatus msgs newStatus)[i]? =
      msgs[i]?.map (fun m => { m with status := newStatus }) := by
  simp [updateLastSentStatus, h]

lemma markRead_of_sent {m : ChatMessage} (h : m.isSent = true) : markRead m = m := by
  simp [markRead, h]

lemma markRead_isSent (m : ChatMessage) : (markRead m).isSent = m.isSent := by
  simp only [markRead]
  split <;> rfl

end ZzP2p.Messaging.UserStore
