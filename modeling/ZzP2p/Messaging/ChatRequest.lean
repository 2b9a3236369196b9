import ZzP2p.Messaging.ChatFiles

/-! The request for the messages of a contact. It takes its list and marks the messages as read in two
calls of the store, and what arrives between the two is marked without being in the list. -/

namespace ZzP2p.Messaging.UserStore.Files

open Rust Rust.Path

variable (loc : Location) (contact : String)

structure Arrival where
  now : ℤ
  content : String
  isSent : Bool
  status : String

def arrive (fs : Files) (a : Arrival) : Files := addMessage loc a.now fs contact a.content a.isSent a.status

def arriveAll (fs : Files) (arrivals : List Arrival) : Files := arrivals.foldl (arrive loc contact) fs

/-- The request, with the calls of `add_message` that run between its two calls of the store: the list
it returns, the files it marks and the files it leaves. -/
structure Request where
  messages : List ChatMessage
  found : Files
  left : Files

def handleGetChatMessages (fs : Files) (between : List Arrival) : Request :=
  let messages := getMessages loc fs contact
  let found := arriveAll loc contact fs between
  ⟨messages, found, markAsRead loc found contact⟩

/-- what the request changes from received to read was in the list it returned -/
def NothingUnseen (r : Request) : Prop :=
  ∀ (i : ℕ) (m m' : ChatMessage), (getMessages loc r.found contact)[i]? = some m →
    (getMessages loc r.left contact)[i]? = some m' → m.status = "received" → m'.status = "read" →
    r.messages[i]? = some m

lemma read_arrive (fs : Files) (a : Arrival) : ∃ id, readMessagesRaw loc (arrive loc contact fs a) contact =
    readMessagesRaw loc fs contact ++ [⟨id, contact, a.content, a.isSent, a.status, a.now⟩] :=
  ⟨_, read_apply_own (.addMessage a.now contact a.content a.isSent a.status)⟩

lemma read_arriveAll (fs : Files) (arrivals : List Arrival) :
    ∃ new, readMessagesRaw loc (arriveAll loc contact fs arrivals) contact =
        readMessagesRaw loc fs contact ++ new ∧
      new.map (fun m => (m.isSent, m.status)) = arrivals.map (fun a => (a.isSent, a.status)) := by
  induction arrivals generalizing fs with
  | nil => exact ⟨[], by simp [arriveAll], rfl⟩
  | cons a arrivals ih =>
    obtain ⟨id, hid⟩ := read_arrive loc contact fs a
    obtain ⟨new, hnew, hmap⟩ := ih (arrive loc contact fs a)
    refine ⟨⟨id, contact, a.content, a.isSent, a.status, a.now⟩ :: new, ?_, ?_⟩
    · rw [hid, List.append_assoc] at hnew
      exact hnew
    · rw [List.map_cons, List.map_cons, hmap]

variable {loc contact}

lemma unread_arrival {new : List ChatMessage} {arrivals : List Arrival}
    (h : new.map (fun m => (m.isSent, m.status)) = arrivals.map (fun a => (a.isSent, a.status))) :
    (∃ m ∈ new, isUnread m = true) ↔ ∃ a ∈ arrivals, a.isSent = false ∧ a.status = "received" := by
  have hmem : (false, "received") ∈ new.map (fun m => (m.isSent, m.status)) ↔
      (false, "received") ∈ arrivals.map (fun a => (a.isSent, a.status)) := by rw [h]
  simpa [List.mem_map, isUnread_iff] using hmem

lemma markAsRead_getElem {fs : Files} {i : ℕ} {m : ChatMessage}
    (h : (readMessagesRaw loc fs contact)[i]? = some m) :
    (readMessagesRaw loc (markAsRead loc fs contact) contact)[i]? = some (markRead m) := by
  rw [read_markAsRead, List.getElem?_map, h]
  rfl

lemma isUnread_of_marked {m : ChatMessage} (hr : m.status = "received")
    (hm : (markRead m).status = "read") : isUnread m = true := by
  by_contra hu
  rw [markRead_of_not_unread (by simpa using hu), hr] at hm
  exact absurd hm (by decide)

theorem nothing_unseen_iff (loc : Location) (contact : String) (fs : Files)
    (before between : List Arrival) :
    NothingUnseen loc contact
        (handleGetChatMessages loc contact (arriveAll loc contact fs before) between) ↔
      ∀ a ∈ between, ¬ (a.isSent = false ∧ a.status = "received") := by
  generalize arriveAll loc contact fs before = fs'
  obtain ⟨new, hnew, hmap⟩ := read_arriveAll loc contact fs' between
  let messages := readMessagesRaw loc fs' contact
  constructor
  · intro h a ha hu
    obtain ⟨m, hm, hmu⟩ := (unread_arrival hmap).mpr ⟨a, ha, hu⟩
    obtain ⟨k, hk⟩ := List.getElem?_of_mem hm
    -- the arrival stands behind the end of the returned list
    have hfound : (readMessagesRaw loc (arriveAll loc contact fs' between) contact)[messages.length + k]? =
        some m := by
      rw [hnew, List.getElem?_append_right (Nat.le_add_right _ _), Nat.add_sub_cancel_left, hk]
    have hread : (markRead m).status = "read" := by
      rw [markRead, if_pos (isUnread_iff.mp hmu)]
    have hseen : messages[messages.length + k]? = some m :=
      h _ m (markRead m) hfound (markAsRead_getElem hfound) (isUnread_iff.mp hmu).2 hread
    rw [List.getElem?_eq_none (Nat.le_add_right _ _)] at hseen
    cases hseen
  · intro h i m m' hi hi' hr hm'
    obtain rfl : markRead m = m' := Option.some.inj ((markAsRead_getElem hi).symm.trans hi')
    have hu := isUnread_of_marked hr hm'
    simp only [handleGetChatMessages, getMessages, hnew] at hi
    rcases Nat.lt_or_ge i messages.length with hlt | hge
    · rwa [List.getElem?_append_left hlt] at hi
    · rw [List.getElem?_append_right hge] at hi
      obtain ⟨a, ha, hau⟩ := (unread_arrival hmap).mp ⟨m, List.mem_of_getElem? hi, hu⟩
      exact absurd hau (h a ha)

theorem arrival_is_marked_unseen :
    ¬ ∀ (loc : Location) (contact : String) (fs : Files) (before between : List Arrival),
      NothingUnseen loc contact
        (handleGetChatMessages loc contact (arriveAll loc contact fs before) between) := by
  intro h
  have hu := h ⟨[], "/data"⟩ "alice" (fun _ => none) [] [⟨10, "hello", false, "received"⟩]
  have hseen := hu 0 ⟨1, "alice", "hello", false, "received", 10⟩
    ⟨1, "alice", "hello", false, "read", 10⟩ (by decide) (by decide) rfl rfl
  exact absurd hseen (by decide)

end ZzP2p.Messaging.UserStore.Files
