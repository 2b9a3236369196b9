import ZzP2p.Messaging.UserFiles
import ZzP2p.Messaging.UserStore

/-! The chat histories of all contacts, each in the file of its contact. Encoding the messages and
reading and writing a file are taken to be exact, and each call runs under the lock of the store. -/

namespace ZzP2p.Messaging.UserStore

open Rust Rust.Path

/-- where the store lies: the working directory and the path it was opened with -/
structure Location where
  cwd : Place
  basePath : String

abbrev Files := Place → Option (List ChatMessage)

namespace Files

variable (loc : Location)

def chatFile (contact : String) : Place := resolve loc.cwd (chatPath loc.basePath contact)

def readMessagesRaw (fs : Files) (contact : String) : List ChatMessage := (fs (chatFile loc contact)).getD []

def writeMessagesRaw (fs : Files) (contact : String) (msgs : List ChatMessage) : Files :=
  Function.update fs (chatFile loc contact) (some msgs)

def addMessage (now : ℤ) (fs : Files) (contact content : String) (isSent : Bool) (status : String) : Files :=
  writeMessagesRaw loc fs contact
    (UserStore.addMessage now (readMessagesRaw loc fs contact) contact content isSent status)

def updateLastSentStatus (fs : Files) (contact newStatus : String) : Files :=
  let msgs := readMessagesRaw loc fs contact
  if (lastSent msgs).isSome then
    writeMessagesRaw loc fs contact (UserStore.updateLastSentStatus msgs newStatus)
  else fs

def isUnread (m : ChatMessage) : Bool := !m.isSent && m.status == "received"

def markAsRead (fs : Files) (contact : String) : Files :=
  let msgs := readMessagesRaw loc fs contact
  if msgs.any isUnread then writeMessagesRaw loc fs contact (UserStore.markAsRead msgs) else fs

def getMessages (fs : Files) (contact : String) : List ChatMessage := readMessagesRaw loc fs contact

def getUnreadCount (fs : Files) (contact : String) : UInt64 :=
  UInt64.ofNat ((readMessagesRaw loc fs contact).filter isUnread).length

inductive Operation
  | addMessage (now : ℤ) (contact content : String) (isSent : Bool) (status : String)
  | updateLastSentStatus (contact newStatus : String)
  | markAsRead (contact : String)

def Operation.contact : Operation → String
  | .addMessage _ contact _ _ _ => contact
  | .updateLastSentStatus contact _ => contact
  | .markAsRead contact => contact

def apply (fs : Files) : Operation → Files
  | .addMessage now contact content isSent status => addMessage loc now fs contact content isSent status
  | .updateLastSentStatus contact newStatus => updateLastSentStatus loc fs contact newStatus
  | .markAsRead contact => markAsRead loc fs contact

def Operation.edit : Operation → List ChatMessage → List ChatMessage
  | .addMessage now contact content isSent status, msgs =>
    UserStore.addMessage now msgs contact content isSent status
  | .updateLastSentStatus _ newStatus, msgs => UserStore.updateLastSentStatus msgs newStatus
  | .markAsRead _, msgs => UserStore.markAsRead msgs

variable {loc} {fs : Files}

lemma chatFile_eq {contact : String} (h : Plain contact) :
    chatFile loc contact = resolve loc.cwd (usersDir loc.basePath) ++
      [⟨contact, h⟩, ⟨"chat.json", by decide⟩] := by
  have hchat : Plain "chat.json" := by decide
  rw [chatFile, chatPath, resolve_join loc.cwd (isAbsolute_of_plain hchat), resolve_userDir _ _ h,
    walk_plain _ hchat, List.append_assoc]
  rfl

lemma chatFile_inj {contact contact' : String} (h : Plain contact) (h' : Plain contact')
    (he : chatFile loc contact = chatFile loc contact') : contact = contact' := by
  rw [chatFile_eq h, chatFile_eq h', List.append_cancel_left_eq] at he
  exact congrArg Subtype.val (List.cons.inj he).1

lemma read_write_self (contact : String) (msgs : List ChatMessage) :
    readMessagesRaw loc (writeMessagesRaw loc fs contact msgs) contact = msgs := by
  simp [readMessagesRaw, writeMessagesRaw]

lemma read_write_other {contact contact' : String} (h : Plain contact) (h' : Plain contact')
    (hne : contact' ≠ contact) (msgs : List ChatMessage) :
    readMessagesRaw loc (writeMessagesRaw loc fs contact msgs) contact' =
      readMessagesRaw loc fs contact' := by
  have hfile : chatFile loc contact' ≠ chatFile loc contact := fun he => hne (chatFile_inj h' h he)
  simp [readMessagesRaw, writeMessagesRaw, hfile]

lemma updateLastSentStatus_none {msgs : List ChatMessage} (h : lastSent msgs = none)
    (newStatus : String) : UserStore.updateLastSentStatus msgs newStatus = msgs := by
  rw [UserStore.updateLastSentStatus, h]

lemma isUnread_iff {m : ChatMessage} : isUnread m = true ↔ m.isSent = false ∧ m.status = "received" := by
  simp [isUnread]

lemma markRead_of_not_unread {m : ChatMessage} (h : isUnread m = false) : markRead m = m := by
  rw [markRead, if_neg]
  rwa [← isUnread_iff, Bool.not_eq_true]

lemma markAsRead_none {msgs : List ChatMessage} (h : msgs.any isUnread = false) :
    UserStore.markAsRead msgs = msgs := by
  rw [UserStore.markAsRead, List.map_congr_left (g := id), List.map_id]
  intro m hm
  exact markRead_of_not_unread (by simpa using List.any_eq_false.mp h m hm)

lemma read_apply_own (o : Operation) :
    readMessagesRaw loc (apply loc fs o) o.contact = o.edit (readMessagesRaw loc fs o.contact) := by
  cases o with
  | addMessage now contact content isSent status =>
    rw [apply, addMessage, Operation.contact, Operation.edit, read_write_self]
  | updateLastSentStatus contact newStatus =>
    simp only [apply, updateLastSentStatus, Operation.contact, Operation.edit]
    split
    · exact read_write_self contact _
    · next h => exact (updateLastSentStatus_none (Option.not_isSome_iff_eq_none.mp h) newStatus).symm
  | markAsRead contact =>
    simp only [apply, markAsRead, Operation.contact, Operation.edit]
    split
    · exact read_write_self contact _
    · next h => exact (markAsRead_none (by simpa using h)).symm

lemma read_markAsRead (contact : String) : readMessagesRaw loc (markAsRead loc fs contact) contact =
    (readMessagesRaw loc fs contact).map markRead := read_apply_own (.markAsRead contact)

lemma read_updateLastSentStatus (contact newStatus : String) :
    readMessagesRaw loc (updateLastSentStatus loc fs contact newStatus) contact =
      UserStore.updateLastSentStatus (readMessagesRaw loc fs contact) newStatus :=
  read_apply_own (.updateLastSentStatus contact newStatus)

lemma read_apply_other {o : Operation} {contact : String} (ho : Plain o.contact) (hc : Plain contact)
    (hne : contact ≠ o.contact) :
    readMessagesRaw loc (apply loc fs o) contact = readMessagesRaw loc fs contact := by
  cases o with
  | addMessage now c content isSent status =>
    rw [Operation.contact] at ho hne
    rw [apply, addMessage, read_write_other ho hc hne]
  | updateLastSentStatus c newStatus =>
    simp only [apply, updateLastSentStatus]
    split
    · exact read_write_other ho hc hne _
    · rfl
  | markAsRead c =>
    simp only [apply, markAsRead]
    split
    · exact read_write_other ho hc hne _
    · rfl

end Files

end ZzP2p.Messaging.UserStore
