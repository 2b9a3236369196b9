import Mathlib.Data.String.Basic
import ZzP2p.Lib.FileTree
import ZzP2p.Messaging.ChatFiles
import ZzP2p.Messaging.ProfileCache
import ZzP2p.Rust.Bytes
import ZzP2p.Rust.Text

/-! The user store on the directories and files of a disk. A call that fails half way leaves the
directories it has made. -/

namespace ZzP2p.Messaging.UserDirectory

open Rust Rust.Path Lib Lib.FileTree UserStore ProfileCache

abbrev Disk := Tree Name Bytes

inductive Fault
  | io (failure : Failure)
  | invalidData
deriving DecidableEq

abbrev Call (α : Type) := ExceptT Fault (StateM Disk) α

def Call.on {α : Type} (m : Call α) (disk : Disk) : Except Fault α × Disk := m.run.run disk

def change (f : Disk → Except Failure Disk) : Call Unit := do
  match f (← get) with
  | .ok disk => set disk
  | .error e => throw (.io e)

def look {α : Type} (f : Disk → Except Fault α) : Call α := do
  match f (← get) with
  | .ok a => return a
  | .error e => throw e

section Calls

variable {α β : Type} {disk disk' : Disk}

lemma on_pure (a : α) : Call.on (pure a) disk = (.ok a, disk) := rfl

lemma on_get : Call.on (get : Call Disk) disk = (.ok disk, disk) := rfl

lemma on_set (disk' : Disk) : Call.on (set disk' : Call PUnit) disk = (.ok ⟨⟩, disk') := rfl

lemma on_throw (e : Fault) : Call.on (throw e : Call α) disk = (.error e, disk) := rfl

lemma on_bind_ok {m : Call α} {f : α → Call β} {a : α} (h : m.on disk = (.ok a, disk')) :
    Call.on (m >>= f) disk = (f a).on disk' := by
  simp only [Call.on, ExceptT.run, Bind.bind, ExceptT.bind, ExceptT.mk, StateT.bind, StateT.run,
    ExceptT.bindCont] at h ⊢
  rw [h]

lemma on_bind_error {m : Call α} {f : α → Call β} {e : Fault} (h : m.on disk = (.error e, disk')) :
    Call.on (m >>= f) disk = (.error e, disk') := by
  simp only [Call.on, ExceptT.run, Bind.bind, ExceptT.bind, ExceptT.mk, StateT.bind, StateT.run,
    ExceptT.bindCont] at h ⊢
  rw [h]
  rfl

lemma on_change_ok {f : Disk → Except Failure Disk} (h : f disk = .ok disk') :
    (change f).on disk = (.ok (), disk') := by
  rw [change, on_bind_ok on_get, h]
  rfl

lemma on_look_ok {f : Disk → Except Fault α} {a : α} (h : f disk = .ok a) :
    (look f).on disk = (.ok a, disk) := by
  rw [look, on_bind_ok on_get, h]
  rfl

lemma on_look_error {f : Disk → Except Fault α} {e : Fault} (h : f disk = .error e) :
    (look f).on disk = (.error e, disk) := by
  rw [look, on_bind_ok on_get, h]
  rfl

end Calls

attribute [irreducible] Call.on

/-- the encoding of a value as text -/
structure Json (α : Type) where
  toStringPretty : α → Option String
  fromStr : String → Option α
  fromSlice : Bytes → Option α

/-- the components that a path is made of; empty ones and dots between separators do not count -/
def steps (path : String) : List String := (components path).filter (fun c => c ≠ "" ∧ c ≠ ".")

/-- where `Path::parent` leads, which takes away the last component -/
def parent (cwd : Place) (path : String) : Option Place :=
  if steps path = [] then none
  else some ((steps path).dropLast.foldl enter (if isAbsolute path then [] else cwd))

variable (loc : Location)

def users : Place := resolve loc.cwd (usersDir loc.basePath)

def imagesDir (address : String) : String := join (userDir loc.basePath address) "images"

def ensureUserDir (address : String) : Call Unit :=
  change (fun disk => disk.createDirAll (resolve loc.cwd (userDir loc.basePath address)))

def ensureImagesDir (address : String) : Call Unit :=
  change (fun disk => disk.createDirAll (resolve loc.cwd (imagesDir loc address)))

def storeFile (address relPath : String) (data : Bytes) : Call Unit := do
  let full := join (userDir loc.basePath address) relPath
  if let some dir := parent loc.cwd full then change (fun disk => disk.createDirAll dir)
  change (fun disk => disk.writeFile (resolve loc.cwd full) data)

def readFile (disk : Disk) (address relPath : String) : Except Fault (Option Bytes) :=
  match disk.readFile (resolve loc.cwd (join (userDir loc.basePath address) relPath)) with
  | .ok data => .ok (some data)
  | .error .notFound => .ok none
  | .error e => .error (.io e)

def deleteFile (address relPath : String) : Call Bool := do
  let full := resolve loc.cwd (join (userDir loc.basePath address) relPath)
  match (← get).removeFile full with
  | .ok disk =>
    set disk
    return true
  | .error .notFound => return false
  | .error e => throw (.io e)

def isFile (disk : Disk) (place : Place) : Bool :=
  match disk.entry place with
  | some (.file _) => true
  | _ => false

def listFiles (order : MapOrder Name) (disk : Disk) (address subdir : String) :
    Except Fault (List String) :=
  let full := resolve loc.cwd (join (userDir loc.basePath address) subdir)
  match disk.readDir order full with
  | .ok entries =>
    .ok (((entries.filter (fun name => isFile disk (full ++ [name]))).map Subtype.val).insertionSort (· ≤ ·))
  | .error .notFound => .ok []
  | .error e => .error (.io e)

variable {α : Type} (json : Json α)

def storeJson (address relPath : String) (value : α) : Call Unit :=
  match json.toStringPretty value with
  | some data => storeFile loc address relPath (utf8 data)
  | none => throw .invalidData

def loadJson (disk : Disk) (address relPath : String) : Except Fault (Option α) := do
  match ← readFile loc disk address relPath with
  | some data => match json.fromSlice data with
    | some value => .ok (some value)
    | none => .error .invalidData
  | none => .ok none

variable (chats : Json (List ChatMessage))

def parseMessages (data : Bytes) : Except Fault (List ChatMessage) :=
  match fromUtf8 data with
  | some content =>
    if trim content.toList = [] then .ok []
    else match chats.fromStr content with
      | some msgs => .ok msgs
      | none => .error .invalidData
  -- `read_to_string` refuses bytes that are no text
  | none => .error .invalidData

def readMessagesRaw (disk : Disk) (address : String) : Except Fault (List ChatMessage) :=
  match disk.readFile (resolve loc.cwd (chatPath loc.basePath address)) with
  | .ok data => parseMessages chats data
  | .error .notFound => .ok []
  | .error e => .error (.io e)

def writeMessagesRaw (address : String) (msgs : List ChatMessage) : Call Unit :=
  match chats.toStringPretty msgs with
  | some content => do
    let full := chatPath loc.basePath address
    if let some dir := parent loc.cwd full then
      change (fun disk => (disk.createDirAll dir).mapError (fun _ => .other))
    change (fun disk => (disk.writeFile (resolve loc.cwd full) (utf8 content)).mapError (fun _ => .other))
  | none => throw .invalidData

def addMessage (now : ℤ) (contact content : String) (isSent : Bool) (status : String) : Call ChatMessage := do
  ensureUserDir loc contact
  let msgs ← look (fun disk => readMessagesRaw loc chats disk contact)
  let nextId := (msgs.getLast?.map (fun m => m.id + 1)).getD 1
  let msg : ChatMessage := ⟨nextId, contact, content, isSent, status, now⟩
  writeMessagesRaw loc chats contact (msgs ++ [msg])
  return msg

def updateLastSentStatus (contact newStatus : String) : Call Unit := do
  let msgs ← look (fun disk => readMessagesRaw loc chats disk contact)
  if (lastSent msgs).isSome then
    writeMessagesRaw loc chats contact (UserStore.updateLastSentStatus msgs newStatus)

def markAsRead (contact : String) : Call Unit := do
  let msgs ← look (fun disk => readMessagesRaw loc chats disk contact)
  if msgs.any Files.isUnread then writeMessagesRaw loc chats contact (UserStore.markAsRead msgs)

def unreadCount (msgs : List ChatMessage) : UInt64 := UInt64.ofNat (msgs.filter Files.isUnread).length

def getMessages (disk : Disk) (contact : String) : Except Fault (List ChatMessage) :=
  readMessagesRaw loc chats disk contact

/-- `unwrap_or_default`: a chat that cannot be read counts as empty -/
def messagesOrEmpty (disk : Disk) (address : String) : List ChatMessage :=
  match readMessagesRaw loc chats disk address with
  | .ok msgs => msgs
  | .error _ => []

def userNames (order : MapOrder Name) (disk : Disk) : Except Fault (List String) :=
  match disk.readDir order (users loc) with
  | .ok entries => .ok ((entries.filter (fun name => disk.isDir (users loc ++ [name]))).map Subtype.val)
  | .error .notFound => .ok []
  | .error e => .error (.io e)

def getAllContactsWithUnread (order : MapOrder Name) (disk : Disk) : Except Fault (List (String × UInt64)) := do
  let names ← userNames loc order disk
  let result := names.map (fun name => (name, unreadCount (messagesOrEmpty loc chats disk name)))
  .ok (result.insertionSort (fun a b => a.1 ≤ b.1))

structure ConversationSummary where
  contactAddress : String
  lastContent : String
  lastTimestamp : ℤ
  lastIsSent : Bool
  unreadCount : UInt64
deriving DecidableEq

def summary (name : String) (msgs : List ChatMessage) : Option ConversationSummary :=
  msgs.getLast?.map (fun last =>
    { contactAddress := name
      lastContent := last.content
      lastTimestamp := last.timestamp
      lastIsSent := last.isSent
      unreadCount := unreadCount msgs })

def getConversations (order : MapOrder Name) (disk : Disk) : Except Fault (List ConversationSummary) := do
  let names ← userNames loc order disk
  let result := names.filterMap (fun name => summary name (messagesOrEmpty loc chats disk name))
  .ok (result.insertionSort (fun a b => b.lastTimestamp ≤ a.lastTimestamp))

/-- the part of `save_profile` before the cache -/
def saveProfile (profiles : Json UserProfile) (address : String) (profile : UserProfile) : Call Unit := do
  ensureUserDir loc address
  storeJson loc profiles address "profile.json" profile

def saveImage (address name : String) (data : Bytes) : Call Unit := do
  ensureImagesDir loc address
  storeFile loc address ("images/" ++ name) data

def deleteImage (address name : String) : Call Bool := deleteFile loc address ("images/" ++ name)

def listImages (order : MapOrder Name) (disk : Disk) (address : String) : Except Fault (List String) :=
  listFiles loc order disk address "images"

end ZzP2p.Messaging.UserDirectory
