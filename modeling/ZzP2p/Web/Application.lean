import ZzP2p.Db.Contact
import ZzP2p.Messaging.UserDirectory
import ZzP2p.Web.QueryParam

/-! The requests of the web pages: how they are routed, and what the handlers of contacts, chats and
profiles do to the database, to the files of the users and to the cache of their profiles. A request is
handled as a whole before the next one. -/

namespace ZzP2p.Web

open Rust Rust.Path Lib Db Messaging UserDirectory UserStore ProfileCache Lib.Numerals

inductive Route
  | transfer
  | address
  | listContacts
  | addContact
  | deleteContact
  | getChatMessages
  | getConversations
  | getProfile
  | getSelfProfile
  | saveProfile
  | uploadAvatar
  | sendChat
  | data
  | wallet
  | chat
  | network
  | index
deriving DecidableEq

def startsWith (path start : String) : Bool := start.toList.isPrefixOf path.toList

def contains (path part : String) : Bool := decide (part.toList <:+: path.toList)

/-- the tests of a request by its method and its path; the first that holds takes it -/
def tests : List (Route × (Bool → String → Bool)) :=
  [(.transfer, fun isPost path => isPost && path == "/api/transfer"),
    (.address, fun isPost path => !isPost && startsWith path "/api/address"),
    (.listContacts, fun isPost path => !isPost && path == "/api/contacts"),
    (.addContact, fun isPost path => isPost && path == "/api/contacts"),
    (.deleteContact, fun _ path => startsWith path "/api/contacts" && contains path "?address="),
    (.getChatMessages, fun _ path => startsWith path "/api/chat_messages" && contains path "?contact="),
    (.getConversations, fun isPost path => !isPost && path == "/api/conversations"),
    (.getProfile, fun isPost path =>
      !isPost && startsWith path "/api/profile" && contains path "?address="),
    (.getSelfProfile, fun isPost path => !isPost && path == "/api/profile"),
    (.saveProfile, fun isPost path => isPost && path == "/api/profile"),
    (.uploadAvatar, fun isPost path => isPost && path == "/api/profile/avatar"),
    (.sendChat, fun isPost path => isPost && path == "/api/send_chat"),
    (.data, fun isPost path => !isPost && path == "/api/data"),
    (.wallet, fun _ path => path == "/wallet"),
    (.chat, fun _ path => path == "/chat"),
    (.network, fun _ path => path == "/network")]

def route (isPost : Bool) (metaPath : String) : Route :=
  ((tests.find? (fun t => t.2 isPost metaPath)).map Prod.fst).getD .index

/-- what a request brings, and what the handler meets: the clock, the database and the node -/
structure Request where
  isPost : Bool
  path : String
  contentLength : Option String
  stream : Bytes
  now : ℤ
  statement : Statement
  /-- the addresses of `get_nodes`, when the node is there -/
  nodes : Option (List String)

structure App where
  contacts : Contact.ContactTable
  disk : Disk
  cache : String → Option UserProfile

/-- what the handlers use of other crates, and how the node is set up -/
structure Setup where
  loc : Location
  own : String
  chats : Json (List ChatMessage)
  profiles : Json UserProfile
  /-- the text or the number at a key of the body, if the body is an object that has it -/
  textField : Bytes → String → Option String
  numberField : Bytes → String → Option UInt64
  base64 : Bytes → String
  byName : Contact.ByName
  order : MapOrder Name

structure ContactInfo where
  id : Option ℕ
  name : String
  address : String
  createdAt : Option Int64
  unreadCount : UInt64
  fromRegistry : Bool
  nickname : String
  avatarPath : Option String

inductive Answer
  | page (route : Route)
  | missing (text : String)
  | failed
  | done
  | transfer (fromAddress toAddress amount : String)
  | contact (id : ℕ) (name address : String)
  | contacts (list : List ContactInfo)
  | messages (list : List ChatMessage)
  | conversations (list : List ConversationSummary)
  | profile (profile : UserProfile)
  | avatar (path : String)

/-- the declared length and a buffer of that length or more, whose rest is left at zero -/
def readHttpBody (r : Request) : ℕ × Bytes :=
  let cl := ((r.contentLength.bind (fun s => parseUnsigned (2 ^ 64) s.toList)).getD 0)
  let received := r.stream.take cl
  (cl, received ++ List.replicate (max cl 4096 - received.length) 0)

variable (S : Setup)

def loadProfile (now : ℤ) (address : String) (a : App) : Except Fault UserProfile × App :=
  match a.cache address with
  | some profile => (.ok profile, a)
  | none => match loadJson S.loc S.profiles a.disk address "profile.json" with
    | .ok profile =>
      let profile := profile.getD (.default now)
      (.ok profile, { a with cache := Function.update a.cache address (some profile) })
    | .error e => (.error e, a)

def saveProfile (address : String) (profile : UserProfile) (a : App) : Except Fault Unit × App :=
  match (UserDirectory.saveProfile S.loc S.profiles address profile).on a.disk with
  | (.ok _, disk) =>
    (.ok (), { a with disk := disk, cache := Function.update a.cache address (some profile) })
  | (.error e, disk) => (.error e, { a with disk := disk })

/-- `load_profile(..).unwrap_or_default()` -/
def profileOrDefault (now : ℤ) (address : String) (a : App) : UserProfile × App :=
  match loadProfile S now address a with
  | (.ok profile, a) => (profile, a)
  | (.error _, a) => (.default now, a)

def embedAvatar (address : String) (profile : UserProfile) (a : App) : UserProfile :=
  match profile.avatarPath with
  | some path => match readFile S.loc a.disk address path with
    | .ok (some data) => { profile with avatarPath := some ("data:image/jpeg;base64," ++ S.base64 data) }
    | _ => profile
  | none => profile

def bodyText (r : Request) (key : String) : String :=
  let (cl, body) := readHttpBody r
  (S.textField (body.take cl) key).getD ""

def handleTransfer (r : Request) (a : App) : Answer × App :=
  let (cl, body) := readHttpBody r
  let toAddr := bodyText S r "to"
  let amount := (S.numberField (body.take cl) "amount").getD 0
  if toAddr = "" ∨ amount = 0 then (.missing "Missing 'to' or 'amount'", a)
  else (.transfer S.own toAddr (toString amount.toNat), a)

def handleAddContact (r : Request) (a : App) : Answer × App :=
  let name := bodyText S r "name"
  let address := bodyText S r "address"
  if name = "" ∨ address = "" then (.missing "Missing 'name' or 'address'", a)
  else match Contact.add r.statement a.contacts name address with
    | (.ok contact, contacts) =>
      (.contact contact.1 contact.2.name contact.2.address, { a with contacts := contacts })
    | (.error _, contacts) => (.failed, { a with contacts := contacts })

def parameter (r : Request) (key : String) : String := urlDecodeQuery ((getQueryParam r.path key).getD "")

def handleDeleteContact (r : Request) (a : App) : Answer × App :=
  match Contact.delete r.statement a.contacts (parameter r "address") with
  | (.ok _, contacts) => (.done, { a with contacts := contacts })
  | (.error _, contacts) => (.failed, { a with contacts := contacts })

def unreadOf (unread : List (String × UInt64)) (address : String) : UInt64 :=
  ((unread.find? (fun u => u.1 == address)).map Prod.snd).getD 0

/-- a map by address, in ascending order; an entry takes the place of the one with its address -/
def insertContact (info : ContactInfo) (map : List ContactInfo) : List ContactInfo :=
  (map.filter (fun c => c.address < info.address)) ++ info ::
    map.filter (fun c => info.address < c.address)

def listContact (now : ℤ) (unread : List (String × UInt64)) (s : List ContactInfo × App)
    (c : ℕ × Contact.Columns) : List ContactInfo × App :=
  if c.2.address = S.own then s
  else
    let (profile, a) := profileOrDefault S now c.2.address s.2
    (insertContact ⟨some c.1, c.2.name, c.2.address, some c.2.createdAt, unreadOf unread c.2.address, false,
      profile.nickname, profile.avatarPath⟩ s.1, a)

/-- the part of an address behind its last colon -/
def lastPart (address : String) : String :=
  String.ofList ((address.toList.splitOn ':').getLast?.getD address.toList)

def listNode (now : ℤ) (s : List ContactInfo × App) (address : String) : List ContactInfo × App :=
  if address = S.own ∨ s.1.any (fun c => c.address == address) then s
  else
    let (profile, a) := profileOrDefault S now address s.2
    (insertContact ⟨none, lastPart address, address, none, 0, true, profile.nickname, profile.avatarPath⟩
      s.1, a)

def handleListContacts (r : Request) (a : App) : Answer × App :=
  let dbContacts := if r.statement.refusal = none then Contact.getAll S.byName a.contacts else []
  let unread := match getAllContactsWithUnread S.loc S.chats S.order a.disk with
    | .ok unread => unread
    | .error _ => []
  let stored := dbContacts.foldl (listContact S r.now unread) ([], a)
  let (list, a) := (r.nodes.getD []).foldl (listNode S r.now) stored
  (.contacts list, a)

def handleGetChatMessages (r : Request) (a : App) : Answer × App :=
  let address := parameter r "contact"
  let messages := messagesOrEmpty S.loc S.chats a.disk address
  let marked := (markAsRead S.loc S.chats address).on a.disk
  (.messages messages, { a with disk := marked.2 })

def handleGetConversations (a : App) : Answer × App :=
  match getConversations S.loc S.chats S.order a.disk with
  | .ok conversations => (.conversations conversations, a)
  | .error _ => (.conversations [], a)

def handleGetProfile (r : Request) (a : App) : Answer × App :=
  let address := parameter r "address"
  let (profile, a) := profileOrDefault S r.now address a
  (.profile (embedAvatar S address profile a), a)

def handleGetSelfProfile (r : Request) (a : App) : Answer × App :=
  let (profile, a) := profileOrDefault S r.now S.own a
  (.profile (embedAvatar S S.own profile a), a)

/-- the address that is written: a parameter of the path, which is not decoded, or the own one -/
def target (r : Request) : String := (getQueryParam r.path "address").getD S.own

def handleSaveProfile (r : Request) (a : App) : Answer × App :=
  let (cl, body) := readHttpBody r
  match S.profiles.fromSlice (body.take cl) with
  | some profile =>
    let (profile, a) := if profile.avatarPath = none then
        match loadProfile S r.now (target S r) a with
        | (.ok existing, a) => ({ profile with avatarPath := existing.avatarPath }, a)
        | (.error _, a) => (profile, a)
      else (profile, a)
    (.done, (saveProfile S (target S r) profile a).2)
  | none => (.failed, a)

def handleUploadAvatar (r : Request) (a : App) : Answer × App :=
  -- the whole buffer is stored, not only the part of it that was sent
  let (_, body) := readHttpBody r
  match (saveImage S.loc (target S r) "avatar.jpg" body).on a.disk with
  | (.error _, disk) => (.failed, { a with disk := disk })
  | (.ok _, disk) => match loadProfile S r.now (target S r) { a with disk := disk } with
    | (.ok profile, a) =>
      let saved := saveProfile S (target S r) { profile with avatarPath := some "images/avatar.jpg" } a
      (.avatar "images/avatar.jpg", saved.2)
    | (.error _, a) => (.avatar "images/avatar.jpg", a)

/-- up to the sending; the message is stored whether or not a connection takes it -/
def handleSendChat (r : Request) (a : App) : Answer × App :=
  let toAddr := bodyText S r "to"
  let content := bodyText S r "message"
  if toAddr = "" ∨ content = "" then (.missing "Missing 'to' or 'message'", a)
  else
    let added := (addMessage S.loc S.chats r.now toAddr content true "sent").on a.disk
    (.page .sendChat, { a with disk := added.2 })

def handle (r : Request) (a : App) : Answer × App :=
  match route r.isPost r.path with
  | .transfer => handleTransfer S r a
  | .listContacts => handleListContacts S r a
  | .addContact => handleAddContact S r a
  | .deleteContact => handleDeleteContact r a
  | .getChatMessages => handleGetChatMessages S r a
  | .getConversations => handleGetConversations S a
  | .getProfile => handleGetProfile S r a
  | .getSelfProfile => handleGetSelfProfile S r a
  | .saveProfile => handleSaveProfile S r a
  | .uploadAvatar => handleUploadAvatar S r a
  | .sendChat => handleSendChat S r a
  | page => (.page page, a)

/-- A message was acknowledged, or the background task of a request to send it ran out of time. -/
inductive Event
  | request (r : Request)
  | delivered (contact : String)

def step (a : App) : Event → App
  | .request r => (handle S r a).2
  | .delivered contact =>
    { a with disk := ((updateLastSentStatus S.loc S.chats contact "delivered").on a.disk).2 }

end ZzP2p.Web
