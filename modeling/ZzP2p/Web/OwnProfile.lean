import ZzP2p.Lib.Runs
import ZzP2p.Messaging.UserShelf
import ZzP2p.Web.RequestWrites

/-! The profile of the node itself over runs of requests. Saving, uploading and showing it are followed
by two values, the profile and the picture, that no other request changes. -/

namespace ZzP2p.Web

open Rust Rust.Path Lib Lib.FileTree Lib.Numerals Lib.Runs Db Messaging UserDirectory UserStore ProfileCache

section Chats

variable {chats : Json (List ChatMessage)} {s : Shelf} {b : Name} {σ : Slot}

lemma putText_file {a : Name} {τ : Slot} (h : σ ≠ τ) (text : Option String) :
    (s.putText a τ text).2.file b σ = s.file b σ := by
  cases text with
  | some text => simp [Shelf.putText, Shelf.put_file, h]
  | none => rfl

lemma editChat_file (h : σ ≠ .chat) (a : Name) (changes : List ChatMessage → Bool)
    (edit : List ChatMessage → List ChatMessage) :
    (s.editChat chats a changes edit).2.file b σ = s.file b σ := by
  rw [Shelf.editChat]
  cases s.messages chats a with
  | error e => rfl
  | ok msgs =>
    dsimp only
    split
    · exact putText_file h _
    · rfl

lemma sendMessage_file (h : σ ≠ .chat) (now : ℤ) (a : Name) (content : String) (isSent : Bool)
    (status : String) : (s.sendMessage chats now a content isSent status).2.file b σ = s.file b σ := by
  rw [Shelf.sendMessage]
  cases s.messages chats a with
  | error e => rfl
  | ok msgs => exact putText_file h _

end Chats

/-- the profile of the node, once there is one, and the picture that was uploaded last -/
structure Own where
  profile : Option UserProfile
  picture : Option Bytes

variable (S : Setup)

def sent (r : Request) : Bytes := (readHttpBody r).2.take (readHttpBody r).1

namespace Own

/-- the profile that is found, or made at this time -/
def current (o : Own) (now : ℤ) : UserProfile := o.profile.getD (.default now)

def found (o : Own) (now : ℤ) : Own := { o with profile := some (o.current now) }

/-- the profile replaced, if it can be written as text -/
def save (o : Own) (profile : UserProfile) : Own :=
  if (S.profiles.toStringPretty profile).isSome then { o with profile := some profile } else o

def step (o : Own) : Event → Own
  | .delivered _ => o
  | .request r => match route r.isPost r.path with
    | .getSelfProfile => o.found r.now
    | .getProfile => if parameter r "address" = S.own then o.found r.now else o
    | .saveProfile => match S.profiles.fromSlice (sent r) with
      | none => o
      | some profile =>
        if profile.avatarPath = none then
          (o.found r.now).save S { profile with avatarPath := (o.current r.now).avatarPath }
        else o.save S profile
    | .uploadAvatar =>
      let o : Own := { o.found r.now with picture := some (readHttpBody r).2 }
      o.save S { o.current r.now with avatarPath := some "images/avatar.jpg" }
    | _ => o

end Own

/-- the contacts of chats are named by one directory entry -/
def PlainEvent : Event → Prop
  | .delivered contact => Plain contact
  | .request r => match route r.isPost r.path with
    | .getChatMessages => Plain (parameter r "contact")
    | .sendChat => bodyText S r "to" = "" ∨ Plain (bodyText S r "to")
    | _ => True

variable (own : Name)

lemma plain_avatar : Plain "avatar.jpg" := by decide

def avatarSlot : Slot := .image ⟨"avatar.jpg", plain_avatar⟩

def storedProfile (s : Shelf) : Except Fault (Option UserProfile) :=
  match s.file own .profile with
  | none => .ok none
  | some data => match S.profiles.fromSlice data with
    | some profile => .ok (some profile)
    | none => .error .invalidData

structure Follows (a : App) (o : Own) : Prop where
  disk : ∃ s, Represents S.loc a.disk s ∧ s.file own avatarSlot = o.picture ∧
    (a.cache own.val = none → storedProfile S own s = .ok o.profile)
  cached : ∀ p, a.cache own.val = some p → o.profile = some p

variable {S own} {a : App} {o : Own}

lemma loadJson_profile {disk : Disk} {s : Shelf} (h : Represents S.loc disk s) :
    loadJson S.loc S.profiles disk own.val "profile.json" = storedProfile S own s := by
  have hread : readFile S.loc disk own.val "profile.json" = .ok (s.file own .profile) :=
    h.readFile own .profile
  rw [loadJson, hread, storedProfile]
  cases s.file own .profile with
  | none => rfl
  | some data =>
    simp only [Bind.bind, Except.bind]
    cases S.profiles.fromSlice data <;> rfl

lemma Follows.load (h : Follows S own a o) (now : ℤ) :
    ∃ a', loadProfile S now own.val a = (.ok (o.current now), a') ∧ Follows S own a' (o.found now) := by
  obtain ⟨s, hrep, hpicture, hstored⟩ := h.disk
  cases hc : a.cache own.val with
  | some p =>
    have hp := h.cached p hc
    have hcurrent : o.current now = p := by rw [Own.current, hp, Option.getD_some]
    refine ⟨a, by rw [loadProfile, hc, hcurrent], ⟨s, hrep, hpicture, fun hn => ?_⟩, fun q hq => ?_⟩
    · rw [hn] at hc
      cases hc
    · rw [Own.found, hcurrent, ← hc, hq]
  | none =>
    have hload : loadJson S.loc S.profiles a.disk own.val "profile.json" = .ok o.profile := by
      rw [loadJson_profile hrep, hstored hc]
    refine ⟨{ a with cache := Function.update a.cache own.val (some (o.current now)) }, ?_,
      ⟨s, hrep, hpicture, fun hn => ?_⟩, fun q hq => ?_⟩
    · rw [loadProfile, hc, hload]
      rfl
    · simp at hn
    · simpa [Own.found] using hq

lemma Follows.congr (h : Follows S own a o) {a' : App} (hdisk : a'.disk = a.disk)
    (hcache : a'.cache own.val = a.cache own.val) : Follows S own a' o := by
  refine ⟨?_, ?_⟩
  · rw [hdisk, hcache]
    exact h.disk
  · rw [hcache]
    exact h.cached

lemma storedProfile_congr {s s' : Shelf} (h : s'.file own .profile = s.file own .profile) :
    storedProfile S own s' = storedProfile S own s := by
  rw [storedProfile, storedProfile, h]

lemma Follows.save (h : Follows S own a o) (profile : UserProfile) :
    Follows S own (saveProfile S own.val profile a).2 (o.save S profile) := by
  obtain ⟨s, hrep, hpicture, hstored⟩ := h.disk
  have hanswers : Answers S.loc (UserDirectory.saveProfile S.loc S.profiles own.val profile) a.disk
    ((s.know own).putText own .profile (S.profiles.toStringPretty profile)) := hrep.saveProfile own profile
  obtain ⟨disk', hon, hrep'⟩ := hanswers
  have hslot : ((s.know own).putText own .profile (S.profiles.toStringPretty profile)).2.file own avatarSlot =
      o.picture := by
    rw [putText_file (by decide)]
    exact hpicture
  rw [saveProfile, hon, Own.save]
  cases htext : S.profiles.toStringPretty profile with
  | none =>
    rw [htext] at hrep' hslot
    exact ⟨⟨_, hrep', hslot, hstored⟩, h.cached⟩
  | some text =>
    rw [htext] at hrep' hslot
    refine ⟨⟨_, hrep', hslot, fun hn => ?_⟩, fun q hq => ?_⟩
    · simp [Shelf.putText] at hn
    · simpa [Shelf.putText] using hq

lemma Follows.picture (h : Follows S own a o) (data : Bytes) :
    ∃ disk', (saveImage S.loc own.val "avatar.jpg" data).on a.disk = (.ok (), disk') ∧
      Follows S own { a with disk := disk' } { o with picture := some data } := by
  obtain ⟨s, hrep, -, hstored⟩ := h.disk
  obtain ⟨disk', hon, hrep'⟩ := hrep.saveImage own ⟨"avatar.jpg", plain_avatar⟩ data
  refine ⟨disk', hon, ⟨_, hrep', ?_, fun hn => ?_⟩, h.cached⟩
  · simp [Shelf.put_file, avatarSlot]
  · rw [← hstored hn]
    apply storedProfile_congr
    rw [Shelf.put_file, if_neg (by simp [Slot.profile])]

/-- A call that changes chats only is not noticed. -/
lemma Follows.chat {α : Type} (h : Follows S own a o) {m : Call α}
    (hm : ∀ s, Represents S.loc a.disk s → ∃ answer : Except Fault α × Shelf,
      Answers S.loc m a.disk answer ∧ ∀ b σ, σ ≠ .chat → answer.2.file b σ = s.file b σ) :
    Follows S own { a with disk := (m.on a.disk).2 } o := by
  obtain ⟨s, hrep, hpicture, hstored⟩ := h.disk
  obtain ⟨answer, ⟨disk', hon, hrep'⟩, hfile⟩ := hm s hrep
  rw [hon]
  refine ⟨⟨answer.2, hrep', ?_, fun hn => ?_⟩, h.cached⟩
  · rw [hfile own avatarSlot (by decide), hpicture]
  · rw [← hstored hn]
    exact storedProfile_congr (hfile own .profile (by decide))

lemma Follows.loadOther (h : Follows S own a o) (now : ℤ) {address : String} (hne : address ≠ own.val) :
    Follows S own (profileOrDefault S now address a).2 o := by
  have hload : (loadProfile S now address a).2.disk = a.disk ∧
      (loadProfile S now address a).2.cache own.val = a.cache own.val := by
    rw [loadProfile]
    cases a.cache address with
    | some profile => exact ⟨rfl, rfl⟩
    | none =>
      cases loadJson S.loc S.profiles a.disk address "profile.json" with
      | ok profile => exact ⟨rfl, Function.update_of_ne hne.symm _ _⟩
      | error e => exact ⟨rfl, rfl⟩
  rw [profileOrDefault]
  cases hl : loadProfile S now address a with
  | mk result a' =>
    rw [hl] at hload
    cases result <;> exact h.congr hload.1 hload.2

lemma Follows.loadOwn (h : Follows S own a o) (now : ℤ) :
    (profileOrDefault S now own.val a).1 = o.current now ∧
      Follows S own (profileOrDefault S now own.val a).2 (o.found now) := by
  obtain ⟨a', hload, h'⟩ := h.load now
  rw [profileOrDefault, hload]
  exact ⟨rfl, h'⟩

lemma Follows.saveRequest (h : Follows S own a o) (hown : S.own = own.val) {r : Request}
    (hroute : route r.isPost r.path = .saveProfile) :
    Follows S own (handleSaveProfile S r a).2 (o.step S (.request r)) := by
  have ht : target S r = own.val := (target_eq (Or.inl hroute)).trans hown
  have hstep : o.step S (.request r) = match S.profiles.fromSlice (sent r) with
      | none => o
      | some profile =>
        if profile.avatarPath = none then
          (o.found r.now).save S { profile with avatarPath := (o.current r.now).avatarPath }
        else o.save S profile := by
    rw [Own.step, hroute]
  rw [hstep, handleSaveProfile, ht, sent]
  obtain ⟨cl, body⟩ := readHttpBody r
  dsimp only
  cases S.profiles.fromSlice (body.take cl) with
  | none => exact h
  | some profile =>
    dsimp only
    by_cases havatar : profile.avatarPath = none
    · obtain ⟨a', hload, h'⟩ := h.load r.now
      simp only [havatar, if_true, hload]
      exact h'.save _
    · simp only [havatar, if_false]
      exact h.save profile

lemma Follows.uploadRequest (h : Follows S own a o) (hown : S.own = own.val) {r : Request}
    (hroute : route r.isPost r.path = .uploadAvatar) :
    Follows S own (handleUploadAvatar S r a).2 (o.step S (.request r)) := by
  have ht : target S r = own.val := (target_eq (Or.inr hroute)).trans hown
  have hstep : o.step S (.request r) = Own.save S { o.found r.now with picture := some (readHttpBody r).2 }
      { o.current r.now with avatarPath := some "images/avatar.jpg" } := by
    rw [Own.step, hroute]
    rfl
  rw [hstep, handleUploadAvatar, ht]
  obtain ⟨cl, body⟩ := readHttpBody r
  obtain ⟨disk', hon, h'⟩ := h.picture body
  obtain ⟨a'', hload, h''⟩ := h'.load r.now
  have hcurrent : Own.current { o with picture := some body } r.now = o.current r.now := rfl
  rw [hcurrent] at hload
  dsimp only
  rw [hon]
  dsimp only
  rw [hload]
  exact h''.save _

lemma Follows.foldl {α β : Type} {f : β × App → α → β × App}
    (hf : ∀ s x, Follows S own s.2 o → Follows S own (f s x).2 o) (xs : List α) (s : β × App)
    (h : Follows S own s.2 o) : Follows S own (xs.foldl f s).2 o := by
  induction xs generalizing s with
  | nil => exact h
  | cons x xs ih => exact ih (f s x) (hf s x h)

lemma Follows.listRequest (h : Follows S own a o) (hown : S.own = own.val) (r : Request) :
    Follows S own (handleListContacts S r a).2 o := by
  have hcontact : ∀ unread s c, Follows S own s.2 o → Follows S own (listContact S r.now unread s c).2 o := by
    intro unread s c hs
    rw [listContact]
    by_cases hc : c.2.address = S.own
    · rw [if_pos hc]
      exact hs
    · rw [if_neg hc]
      exact hs.loadOther r.now (hown ▸ hc)
  have hnode : ∀ s address, Follows S own s.2 o → Follows S own (listNode S r.now s address).2 o := by
    intro s address hs
    rw [listNode]
    by_cases hskip : address = S.own ∨ s.1.any (fun c => c.address == address)
    · rw [if_pos hskip]
      exact hs
    · rw [if_neg hskip]
      exact hs.loadOther r.now (hown ▸ (not_or.mp hskip).1)
  exact Follows.foldl hnode _ _ (Follows.foldl (hcontact _) _ ([], a) h)

lemma Follows.editChat (h : Follows S own a o) {contact : String} (hc : Plain contact) :
    Follows S own { a with disk := ((markAsRead S.loc S.chats contact).on a.disk).2 } o ∧
      Follows S own
        { a with disk := ((updateLastSentStatus S.loc S.chats contact "delivered").on a.disk).2 } o := by
  constructor
  · exact h.chat (fun s hs => ⟨_, hs.markAsRead ⟨contact, hc⟩, fun b σ hσ => editChat_file hσ _ _ _⟩)
  · exact h.chat (fun s hs =>
      ⟨_, hs.updateLastSentStatus ⟨contact, hc⟩ "delivered", fun b σ hσ => editChat_file hσ _ _ _⟩)

lemma Follows.sendRequest (h : Follows S own a o) {r : Request}
    (hplain : bodyText S r "to" = "" ∨ Plain (bodyText S r "to")) :
    Follows S own (handleSendChat S r a).2 o := by
  rw [handleSendChat]
  by_cases hmissing : bodyText S r "to" = "" ∨ bodyText S r "message" = ""
  · simp only [hmissing, if_true]
    exact h
  · have hto := hplain.resolve_left (not_or.mp hmissing).1
    simp only [hmissing, if_false]
    exact h.chat (fun s hs => ⟨_, hs.addMessage r.now ⟨bodyText S r "to", hto⟩ (bodyText S r "message") true
      "sent", fun b σ hσ => sendMessage_file hσ _ _ _ _ _⟩)

lemma Follows.handle (h : Follows S own a o) (hown : S.own = own.val) {r : Request}
    (hplain : PlainEvent S (.request r)) : Follows S own (handle S r a).2 (o.step S (.request r)) := by
  rw [Web.handle]
  cases hroute : route r.isPost r.path with
  | saveProfile => exact h.saveRequest hown hroute
  | uploadAvatar => exact h.uploadRequest hown hroute
  | getSelfProfile =>
    simp only [Own.step, hroute, handleGetSelfProfile, hown]
    exact (h.loadOwn r.now).2
  | getProfile =>
    simp only [Own.step, hroute, handleGetProfile]
    by_cases ha : parameter r "address" = S.own
    · rw [if_pos ha, ha, hown]
      exact (h.loadOwn r.now).2
    · rw [if_neg ha]
      exact h.loadOther r.now (hown ▸ ha)
  | getChatMessages =>
    simp only [PlainEvent, hroute] at hplain
    simp only [Own.step, hroute]
    exact (h.editChat hplain).1
  | sendChat =>
    simp only [PlainEvent, hroute] at hplain
    simp only [Own.step, hroute]
    exact h.sendRequest hplain
  | listContacts =>
    simp only [Own.step, hroute]
    exact h.listRequest hown r
  | addContact =>
    simp only [Own.step, hroute, handleAddContact]
    split
    · exact h
    · split <;> exact h.congr rfl rfl
  | deleteContact =>
    simp only [Own.step, hroute, handleDeleteContact]
    split <;> exact h.congr rfl rfl
  | transfer =>
    simp only [Own.step, hroute, handleTransfer]
    split <;> exact h
  | getConversations =>
    simp only [Own.step, hroute, handleGetConversations]
    split <;> exact h
  | address => simpa only [Own.step, hroute] using h
  | data => simpa only [Own.step, hroute] using h
  | wallet => simpa only [Own.step, hroute] using h
  | chat => simpa only [Own.step, hroute] using h
  | network => simpa only [Own.step, hroute] using h
  | index => simpa only [Own.step, hroute] using h

lemma Follows.run (hown : S.own = own.val) (h : Follows S own a o) {events : List Event}
    (hplain : ∀ e ∈ events, PlainEvent S e) :
    Follows S own (events.foldl (step S) a) (events.foldl (Own.step S) o) := by
  induction events generalizing a o with
  | nil => exact h
  | cons e events ih =>
    refine ih ?_ (fun e' he => hplain e' (List.mem_cons_of_mem _ he))
    have he := hplain e List.mem_cons_self
    cases e with
    | request r => exact h.handle hown he
    | delivered contact => exact (h.editChat he).2

def fileAt (S : Setup) (disk : Disk) (address path : String) : Option Bytes :=
  match readFile S.loc disk address path with
  | .ok data => data
  | .error _ => none

/-- the file that an avatar path names: the picture that was uploaded, or another one -/
def avatarFile (S : Setup) (o : Own) (disk : Disk) (path : String) : Option Bytes :=
  if path = "images/avatar.jpg" then o.picture else fileAt S disk S.own path

def shownAvatar (S : Setup) (path : String) : Option Bytes → String
  | some data => "data:image/jpeg;base64," ++ S.base64 data
  | none => path

/-- what the page shows: the fields of the profile, and the file in place of the path, if there is one -/
structure Shows (S : Setup) (o : Own) (disk : Disk) (now : ℤ) (shown : UserProfile) : Prop where
  fields : { shown with avatarPath := none } = { o.current now with avatarPath := none }
  avatar : shown.avatarPath =
    (o.current now).avatarPath.map (fun path => shownAvatar S path (avatarFile S o disk path))

lemma Follows.readPicture (h : Follows S own a o) :
    readFile S.loc a.disk own.val "images/avatar.jpg" = .ok o.picture := by
  obtain ⟨s, hrep, hpicture, -⟩ := h.disk
  rw [← hpicture]
  exact hrep.readFile own avatarSlot

lemma embedAvatar_eq (address : String) (profile : UserProfile) :
    embedAvatar S address profile a = { profile with
      avatarPath :=
        profile.avatarPath.map (fun path => shownAvatar S path (fileAt S a.disk address path)) } := by
  obtain ⟨_, _, avatarPath, _, _, _, _, _, _, _, _, _, _, _⟩ := profile
  cases avatarPath with
  | none => rfl
  | some path =>
    simp only [embedAvatar, Option.map_some, fileAt]
    generalize readFile S.loc a.disk address path = found
    cases found with
    | error e => rfl
    | ok data => cases data <;> rfl

lemma Follows.embed (h : Follows S own a o) (hown : S.own = own.val) (now : ℤ) :
    Shows S o a.disk now (embedAvatar S own.val (o.current now) a) := by
  have hfile : ∀ path, avatarFile S o a.disk path = fileAt S a.disk own.val path := by
    intro path
    rw [avatarFile, hown]
    by_cases hp : path = "images/avatar.jpg"
    · rw [if_pos hp, hp, fileAt, h.readPicture]
    · rw [if_neg hp]
  rw [embedAvatar_eq]
  refine ⟨rfl, ?_⟩
  simp only [hfile]

lemma profileOrDefault_disk (now : ℤ) (address : String) :
    (profileOrDefault S now address a).2.disk = a.disk := by
  rw [profileOrDefault, loadProfile]
  cases a.cache address with
  | some profile => rfl
  | none => cases loadJson S.loc S.profiles a.disk address "profile.json" <;> rfl

theorem own_profile_shown (hown : S.own = own.val) (h : Follows S own a o) (events : List Event)
    (hplain : ∀ e ∈ events, PlainEvent S e) (r : Request)
    (hr : route r.isPost r.path = .getSelfProfile) :
    ∃ shown, (handle S r (events.foldl (step S) a)).1 = .profile shown ∧
      Shows S (events.foldl (Own.step S) o) (events.foldl (step S) a).disk r.now shown := by
  obtain ⟨hcurrent, hfound⟩ := (h.run hown hplain).loadOwn r.now
  have hshows := hfound.embed hown r.now
  rw [profileOrDefault_disk] at hshows
  refine ⟨embedAvatar S own.val ((events.foldl (Own.step S) o).current r.now)
    (profileOrDefault S r.now own.val (events.foldl (step S) a)).2, ?_, hshows.fields, hshows.avatar⟩
  rw [handle, hr, ← hcurrent, ← hown]
  rfl

lemma follows_fresh (S : Setup) (own : Name) :
    Follows S own ⟨Table.empty, Tree.empty, fun _ => none⟩ ⟨none, none⟩ :=
  ⟨⟨Shelf.empty, represents_empty S.loc, rfl, fun _ => rfl⟩, fun p hp => by cases hp⟩

def base64Digit (n : ℕ) : Char :=
  "ABCDEFGHIJKLMNOPQRSTUVWXYZabcdefghijklmnopqrstuvwxyz0123456789+/".toList.getD n '='

def base64 : Bytes → List Char
  | a :: b :: c :: rest =>
    let n := a.toNat * 2 ^ 16 + b.toNat * 2 ^ 8 + c.toNat
    [base64Digit (n / 2 ^ 18), base64Digit (n / 2 ^ 12 % 64), base64Digit (n / 2 ^ 6 % 64),
      base64Digit (n % 64)] ++ base64 rest
  | [a, b] =>
    let n := a.toNat * 2 ^ 10 + b.toNat * 2 ^ 2
    [base64Digit (n / 2 ^ 12), base64Digit (n / 2 ^ 6 % 64), base64Digit (n % 64), '=']
  | [a] => [base64Digit (a.toNat / 4), base64Digit (a.toNat % 4 * 16), '=', '=']
  | [] => []

example : base64 [77, 97, 110, 77] = "TWFuTQ==".toList := by decide

def ann : UserProfile := ⟨"Ann", "", none, 5, "", "", 0, "", "", "", 0, 0, "", ""⟩

def pictured : UserProfile := { ann with avatarPath := some "images/avatar.jpg" }

/-- the text of the profile, with its avatar path -/
def profileText (avatarPath : String) : List Char :=
  "\x7b\n  \"name\": \"Ann\",\n  \"notes\": \"\",\n  \"avatar_path\": ".toList ++ avatarPath.toList ++
  ",\n  \"added_at\": 5,\n  \"nickname\": \"\",\n  \"gender\": \"\",\n  \"age\": 0,\n".toList ++
  "  \"country\": \"\",\n  \"ethnicity\": \"\",\n  \"blood_type\": \"\",\n  \"height_cm\": 0,\n".toList ++
  "  \"weight_kg\": 0,\n  \"education\": \"\",\n  \"home_address\": \"\"\n\x7d".toList

def annText : String := String.ofList (profileText "null")

def picturedText : String := String.ofList (profileText "\"images/avatar.jpg\"")

/-- the encoding at the two profiles -/
def profileJson : Json UserProfile where
  toStringPretty p :=
    if p = ann then some annText else if p = pictured then some picturedText else none
  fromStr _ := none
  fromSlice data :=
    if data = utf8 annText then some ann else if data = utf8 picturedText then some pictured else none

def annSetup : Setup where
  loc := ⟨[], "/data"⟩
  own := "ann"
  chats := ⟨fun _ => none, fun _ => none, fun _ => none⟩
  profiles := profileJson
  textField := fun _ _ => none
  numberField := fun _ _ => none
  base64 := fun data => String.ofList (base64 data)
  byName := ⟨List.insertionSort (fun c d => c.2.name ≤ d.2.name), List.perm_insertionSort _,
    List.pairwise_insertionSort _⟩
  order := ⟨id, List.Perm.refl⟩

def postProfile (body : Bytes) : Request :=
  ⟨true, "/api/profile", some (toString body.length), body, 5, ⟨5, none⟩, none⟩

def postAvatar : Request :=
  ⟨true, "/api/profile/avatar", some "4", [255, 216, 255, 217], 6, ⟨6, none⟩, none⟩

def getOwn : Request := ⟨false, "/api/profile", none, [], 7, ⟨7, none⟩, none⟩

lemma sent_whole {r : Request} (hlength : r.contentLength = some (toString r.stream.length))
    (hfits : r.stream.length < 2 ^ 64) : sent r = r.stream := by
  have ht : (toString r.stream.length).toList = Nat.toDigits 10 r.stream.length := Nat.toList_repr
  have hcl : (readHttpBody r).1 = r.stream.length := by
    simp only [readHttpBody, hlength, Option.bind_some, ht, parseUnsigned_toDigits hfits, Option.getD_some]
  have hbody : r.stream <+: (readHttpBody r).2 := by
    simp only [readHttpBody, hlength, Option.bind_some, ht, parseUnsigned_toDigits hfits, Option.getD_some,
      List.take_length]
    exact List.prefix_append _ _
  rw [sent, hcl]
  exact (List.prefix_iff_eq_take.mp hbody).symm

lemma sent_postProfile {body : Bytes} (hfits : body.length < 2 ^ 64) : sent (postProfile body) = body :=
  sent_whole rfl hfits

lemma length_annText : (utf8 annText).length < 2 ^ 64 := by
  have hsize : ∀ l : List Char, (l.flatMap String.utf8EncodeChar).length ≤ 4 * l.length := by
    intro l
    induction l with
    | nil => simp
    | cons c l ih =>
      have hc := c.utf8Size_le_four
      rw [List.flatMap_cons, List.length_append, String.length_utf8EncodeChar, List.length_cons]
      omega
  have htext : (profileText "null").length = 253 := by decide +kernel
  have h := hsize (profileText "null")
  rw [utf8, annText, String.toList_ofList]
  omega

lemma body_postAvatar : (readHttpBody postAvatar).2 = [255, 216, 255, 217] ++ List.replicate 4092 0 := rfl

lemma route_postProfile (body : Bytes) :
    route (postProfile body).isPost (postProfile body).path = .saveProfile := by
  have hroute : route true "/api/profile" = .saveProfile := by decide +kernel
  exact hroute

lemma route_postAvatar : route postAvatar.isPost postAvatar.path = .uploadAvatar := by decide +kernel

lemma Own.save_written {o : Own} {profile : UserProfile} (h : (S.profiles.toStringPretty profile).isSome) :
    o.save S profile = { o with profile := some profile } := if_pos h

lemma fromSlice_annText : profileJson.fromSlice (utf8 annText) = some ann := by
  simp [profileJson]

lemma isSome_ann : (profileJson.toStringPretty ann).isSome := by
  simp [profileJson]

lemma profiles_annSetup : annSetup.profiles = profileJson := rfl

lemma own_save_ann {r : Request} (hroute : route r.isPost r.path = .saveProfile)
    (hread : annSetup.profiles.fromSlice (sent r) = some ann) :
    Own.step annSetup ⟨none, none⟩ (.request r) = ⟨some ann, none⟩ := by
  have hwritten : (annSetup.profiles.toStringPretty ann).isSome := by
    rw [profiles_annSetup]
    exact isSome_ann
  have hsame : { ann with avatarPath := (Own.current ⟨none, none⟩ r.now).avatarPath } = ann := rfl
  have hnone : ann.avatarPath = none := rfl
  simp only [Own.step, hroute, hread]
  rw [if_pos hnone, hsame, Own.save_written hwritten]
  rfl

lemma own_postProfile :
    Own.step annSetup ⟨none, none⟩ (.request (postProfile (utf8 annText))) = ⟨some ann, none⟩ := by
  apply own_save_ann (route_postProfile _)
  rw [sent_postProfile length_annText, profiles_annSetup, fromSlice_annText]

lemma own_postAvatar : Own.step annSetup ⟨some ann, none⟩ (.request postAvatar) =
    ⟨some pictured, some (readHttpBody postAvatar).2⟩ := by
  have hwritten : (annSetup.profiles.toStringPretty pictured).isSome := by
    simp [annSetup, profileJson, ann, pictured]
  simp only [Own.step, route_postAvatar]
  generalize (readHttpBody postAvatar).2 = body
  exact Own.save_written hwritten

def annRun : List Event := [.request (postProfile (utf8 annText)), .request postAvatar]

lemma plain_annRun : ∀ e ∈ annRun, PlainEvent annSetup e := by
  refine List.forall_mem_cons.mpr ⟨?_, List.forall_mem_singleton.mpr ?_⟩
  · simp only [PlainEvent, route_postProfile]
  · simp only [PlainEvent, route_postAvatar]

lemma own_annRun : annRun.foldl (Own.step annSetup) ⟨none, none⟩ =
    ⟨some pictured, some (readHttpBody postAvatar).2⟩ := by
  rw [annRun, List.foldl_cons, own_postProfile, List.foldl_cons, own_postAvatar, List.foldl_nil]

lemma shows_pictured {body : Bytes} {disk : Disk} {now : ℤ} {shown : UserProfile}
    (h : Shows S ⟨some pictured, some body⟩ disk now shown) : shown.name = "Ann" ∧
      shown.avatarPath = some ("data:image/jpeg;base64," ++ S.base64 body) := by
  have hcurrent : Own.current ⟨some pictured, some body⟩ now = pictured := rfl
  have hfields := h.fields
  have havatar := h.avatar
  rw [hcurrent] at hfields havatar
  have hpath : pictured.avatarPath = some "images/avatar.jpg" := rfl
  have hfile : avatarFile S ⟨some pictured, some body⟩ disk "images/avatar.jpg" = some body := if_pos rfl
  rw [hpath, Option.map_some, hfile] at havatar
  exact ⟨congrArg UserProfile.name hfields, havatar⟩

lemma plain_ann : Plain "ann" := by decide

theorem own_profile_shown_ann : ∃ shown,
    (handle annSetup getOwn (annRun.foldl (step annSetup) ⟨Table.empty, Tree.empty, fun _ => none⟩)).1 =
      .profile shown ∧ shown.name = "Ann" ∧ shown.avatarPath = some ("data:image/jpeg;base64," ++
        annSetup.base64 ([255, 216, 255, 217] ++ List.replicate 4092 0)) := by
  have hget : route getOwn.isPost getOwn.path = .getSelfProfile := by decide +kernel
  obtain ⟨shown, hanswer, hshows⟩ := own_profile_shown (S := annSetup) rfl
    (follows_fresh annSetup ⟨"ann", plain_ann⟩) annRun plain_annRun getOwn hget
  rw [own_annRun, body_postAvatar] at hshows
  exact ⟨shown, hanswer, shows_pictured hshows⟩

end ZzP2p.Web
