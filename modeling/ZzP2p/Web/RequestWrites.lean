import ZzP2p.Messaging.UserShelf
import ZzP2p.Web.Application

/-! What requests can write. Whatever addresses, parameters and bodies they carry, the only files that
change are chats and the profile and the avatar of the node itself. -/

namespace ZzP2p.Web

open Rust Rust.Path Lib Lib.FileTree Db Messaging UserDirectory UserStore ProfileCache

/-- the call leaves all files outside of `W` as they are -/
def Spares {α : Type} (W : Set Place) (m : Call α) : Prop :=
  ∀ disk p, p ∉ W → (m.on disk).2.file? p = disk.file? p

section Rules

variable {α β : Type} {W : Set Place} {m : Call α}

lemma spares_pure (a : α) : Spares W (pure a : Call α) := by
  intro disk p _
  rw [on_pure]

lemma spares_throw (e : Fault) : Spares W (throw e : Call α) := by
  intro disk p _
  rw [on_throw]

lemma Spares.bind {f : α → Call β} (hm : Spares W m) (hf : ∀ a, Spares W (f a)) : Spares W (m >>= f) := by
  intro disk p hp
  cases hon : m.on disk with
  | mk r disk' =>
    have hfirst := hm disk p hp
    rw [hon] at hfirst
    cases r with
    | ok a => rw [on_bind_ok hon, hf a disk' p hp, hfirst]
    | error e => rw [on_bind_error hon, hfirst]

lemma spares_change {f : Disk → Except Failure Disk}
    (hf : ∀ disk disk', f disk = .ok disk' → ∀ p ∉ W, disk'.file? p = disk.file? p) :
    Spares W (change f) := by
  intro disk p hp
  rw [change, on_bind_ok on_get]
  cases hr : f disk with
  | ok disk' =>
    simp only [on_set]
    exact hf disk disk' hr p hp
  | error e => simp only [on_throw]

lemma spares_look (f : Disk → Except Fault α) : Spares W (look f) := by
  intro disk p _
  rw [look, on_bind_ok on_get]
  cases f disk with
  | ok a => simp only [on_pure]
  | error e => simp only [on_throw]

lemma spares_createDirAll (place : Place) : Spares W (change (fun disk => disk.createDirAll place)) :=
  spares_change (fun _ _ h p _ => Tree.file?_createDirAll h p)

lemma spares_writeFile (place : Place) (data : Bytes) :
    Spares {place} (change (fun disk => disk.writeFile place data)) :=
  spares_change (fun _ _ h _ hp => Tree.file?_writeFile h hp)

end Rules

section Store

variable (loc : Location)

lemma mapError_eq_ok {ε ε' α : Type} {x : Except ε α} {f : ε → ε'} {a : α} (h : x.mapError f = .ok a) :
    x = .ok a := by
  cases x with
  | ok b => exact congrArg Except.ok (Except.ok.inj h)
  | error e => cases h

lemma spares_storeFile (address relPath : String) (data : Bytes) :
    Spares {resolve loc.cwd (join (userDir loc.basePath address) relPath)}
      (storeFile loc address relPath data) := by
  rw [storeFile]
  cases parent loc.cwd (join (userDir loc.basePath address) relPath) with
  | none => exact spares_writeFile _ _
  | some dir => exact (spares_createDirAll dir).bind (fun _ => spares_writeFile _ _)

lemma spares_storeJson {α : Type} (json : Json α) (address relPath : String) (value : α) :
    Spares {resolve loc.cwd (join (userDir loc.basePath address) relPath)}
      (storeJson loc json address relPath value) := by
  rw [storeJson]
  cases json.toStringPretty value with
  | some data => exact spares_storeFile loc address relPath (utf8 data)
  | none => exact spares_throw _

lemma spares_saveProfile (profiles : Json UserProfile) (address : String) (profile : UserProfile) :
    Spares {resolve loc.cwd (join (userDir loc.basePath address) "profile.json")}
      (UserDirectory.saveProfile loc profiles address profile) :=
  (spares_createDirAll _).bind (fun _ => spares_storeJson loc profiles address "profile.json" profile)

lemma spares_saveImage (address name : String) (data : Bytes) :
    Spares {resolve loc.cwd (join (userDir loc.basePath address) ("images/" ++ name))}
      (saveImage loc address name data) :=
  (spares_createDirAll _).bind (fun _ => spares_storeFile loc address ("images/" ++ name) data)

/-- the places of chats, wherever they are -/
lemma plain_chat : Plain "chat.json" := by decide

def chatFiles : Set Place := { p | p.getLast? = some ⟨"chat.json", plain_chat⟩ }

lemma chatPath_mem (address : String) : resolve loc.cwd (chatPath loc.basePath address) ∈ chatFiles := by
  have hchat : Plain "chat.json" := by decide
  rw [chatPath, resolve_join loc.cwd (isAbsolute_of_plain hchat), walk_plain _ hchat]
  exact List.getLast?_concat

variable (chats : Json (List ChatMessage))

lemma spares_writeMessagesRaw (address : String) (msgs : List ChatMessage) :
    Spares chatFiles (writeMessagesRaw loc chats address msgs) := by
  have hwrite : ∀ content : String, Spares chatFiles (change (fun disk =>
      (disk.writeFile (resolve loc.cwd (chatPath loc.basePath address)) (utf8 content)).mapError
        (fun _ => Failure.other))) := by
    intro content
    apply spares_change
    intro disk disk' h p hp
    have hok : disk.writeFile (resolve loc.cwd (chatPath loc.basePath address)) (utf8 content) = .ok disk' :=
      mapError_eq_ok h
    have hne : p ≠ resolve loc.cwd (chatPath loc.basePath address) := by
      intro he
      rw [he] at hp
      exact hp (chatPath_mem loc address)
    exact Tree.file?_writeFile hok hne
  rw [writeMessagesRaw]
  cases chats.toStringPretty msgs with
  | none => exact spares_throw _
  | some content =>
    dsimp only
    cases parent loc.cwd (chatPath loc.basePath address) with
    | none => exact hwrite content
    | some dir =>
      refine Spares.bind (spares_change ?_) (fun _ => hwrite content)
      intro disk disk' h p _
      have hok : disk.createDirAll dir = .ok disk' := mapError_eq_ok h
      exact Tree.file?_createDirAll hok p

lemma spares_addMessage (now : ℤ) (contact content : String) (isSent : Bool) (status : String) :
    Spares chatFiles (addMessage loc chats now contact content isSent status) := by
  refine (spares_createDirAll _).bind (fun _ => (spares_look _).bind (fun msgs => ?_))
  exact (spares_writeMessagesRaw loc chats contact _).bind (fun _ => spares_pure _)

lemma spares_updateLastSentStatus (contact newStatus : String) :
    Spares chatFiles (updateLastSentStatus loc chats contact newStatus) := by
  refine (spares_look _).bind (fun msgs => ?_)
  split
  · exact spares_writeMessagesRaw loc chats contact _
  · exact spares_pure _

lemma spares_markAsRead (contact : String) : Spares chatFiles (markAsRead loc chats contact) := by
  refine (spares_look _).bind (fun msgs => ?_)
  split
  · exact spares_writeMessagesRaw loc chats contact _
  · exact spares_pure _

end Store

variable (S : Setup)

def profilePlace : Place := resolve S.loc.cwd (join (userDir S.loc.basePath S.own) "profile.json")

def avatarPlace : Place := resolve S.loc.cwd (join (userDir S.loc.basePath S.own) ("images/" ++ "avatar.jpg"))

/-- the files that requests may write -/
def writable : Set Place := chatFiles ∪ {profilePlace S, avatarPlace S}

/-- a change of the application by one request, or by a part of one -/
structure Modest (a a' : App) : Prop where
  files : ∀ p ∉ writable S, a'.disk.file? p = a.disk.file? p
  unique : a.contacts.UniqueKeys Contact.Columns.address → a'.contacts.UniqueKeys Contact.Columns.address
  contacts : ∀ c ∈ a'.contacts.values, c ∈ a.contacts.values ∨ c.name ≠ "" ∧ c.address ≠ ""

variable {S} {a a' a'' : App}

lemma Modest.refl (a : App) : Modest S a a := ⟨fun _ _ => rfl, id, fun _ hc => Or.inl hc⟩

lemma Modest.trans (h : Modest S a a') (h' : Modest S a' a'') : Modest S a a'' where
  files p hp := (h'.files p hp).trans (h.files p hp)
  unique hu := h'.unique (h.unique hu)
  contacts c hc := (h'.contacts c hc).elim (fun hc' => h.contacts c hc') Or.inr

lemma modest_disk {α : Type} {W : Set Place} {m : Call α} (h : Spares W m) (hsub : W ⊆ writable S)
    (cache : String → Option UserProfile) :
    Modest S a ⟨a.contacts, (m.on a.disk).2, cache⟩ :=
  ⟨fun p hp => h a.disk p (fun hw => hp (hsub hw)), id, fun _ hc => Or.inl hc⟩

lemma modest_cache (cache : String → Option UserProfile) : Modest S a { a with cache := cache } :=
  ⟨fun _ _ => rfl, id, fun _ hc => Or.inl hc⟩

lemma modest_loadProfile (now : ℤ) (address : String) : Modest S a (loadProfile S now address a).2 := by
  rw [loadProfile]
  cases a.cache address with
  | some profile => exact Modest.refl a
  | none =>
    cases loadJson S.loc S.profiles a.disk address "profile.json" with
    | ok profile => exact modest_cache _
    | error e => exact Modest.refl a

lemma modest_profileOrDefault (now : ℤ) (address : String) :
    Modest S a (profileOrDefault S now address a).2 := by
  have hload := modest_loadProfile (S := S) (a := a) now address
  rw [profileOrDefault]
  cases hl : loadProfile S now address a with
  | mk r a' =>
    rw [hl] at hload
    cases r <;> exact hload

lemma modest_saveProfile (profile : UserProfile) : Modest S a (saveProfile S S.own profile a).2 := by
  have hspares := spares_saveProfile S.loc S.profiles S.own profile
  have hsub : {resolve S.loc.cwd (join (userDir S.loc.basePath S.own) "profile.json")} ⊆ writable S :=
    Set.singleton_subset_iff.mpr (Or.inr (Or.inl rfl))
  have hdisk := fun cache => modest_disk (a := a) hspares hsub cache
  rw [saveProfile]
  cases hon : (UserDirectory.saveProfile S.loc S.profiles S.own profile).on a.disk with
  | mk r disk =>
    simp only [hon] at hdisk
    cases r with
    | ok u => exact hdisk _
    | error e => exact hdisk a.cache

lemma modest_saveImage (data : Bytes) (cache : String → Option UserProfile) :
    Modest S a ⟨a.contacts, ((saveImage S.loc S.own "avatar.jpg" data).on a.disk).2, cache⟩ :=
  modest_disk (spares_saveImage S.loc S.own "avatar.jpg" data)
    (Set.singleton_subset_iff.mpr (Or.inr (Or.inr rfl))) cache

lemma modest_chat {α : Type} {m : Call α} (h : Spares chatFiles m) :
    Modest S a { a with disk := (m.on a.disk).2 } :=
  modest_disk h Set.subset_union_left a.cache

lemma test_of_route {isPost : Bool} {path : String} {x : Route} (h : route isPost path = x) :
    x = .index ∨ ∃ test, (x, test) ∈ tests ∧ test isPost path = true := by
  rw [route] at h
  cases hfind : tests.find? (fun t => t.2 isPost path) with
  | none =>
    rw [hfind] at h
    exact Or.inl h.symm
  | some t =>
    rw [hfind] at h
    have hmem := List.mem_of_find?_eq_some hfind
    have htest := List.find?_some hfind
    obtain ⟨y, test⟩ := t
    cases h
    exact Or.inr ⟨test, hmem, htest⟩

lemma path_of_saveProfile {isPost : Bool} {path : String} (h : route isPost path = .saveProfile) :
    path = "/api/profile" := by
  rcases test_of_route h with h | ⟨test, hmem, htest⟩
  · cases h
  · simp [tests] at hmem
    rw [hmem] at htest
    simpa using (Bool.and_eq_true_iff.mp htest).2

lemma path_of_uploadAvatar {isPost : Bool} {path : String} (h : route isPost path = .uploadAvatar) :
    path = "/api/profile/avatar" := by
  rcases test_of_route h with h | ⟨test, hmem, htest⟩
  · cases h
  · simp [tests] at hmem
    rw [hmem] at htest
    simpa using (Bool.and_eq_true_iff.mp htest).2

/-- The routes that write a profile have paths without a parameter. -/
lemma target_eq {r : Request} (h : route r.isPost r.path = .saveProfile ∨
    route r.isPost r.path = .uploadAvatar) : target S r = S.own := by
  have hnone : getQueryParam r.path "address" = none := by
    rcases h with h | h
    · rw [path_of_saveProfile h]
      rfl
    · rw [path_of_uploadAvatar h]
      rfl
  rw [target, hnone]
  rfl

lemma modest_saveRequest {r : Request} (ht : target S r = S.own) : Modest S a (handleSaveProfile S r a).2 := by
  simp only [handleSaveProfile, ht]
  cases S.profiles.fromSlice ((readHttpBody r).2.take (readHttpBody r).1) with
  | none => exact Modest.refl a
  | some profile =>
    by_cases havatar : profile.avatarPath = none
    · simp only [havatar, if_true]
      have hload := modest_loadProfile (S := S) (a := a) r.now S.own
      cases hl : loadProfile S r.now S.own a with
      | mk result a' =>
        rw [hl] at hload
        cases result with
        | ok existing => exact hload.trans (modest_saveProfile _)
        | error e => exact hload.trans (modest_saveProfile _)
    · simp only [havatar, if_false]
      exact modest_saveProfile _

lemma modest_uploadRequest {r : Request} (ht : target S r = S.own) :
    Modest S a (handleUploadAvatar S r a).2 := by
  rw [handleUploadAvatar, ht]
  obtain ⟨cl, body⟩ := readHttpBody r
  dsimp only
  have himage := modest_saveImage (S := S) (a := a) body a.cache
  cases hon : (saveImage S.loc S.own "avatar.jpg" body).on a.disk with
  | mk result disk =>
    rw [hon] at himage
    cases result with
    | error e => exact himage
    | ok u =>
      have hload := modest_loadProfile (S := S) (a := ⟨a.contacts, disk, a.cache⟩) r.now S.own
      dsimp only
      cases hl : loadProfile S r.now S.own ⟨a.contacts, disk, a.cache⟩ with
      | mk loaded a' =>
        rw [hl] at hload
        cases loaded with
        | ok profile => exact (himage.trans hload).trans (modest_saveProfile _)
        | error e => exact himage.trans hload

lemma add_cases (w : Statement) (t : Contact.ContactTable) (name address : String) :
    (Contact.add w t name address).2 = t ∨ t.rowAt Contact.Columns.address address = none ∧
      (Contact.add w t name address).2 = t.insert (Contact.newRow w.now name address) := by
  rw [Contact.add]
  by_cases htaken : w.refusal = none ∧ (t.rowAt Contact.Columns.address address).isSome
  · rw [if_pos htaken]
    exact Or.inl rfl
  · rw [if_neg htaken]
    rcases insertRow_cases w t (Contact.newRow w.now name address) with ⟨e, he⟩ | ⟨-, hok⟩
    · rw [he]
      exact Or.inl rfl
    · have hw : w.refusal = none := by
        by_contra hne
        obtain ⟨message, hm⟩ := Option.ne_none_iff_exists'.mp hne
        rw [insertRow, hm] at hok
        cases hok
      rw [hok]
      exact Or.inr ⟨by simpa [hw] using htaken, rfl⟩

lemma modest_addContact (w : Statement) {name address : String} (hname : name ≠ "") (haddress : address ≠ "") :
    Modest S a { a with contacts := (Contact.add w a.contacts name address).2 } := by
  rcases add_cases w a.contacts name address with hsame | ⟨hfresh, hnew⟩
  · rw [hsame]
    exact Modest.refl a
  · rw [hnew]
    refine ⟨fun _ _ => rfl, fun hu => hu.insert hfresh, fun c hc => ?_⟩
    rw [Table.values_insert, List.mem_append, List.mem_singleton] at hc
    rcases hc with hc | rfl
    · exact Or.inl hc
    · exact Or.inr ⟨hname, haddress⟩

lemma modest_addRequest (r : Request) : Modest S a (handleAddContact S r a).2 := by
  rw [handleAddContact]
  by_cases hmissing : bodyText S r "name" = "" ∨ bodyText S r "address" = ""
  · simp only [hmissing, if_true]
    exact Modest.refl a
  · have hne := not_or.mp hmissing
    have hadd := modest_addContact (S := S) (a := a) r.statement hne.1 hne.2
    simp only [hmissing, if_false]
    cases hr : Contact.add r.statement a.contacts (bodyText S r "name") (bodyText S r "address") with
    | mk result contacts =>
      rw [hr] at hadd
      cases result <;> exact hadd

lemma delete_cases (w : Statement) (t : Contact.ContactTable) (address : String) :
    (Contact.delete w t address).2 = t ∨
      (Contact.delete w t address).2 = t.delete (fun r => r.address == address) := by
  rw [Contact.delete]
  cases w.refusal with
  | some message => exact Or.inl rfl
  | none => exact Or.inr rfl

lemma modest_deleteContact (w : Statement) (address : String) :
    Modest S a { a with contacts := (Contact.delete w a.contacts address).2 } := by
  rcases delete_cases w a.contacts address with hsame | hdelete
  · rw [hsame]
    exact Modest.refl a
  · rw [hdelete]
    refine ⟨fun _ _ => rfl, fun hu => hu.delete _, fun c hc => Or.inl ?_⟩
    obtain ⟨q, hq, rfl⟩ := List.mem_map.mp hc
    exact List.mem_map_of_mem (List.mem_of_mem_filter hq)

lemma modest_deleteRequest (r : Request) : Modest S a (handleDeleteContact r a).2 := by
  have hdelete := modest_deleteContact (S := S) (a := a) r.statement (parameter r "address")
  rw [handleDeleteContact]
  cases hr : Contact.delete r.statement a.contacts (parameter r "address") with
  | mk result contacts =>
    rw [hr] at hdelete
    cases result <;> exact hdelete

lemma modest_foldl {α β : Type} {f : β × App → α → β × App} (hf : ∀ s x, Modest S s.2 (f s x).2)
    (xs : List α) (s : β × App) : Modest S s.2 (xs.foldl f s).2 := by
  induction xs generalizing s with
  | nil => exact Modest.refl s.2
  | cons x xs ih => exact (hf s x).trans (ih (f s x))

lemma modest_listContact (now : ℤ) (unread : List (String × UInt64)) (s : List ContactInfo × App)
    (c : ℕ × Contact.Columns) : Modest S s.2 (listContact S now unread s c).2 := by
  rw [listContact]
  by_cases hown : c.2.address = S.own
  · rw [if_pos hown]
    exact Modest.refl s.2
  · rw [if_neg hown]
    exact modest_profileOrDefault now c.2.address

lemma modest_listNode (now : ℤ) (s : List ContactInfo × App) (address : String) :
    Modest S s.2 (listNode S now s address).2 := by
  rw [listNode]
  by_cases hskip : address = S.own ∨ s.1.any (fun c => c.address == address)
  · rw [if_pos hskip]
    exact Modest.refl s.2
  · rw [if_neg hskip]
    exact modest_profileOrDefault now address

lemma modest_listRequest (r : Request) : Modest S a (handleListContacts S r a).2 :=
  (modest_foldl (modest_listContact r.now _) _ ([], a)).trans (modest_foldl (modest_listNode r.now) _ _)

lemma modest_handle (r : Request) : Modest S a (handle S r a).2 := by
  rw [handle]
  cases hroute : route r.isPost r.path with
  | transfer =>
    dsimp only [handleTransfer]
    split <;> exact Modest.refl a
  | listContacts => exact modest_listRequest r
  | addContact => exact modest_addRequest r
  | deleteContact => exact modest_deleteRequest r
  | getChatMessages => exact modest_chat (spares_markAsRead S.loc S.chats _)
  | getConversations =>
    dsimp only [handleGetConversations]
    split <;> exact Modest.refl a
  | getProfile => exact modest_profileOrDefault r.now _
  | getSelfProfile => exact modest_profileOrDefault r.now _
  | saveProfile => exact modest_saveRequest (target_eq (Or.inl hroute))
  | uploadAvatar => exact modest_uploadRequest (target_eq (Or.inr hroute))
  | sendChat =>
    dsimp only [handleSendChat]
    split
    · exact Modest.refl a
    · exact modest_chat (spares_addMessage S.loc S.chats _ _ _ _ _)
  | address => exact Modest.refl a
  | data => exact Modest.refl a
  | wallet => exact Modest.refl a
  | chat => exact Modest.refl a
  | network => exact Modest.refl a
  | index => exact Modest.refl a

lemma modest_step (e : Event) : Modest S a (step S a e) := by
  cases e with
  | request r => exact modest_handle r
  | delivered contact => exact modest_chat (spares_updateLastSentStatus S.loc S.chats contact "delivered")

lemma modest_run (a : App) (events : List Event) : Modest S a (events.foldl (step S) a) := by
  induction events generalizing a with
  | nil => exact Modest.refl a
  | cons e events ih => exact (modest_step e).trans (ih (step S a e))

theorem requests_write_only (S : Setup) (a : App) (events : List Event) :
    (∀ p, (events.foldl (step S) a).disk.file? p ≠ a.disk.file? p →
        p.getLast? = some ⟨"chat.json", plain_chat⟩ ∨ p = profilePlace S ∨ p = avatarPlace S) ∧
      (a.contacts.UniqueKeys Contact.Columns.address →
        (events.foldl (step S) a).contacts.UniqueKeys Contact.Columns.address) ∧
      ∀ c ∈ (events.foldl (step S) a).contacts.values,
        c ∈ a.contacts.values ∨ c.name ≠ "" ∧ c.address ≠ "" := by
  have hrun := modest_run (S := S) a events
  refine ⟨fun p hp => ?_, hrun.unique, hrun.contacts⟩
  by_contra hw
  exact hp (hrun.files p hw)

end ZzP2p.Web
