import ZzP2p.Messaging.UserShelf

/-! The lists the user store makes by walking directories, whatever order the system lists them in. -/

namespace ZzP2p.Messaging.UserDirectory

open Rust Rust.Path Lib Lib.FileTree UserStore ProfileCache

/-- the names with a property, each once and in order -/
def Lists (names : List String) (P : Name → Prop) : Prop :=
  names.Pairwise (· < ·) ∧ ∀ x, x ∈ names ↔ ∃ n : Name, n.val = x ∧ P n

lemma pairwise_lt_of_nodup {l : List String} (hsorted : l.Pairwise (· ≤ ·)) (hnodup : l.Nodup) :
    l.Pairwise (· < ·) :=
  (hsorted.and hnodup).imp (fun h => lt_of_le_of_ne h.1 h.2)

lemma lists_insertionSort {names : List Name} (hnodup : names.Nodup) :
    Lists ((names.map Subtype.val).insertionSort (· ≤ ·)) (· ∈ names) := by
  have hperm := List.perm_insertionSort (· ≤ ·) (names.map Subtype.val)
  constructor
  · apply pairwise_lt_of_nodup (List.pairwise_insertionSort _ _)
    exact hperm.nodup_iff.mpr (hnodup.map Subtype.val_injective)
  · intro x
    rw [hperm.mem_iff, List.mem_map]
    exact exists_congr (fun n => and_comm)

lemma Lists.congr {names : List String} {P Q : Name → Prop} (h : Lists names P) (hpq : ∀ n, P n ↔ Q n) :
    Lists names Q :=
  ⟨h.1, fun x => (h.2 x).trans (exists_congr (fun n => and_congr_right (fun _ => hpq n)))⟩

variable {loc : Location} {chats : Json (List ChatMessage)} {profiles : Json UserProfile}
  {disk : Disk} {s : Shelf} (order : MapOrder Name)

/-- A directory that is there or missing is listed: its entries in some order, or none. -/
lemma readDir_entries {dir : Place} (hdir : ∀ data, disk.entry dir ≠ some (.file data))
    (hfree : disk.barred dir = false) (keep : Name → Bool) :
    ∃ names : List Name, names.Nodup ∧
      (∀ n, n ∈ names ↔ (disk.entry (dir ++ [n])).isSome ∧ keep n = true) ∧
      ((∃ entries, disk.readDir order dir = .ok entries ∧ entries.filter keep = names) ∨
        (disk.readDir order dir = .error .notFound ∧ names = [])) := by
  cases he : disk.entry dir with
  | none =>
    refine ⟨[], List.nodup_nil, fun n => ?_, Or.inr ⟨Tree.readDir_none order he hfree, rfl⟩⟩
    have hnone : ¬ (disk.entry (dir ++ [n])).isSome := by
      intro hn
      have habove := Tree.entry_parent hn
      rw [he] at habove
      cases habove
    simp [hnone]
  | some e =>
    cases e with
    | file data => exact absurd he (hdir data)
    | dir =>
      refine ⟨(order.arrange (disk.children dir)).filter keep, ?_, fun n => ?_,
        Or.inl ⟨_, Tree.readDir_dir order he, rfl⟩⟩
      · exact ((order.perm _).nodup_iff.mpr (Tree.nodup_children disk dir)).filter _
      · rw [List.mem_filter, (order.perm _).mem_iff, Tree.mem_children]

lemma isFile_iff {place : Place} : isFile disk place = true ↔ ∃ data, disk.entry place = some (.file data) := by
  rw [isFile]
  cases disk.entry place with
  | none => simp
  | some e => cases e <;> simp

lemma listFiles_lists {address subdir : String} {dir : Place}
    (hresolve : resolve loc.cwd (join (userDir loc.basePath address) subdir) = dir)
    (hdir : ∀ data, disk.entry dir ≠ some (.file data)) (hfree : disk.barred dir = false) :
    ∃ names, listFiles loc order disk address subdir = .ok names ∧
      Lists names (fun n => ∃ data, disk.entry (dir ++ [n]) = some (.file data)) := by
  obtain ⟨names, hnodup, hmem, hread⟩ := readDir_entries order hdir hfree
    (fun name => isFile disk (dir ++ [name]))
  have hlists : Lists ((names.map Subtype.val).insertionSort (· ≤ ·))
      (fun n => ∃ data, disk.entry (dir ++ [n]) = some (.file data)) := by
    refine (lists_insertionSort hnodup).congr (fun n => ?_)
    rw [hmem, isFile_iff]
    exact ⟨fun h => h.2, fun h => ⟨by obtain ⟨data, hd⟩ := h; rw [hd]; rfl, h⟩⟩
  refine ⟨_, ?_, hlists⟩
  rcases hread with ⟨entries, hok, hfilter⟩ | ⟨herror, hnil⟩
  · simp only [listFiles, hresolve, hok, hfilter]
  · simp only [listFiles, hresolve, herror, hnil]
    rfl

lemma Represents.entry_file_iff (h : Represents loc disk s) (a : Name) (σ : Slot) :
    (∃ data, disk.entry (place loc a σ) = some (.file data)) ↔ (s.file a σ).isSome := by
  rw [h.file]
  cases s.file a σ <;> simp

lemma Represents.listImages (h : Represents loc disk s) (a : Name) :
    ∃ names, UserDirectory.listImages loc order disk a.val = .ok names ∧
      Lists names (fun n => (s.file a (.image n)).isSome) := by
  have hfree := h.holder_not_barred a (.image a)
  obtain ⟨names, hok, hlists⟩ := listFiles_lists order (resolve_images loc a) (h.images a) hfree
  refine ⟨names, hok, hlists.congr (fun n => ?_)⟩
  rw [← h.entry_file_iff]
  simp [place, Slot.dir, Slot.name]

lemma Represents.listFiles (h : Represents loc disk s) (a : Name) :
    ∃ names, UserDirectory.listFiles loc order disk a.val "" = .ok names ∧
      Lists names (fun n => ∃ hn : n ≠ UserDirectory.images, (s.file a (.file n hn)).isSome) := by
  have hresolve : resolve loc.cwd (join (userDir loc.basePath a.val) "") = users loc ++ [a] := by
    rw [resolve_join loc.cwd (by decide), walk_empty, resolve_user]
  obtain ⟨names, hok, hlists⟩ := listFiles_lists order hresolve (h.user a) (h.holder_not_barred a .chat)
  refine ⟨names, hok, hlists.congr (fun n => ?_)⟩
  by_cases hn : n = UserDirectory.images
  · subst hn
    simp [h.images a]
  · simp only [ne_eq, hn, not_false_eq_true, exists_true_left, ← h.entry_file_iff]
    simp [place, Slot.dir, Slot.name]

/-- the chat of an address as the lists show it -/
def Shelf.chatShown (chats : Json (List ChatMessage)) (s : Shelf) (a : Name) : List ChatMessage :=
  match s.messages chats a with
  | .ok msgs => msgs
  | .error _ => []

lemma Represents.messagesOrEmpty (h : Represents loc disk s) (a : Name) :
    messagesOrEmpty loc chats disk a.val = s.chatShown chats a := by
  rw [UserDirectory.messagesOrEmpty, h.readMessagesRaw]
  rfl

lemma Represents.userNames (h : Represents loc disk s) : ∃ names : List Name, names.Nodup ∧
    (∀ a, a ∈ names ↔ a ∈ s.known) ∧ userNames loc order disk = .ok (names.map Subtype.val) := by
  have hdir : ∀ data, disk.entry (users loc) ≠ some (.file data) := by
    intro data hd
    rcases Tree.barred_eq_false.mp h.clear (users loc) List.prefix_rfl with he | he
    · rw [hd] at he
      cases he
    · rw [hd] at he
      cases he
  obtain ⟨names, hnodup, hmem, hread⟩ := readDir_entries order hdir h.clear
    (fun name => disk.isDir (users loc ++ [name]))
  refine ⟨names, hnodup, fun a => ?_, ?_⟩
  · rw [hmem, Tree.isDir_iff, h.known]
    exact ⟨fun hd => hd.2, fun hd => ⟨by rw [hd]; rfl, hd⟩⟩
  · rcases hread with ⟨entries, hok, hfilter⟩ | ⟨herror, hnil⟩
    · simp only [UserDirectory.userNames, hok, hfilter]
    · simp only [UserDirectory.userNames, herror, hnil, List.map_nil]

structure ContactList (s : Shelf) (chats : Json (List ChatMessage)) (result : List (String × UInt64)) :
    Prop where
  sorted : (result.map Prod.fst).Pairwise (· < ·)
  entries : ∀ x, x ∈ result ↔ ∃ a ∈ s.known, x = (a.val, unreadCount (s.chatShown chats a))

structure ConversationList (s : Shelf) (chats : Json (List ChatMessage))
    (result : List ConversationSummary) : Prop where
  once : (result.map ConversationSummary.contactAddress).Nodup
  sorted : result.Pairwise (fun x y => y.lastTimestamp ≤ x.lastTimestamp)
  entries : ∀ x, x ∈ result ↔ ∃ a ∈ s.known, summary a.val (s.chatShown chats a) = some x

lemma Represents.contacts (h : Represents loc disk s) :
    ∃ result, getAllContactsWithUnread loc chats order disk = .ok result ∧ ContactList s chats result := by
  obtain ⟨names, hnodup, hmem, hnames⟩ := h.userNames order
  have hmap : (names.map Subtype.val).map
      (fun name => (name, unreadCount (UserDirectory.messagesOrEmpty loc chats disk name))) =
      names.map (fun a => (a.val, unreadCount (s.chatShown chats a))) := by
    rw [List.map_map]
    apply List.map_congr_left
    intro a _
    simp only [Function.comp_apply, h.messagesOrEmpty]
  have hok : getAllContactsWithUnread loc chats order disk = .ok
      ((names.map (fun a => (a.val, unreadCount (s.chatShown chats a)))).insertionSort
        (fun a b => a.1 ≤ b.1)) := by
    rw [getAllContactsWithUnread, hnames]
    simp only [Bind.bind, Except.bind, hmap]
  refine ⟨_, hok, ?_⟩
  have hperm := List.perm_insertionSort (fun a b : String × UInt64 => a.1 ≤ b.1)
    (names.map (fun a => (a.val, unreadCount (s.chatShown chats a))))
  constructor
  · apply pairwise_lt_of_nodup
    · exact List.pairwise_map.mpr (List.pairwise_insertionSort _ _)
    · rw [(hperm.map Prod.fst).nodup_iff, List.map_map]
      exact hnodup.map Subtype.val_injective
  · intro x
    rw [hperm.mem_iff, List.mem_map]
    exact exists_congr (fun a => and_congr (hmem a) eq_comm)

lemma summary_contactAddress {name : String} {msgs : List ChatMessage} {x : ConversationSummary}
    (h : summary name msgs = some x) : x.contactAddress = name := by
  obtain ⟨last, -, rfl⟩ := Option.map_eq_some_iff.mp h
  rfl

lemma nodup_summaries {names : List Name} (hnodup : names.Nodup) (msgs : Name → List ChatMessage) :
    ((names.filterMap (fun a => summary a.val (msgs a))).map ConversationSummary.contactAddress).Nodup := by
  rw [List.Nodup, List.pairwise_map, List.pairwise_filterMap]
  refine hnodup.imp ?_
  intro a b hab x hx y hy he
  rw [summary_contactAddress hx, summary_contactAddress hy] at he
  exact hab (Subtype.val_injective he)

lemma Represents.conversations (h : Represents loc disk s) :
    ∃ result, getConversations loc chats order disk = .ok result ∧ ConversationList s chats result := by
  obtain ⟨names, hnodup, hmem, hnames⟩ := h.userNames order
  have hmap : (names.map Subtype.val).filterMap
      (fun name => summary name (UserDirectory.messagesOrEmpty loc chats disk name)) =
      names.filterMap (fun a => summary a.val (s.chatShown chats a)) := by
    rw [List.filterMap_map]
    apply List.filterMap_congr
    intro a _
    simp only [Function.comp_apply, h.messagesOrEmpty]
  have hok : getConversations loc chats order disk = .ok
      ((names.filterMap (fun a => summary a.val (s.chatShown chats a))).insertionSort
        (fun a b => b.lastTimestamp ≤ a.lastTimestamp)) := by
    rw [getConversations, hnames]
    simp only [Bind.bind, Except.bind, hmap]
  refine ⟨_, hok, ?_⟩
  have hperm := List.perm_insertionSort (fun a b : ConversationSummary => b.lastTimestamp ≤ a.lastTimestamp)
    (names.filterMap (fun a => summary a.val (s.chatShown chats a)))
  constructor
  · rw [(hperm.map _).nodup_iff]
    exact nodup_summaries hnodup _
  · exact List.pairwise_insertionSort _ _
  · intro x
    rw [hperm.mem_iff, List.mem_filterMap]
    exact exists_congr (fun a => and_congr_left' (hmem a))

variable (chats profiles)

theorem store_follows_shelf (h : Represents loc disk s) (calls : List Operation) :
    Service.answers (serve loc chats profiles) disk calls =
      Service.answers (Shelf.serve chats profiles) s calls ∧
    ∀ a : Name,
      (∀ σ, readFile loc (Service.after (serve loc chats profiles) disk calls) a.val σ.relPath =
        .ok ((Service.after (Shelf.serve chats profiles) s calls).file a σ)) ∧
      ∀ order, (∃ names,
          listFiles loc order (Service.after (serve loc chats profiles) disk calls) a.val "" = .ok names ∧
          Lists names (fun n => ∃ hn : n ≠ images,
            ((Service.after (Shelf.serve chats profiles) s calls).file a (.file n hn)).isSome)) ∧
        ∃ names,
          listImages loc order (Service.after (serve loc chats profiles) disk calls) a.val = .ok names ∧
          Lists names (fun n =>
            ((Service.after (Shelf.serve chats profiles) s calls).file a (.image n)).isSome) := by
  have hfollows : Service.Follows (Represents loc) (serve loc chats profiles)
      (Shelf.serve chats profiles) := serve_follows
  have hafter := Service.after_related hfollows h calls
  refine ⟨Service.answers_eq serve_follows h calls, fun a => ⟨hafter.readFile a, fun order => ?_⟩⟩
  exact ⟨hafter.listFiles order a, hafter.listImages order a⟩

def noText {α : Type} : Json α := ⟨fun _ => none, fun _ => none, fun _ => none⟩

def alice : Name := ⟨"alice", by decide⟩

def avatar : Name := ⟨"avatar.jpg", by decide⟩

theorem store_follows_shelf_avatar :
    readFile ⟨[], "/data"⟩ (Service.after (serve ⟨[], "/data"⟩ noText noText) Tree.empty
      [.saveImage alice avatar [255, 216], .storeFile alice .chat [91, 93], .deleteImage alice avatar,
        .saveImage alice avatar [255, 217]]) alice.val ("images/" ++ avatar.val) = .ok (some [255, 217]) := by
  have hread := ((store_follows_shelf noText noText (represents_empty ⟨[], "/data"⟩)
    [.saveImage alice avatar [255, 216], .storeFile alice .chat [91, 93], .deleteImage alice avatar,
      .saveImage alice avatar [255, 217]]).2 alice).1 (.image avatar)
  have hshelf : (Service.after (Shelf.serve noText noText) Shelf.empty
      [.saveImage alice avatar [255, 216], .storeFile alice .chat [91, 93], .deleteImage alice avatar,
        .saveImage alice avatar [255, 217]]).file alice (.image avatar) = some [255, 217] := by
    simp [Service.after, Shelf.serve, Shelf.put]
  rw [hshelf] at hread
  exact hread

theorem conversations_follow_shelf (h : Represents loc disk s) (calls : List Operation) :
    (∀ a : Name, getMessages loc chats (Service.after (serve loc chats profiles) disk calls) a.val =
      (Service.after (Shelf.serve chats profiles) s calls).messages chats a) ∧
    ∀ order, (∃ contacts, getAllContactsWithUnread loc chats order
          (Service.after (serve loc chats profiles) disk calls) = .ok contacts ∧
        ContactList (Service.after (Shelf.serve chats profiles) s calls) chats contacts) ∧
      ∃ conversations, getConversations loc chats order
          (Service.after (serve loc chats profiles) disk calls) = .ok conversations ∧
        ConversationList (Service.after (Shelf.serve chats profiles) s calls) chats conversations := by
  have hfollows : Service.Follows (Represents loc) (serve loc chats profiles)
      (Shelf.serve chats profiles) := serve_follows
  have hafter := Service.after_related hfollows h calls
  exact ⟨hafter.readMessagesRaw, fun order => ⟨hafter.contacts order, hafter.conversations order⟩⟩

def greeting : ChatMessage := ⟨1, "alice", "hi", false, "received", 5⟩

def greetingText : String :=
  "[" ++ "\n  \x7b\n    \"id\": 1,\n    \"contact_address\": \"alice\",\n    \"content\": \"hi\",\n" ++
  "    \"is_sent\": false,\n    \"status\": \"received\",\n    \"timestamp\": 5\n  \x7d\n]"

/-- the encoding at the one text -/
def greetingJson : Json (List ChatMessage) where
  toStringPretty msgs := if msgs = [greeting] then some greetingText else none
  fromStr text := if text = greetingText then some [greeting] else none
  fromSlice data := if data = utf8 greetingText then some [greeting] else none

lemma after_greeting : Service.after (Shelf.serve greetingJson noText) Shelf.empty
    [.addMessage 5 alice "hi" false "received"] = Shelf.empty.put alice .chat (utf8 greetingText) := by
  have htext : greetingJson.toStringPretty [⟨1, alice.val, "hi", false, "received", 5⟩] =
      some greetingText := by
    simp [greetingJson, greeting, alice]
  simp [Service.after, Shelf.serve, Shelf.replies, Shelf.sendMessage, Shelf.messages, Shelf.empty,
    Shelf.putText, Shelf.know_put, htext]

lemma parseMessages_utf8 {chats : Json (List ChatMessage)} {text : String} {msgs : List ChatMessage}
    (htrim : trim text.toList ≠ []) (htext : chats.fromStr text = some msgs) :
    parseMessages chats (utf8 text) = .ok msgs := by
  simp only [parseMessages, fromUtf8_utf8, if_neg htrim, htext]

lemma chatShown_put {chats : Json (List ChatMessage)} {a : Name} {data : Bytes} {msgs : List ChatMessage}
    (h : parseMessages chats data = .ok msgs) : (s.put a .chat data).chatShown chats a = msgs := by
  simp [Shelf.chatShown, Shelf.messages, Shelf.put, h]

lemma trim_greeting : trim greetingText.toList ≠ [] := by
  rw [greetingText, String.append_assoc, String.toList_append]
  exact trim_ne_nil (c := '[') (List.mem_append_left _ (by decide)) (by decide)

theorem conversations_follow_shelf_greeting : ∃ conversations,
    getConversations ⟨[], "/data"⟩ greetingJson ⟨id, List.Perm.refl⟩
      (Service.after (serve ⟨[], "/data"⟩ greetingJson noText) Tree.empty
        [.addMessage 5 alice "hi" false "received"]) = .ok conversations ∧
      ⟨alice.val, "hi", 5, false, 1⟩ ∈ conversations := by
  obtain ⟨-, hlists⟩ := conversations_follow_shelf greetingJson noText
    (represents_empty ⟨[], "/data"⟩) [.addMessage 5 alice "hi" false "received"]
  obtain ⟨-, conversations, hok, hlist⟩ := hlists ⟨id, List.Perm.refl⟩
  rw [after_greeting] at hlist
  refine ⟨conversations, hok, (hlist.entries _).mpr ⟨alice, Set.mem_insert _ _, ?_⟩⟩
  have htext : greetingJson.fromStr greetingText = some [greeting] := by simp only [greetingJson, if_true]
  rw [chatShown_put (parseMessages_utf8 trim_greeting htext)]
  simp [summary, greeting, unreadCount, Files.isUnread]

end ZzP2p.Messaging.UserDirectory
