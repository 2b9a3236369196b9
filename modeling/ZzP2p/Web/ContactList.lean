import Mathlib.Data.String.Basic
import ZzP2p.Messaging.Conversations
import ZzP2p.Web.OwnProfile

/-! The list of contacts that a page shows: those of the database, and the nodes of the registry that
are not among them. -/

namespace ZzP2p.Web

open Rust Rust.Path Lib Db Messaging UserDirectory UserStore ProfileCache

section Map

variable {map : List ContactInfo} {info : ContactInfo}

def InOrder (map : List ContactInfo) : Prop := map.Pairwise (fun c d => c.address < d.address)

lemma mem_insertContact {c : ContactInfo} :
    c ∈ insertContact info map ↔ c = info ∨ c ∈ map ∧ c.address ≠ info.address := by
  rw [insertContact, List.mem_append, List.mem_cons, List.mem_filter, List.mem_filter]
  simp only [decide_eq_true_eq]
  constructor
  · rintro (⟨hc, hlt⟩ | rfl | ⟨hc, hlt⟩)
    · exact Or.inr ⟨hc, hlt.ne⟩
    · exact Or.inl rfl
    · exact Or.inr ⟨hc, hlt.ne'⟩
  · rintro (rfl | ⟨hc, hne⟩)
    · exact Or.inr (Or.inl rfl)
    · rcases lt_or_gt_of_ne hne with hlt | hlt
      · exact Or.inl ⟨hc, hlt⟩
      · exact Or.inr (Or.inr ⟨hc, hlt⟩)

lemma inOrder_insertContact (h : InOrder map) (info : ContactInfo) : InOrder (insertContact info map) := by
  refine List.pairwise_append.mpr ⟨h.filter _, List.pairwise_cons.mpr ⟨?_, h.filter _⟩, ?_⟩
  · intro d hd
    simpa using (List.mem_filter.mp hd).2
  · intro c hc d hd
    have hlt : c.address < info.address := by simpa using (List.mem_filter.mp hc).2
    rcases List.mem_cons.mp hd with rfl | hd
    · exact hlt
    · exact hlt.trans (by simpa using (List.mem_filter.mp hd).2)

end Map

/-- what the list is made from, besides the addresses -/
structure Sight where
  unread : String → UInt64
  profile : String → UserProfile

def Sight.ofContact (v : Sight) (c : ℕ × Contact.Columns) : ContactInfo :=
  ⟨some c.1, c.2.name, c.2.address, some c.2.createdAt, v.unread c.2.address, false,
    (v.profile c.2.address).nickname, (v.profile c.2.address).avatarPath⟩

def Sight.ofNode (v : Sight) (address : String) : ContactInfo :=
  ⟨none, lastPart address, address, none, 0, true, (v.profile address).nickname,
    (v.profile address).avatarPath⟩

structure Listed (own : String) (v : Sight) (contacts : List (ℕ × Contact.Columns)) (nodes : List String)
    (list : List ContactInfo) : Prop where
  order : InOrder list
  entries : ∀ x, x ∈ list ↔ (∃ c ∈ contacts, c.2.address ≠ own ∧ x = v.ofContact c) ∨
    ∃ n ∈ nodes, n ≠ own ∧ (∀ c ∈ contacts, c.2.address ≠ n) ∧ x = v.ofNode n

variable {own : String} {v : Sight} {contacts : List (ℕ × Contact.Columns)} {nodes : List String}
  {list : List ContactInfo}

lemma Listed.address_iff (h : Listed own v contacts nodes list) (n : String) :
    (∃ x ∈ list, x.address = n) ↔ n ≠ own ∧ ((∃ c ∈ contacts, c.2.address = n) ∨ n ∈ nodes) := by
  constructor
  · rintro ⟨x, hx, rfl⟩
    rcases (h.entries x).mp hx with ⟨c, hc, hown, rfl⟩ | ⟨n, hn, hown, -, rfl⟩
    · exact ⟨hown, Or.inl ⟨c, hc, rfl⟩⟩
    · exact ⟨hown, Or.inr hn⟩
  · rintro ⟨hown, hn⟩
    by_cases hc : ∃ c ∈ contacts, c.2.address = n
    · obtain ⟨c, hc, rfl⟩ := hc
      exact ⟨v.ofContact c, (h.entries _).mpr (Or.inl ⟨c, hc, hown, rfl⟩), rfl⟩
    · refine ⟨v.ofNode n, (h.entries _).mpr (Or.inr ⟨n, hn.resolve_left hc, hown, ?_, rfl⟩), rfl⟩
      intro c hmem he
      exact hc ⟨c, hmem, he⟩

lemma mem_insertContact_of_new {info : ContactInfo} (h : ¬ ∃ x ∈ list, x.address = info.address)
    (x : ContactInfo) : x ∈ insertContact info list ↔ x = info ∨ x ∈ list := by
  rw [mem_insertContact]
  exact or_congr_right ⟨fun hx => hx.1, fun hx => ⟨hx, fun he => h ⟨x, hx, he⟩⟩⟩

lemma Listed.skipContact (h : Listed own v contacts [] list) {c : ℕ × Contact.Columns}
    (hown : c.2.address = own) : Listed own v (contacts ++ [c]) [] list := by
  refine ⟨h.order, fun x => ?_⟩
  rw [h.entries x]
  simp [or_and_right, exists_or, hown]

lemma Listed.addContact (h : Listed own v contacts [] list) {c : ℕ × Contact.Columns}
    (hown : c.2.address ≠ own) (hnew : ∀ d ∈ contacts, d.2.address ≠ c.2.address) :
    Listed own v (contacts ++ [c]) [] (insertContact (v.ofContact c) list) := by
  have hfresh : ¬ ∃ x ∈ list, x.address = (v.ofContact c).address := by
    rw [h.address_iff]
    rintro ⟨-, ⟨d, hd, he⟩ | hn⟩
    · exact hnew d hd he
    · cases hn
  refine ⟨inOrder_insertContact h.order _, fun x => ?_⟩
  rw [mem_insertContact_of_new hfresh, h.entries]
  simp [or_and_right, exists_or, hown, or_comm]

lemma Listed.skipNode (h : Listed own v contacts nodes list) {n : String}
    (hskip : n = own ∨ ∃ x ∈ list, x.address = n) : Listed own v contacts (nodes ++ [n]) list := by
  refine ⟨h.order, fun x => (h.entries x).trans (or_congr_right ?_)⟩
  constructor
  · rintro ⟨m, hm, hx⟩
    exact ⟨m, List.mem_append_left _ hm, hx⟩
  · rintro ⟨m, hm, hown, hc, hx⟩
    refine ⟨m, ?_, hown, hc, hx⟩
    rcases List.mem_append.mp hm with hm | hm
    · exact hm
    · obtain rfl := List.mem_singleton.mp hm
      -- an entry with this address is no contact, so that the node was met before
      rcases ((h.address_iff m).mp (hskip.resolve_left hown)).2 with ⟨c, hmem, he⟩ | hm
      · exact absurd he (hc c hmem)
      · exact hm

lemma Listed.addNode (h : Listed own v contacts nodes list) {n : String} (hown : n ≠ own)
    (hnew : ¬ ∃ x ∈ list, x.address = n) :
    Listed own v contacts (nodes ++ [n]) (insertContact (v.ofNode n) list) := by
  have hcontacts : ∀ c ∈ contacts, c.2.address ≠ n := by
    intro c hc he
    exact hnew ((h.address_iff n).mpr ⟨hown, Or.inl ⟨c, hc, he⟩⟩)
  refine ⟨inOrder_insertContact h.order _, fun x => ?_⟩
  rw [mem_insertContact_of_new hnew, h.entries]
  constructor
  · rintro (rfl | hc | ⟨m, hm, hx⟩)
    · exact Or.inr ⟨n, List.mem_append_right _ (List.mem_singleton_self n), hown, hcontacts, rfl⟩
    · exact Or.inl hc
    · exact Or.inr ⟨m, List.mem_append_left _ hm, hx⟩
  · rintro (hc | ⟨m, hm, hx⟩)
    · exact Or.inr (Or.inl hc)
    · rcases List.mem_append.mp hm with hm | hm
      · exact Or.inr (Or.inr ⟨m, hm, hx⟩)
      · rw [List.mem_singleton.mp hm] at hx
        exact Or.inl hx.2.2

section Profiles

variable {S : Setup} {now : ℤ} {a : App}

/-- A profile is found again as it was, whichever profiles were loaded between. -/
lemma profileOrDefault_profileOrDefault (b c : String) :
    (profileOrDefault S now b (profileOrDefault S now c a).2).1 = (profileOrDefault S now b a).1 := by
  cases hc : a.cache c with
  | some profile =>
    have hload : profileOrDefault S now c a = (profile, a) := by simp only [profileOrDefault, loadProfile, hc]
    rw [hload]
  | none =>
    cases hj : loadJson S.loc S.profiles a.disk c "profile.json" with
    | error e =>
      have hload : (profileOrDefault S now c a).2 = a := by simp only [profileOrDefault, loadProfile, hc, hj]
      rw [hload]
    | ok profile =>
      have hload : (profileOrDefault S now c a).2 =
          { a with cache := Function.update a.cache c (some (profile.getD (.default now))) } := by
        simp only [profileOrDefault, loadProfile, hc, hj]
      rw [hload]
      by_cases hb : b = c
      · subst hb
        simp only [profileOrDefault, loadProfile, Function.update_self, hc, hj]
      · simp only [profileOrDefault, loadProfile, Function.update_of_ne hb]
        cases a.cache b with
        | some profile => rfl
        | none => cases loadJson S.loc S.profiles a.disk b "profile.json" <;> rfl

/-- the state after other profiles were loaded -/
def Loaded (S : Setup) (now : ℤ) (a a' : App) : Prop :=
  ∀ address, (profileOrDefault S now address a').1 = (profileOrDefault S now address a).1

lemma Loaded.load {a' : App} (h : Loaded S now a a') (c : String) :
    Loaded S now a (profileOrDefault S now c a').2 :=
  fun b => (profileOrDefault_profileOrDefault b c).trans (h b)

end Profiles

variable {S : Setup} {now : ℤ} {unread : List (String × UInt64)} {a : App}

def Setup.sight (S : Setup) (now : ℤ) (unread : List (String × UInt64)) (a : App) : Sight :=
  ⟨unreadOf unread, fun address => (profileOrDefault S now address a).1⟩

/-- the list so far and the state, as the loops carry them -/
def Gathered (S : Setup) (now : ℤ) (unread : List (String × UInt64)) (a : App)
    (contacts : List (ℕ × Contact.Columns)) (nodes : List String) (s : List ContactInfo × App) : Prop :=
  Listed S.own (S.sight now unread a) contacts nodes s.1 ∧ Loaded S now a s.2

lemma Gathered.contact {s : List ContactInfo × App} (h : Gathered S now unread a contacts [] s)
    {c : ℕ × Contact.Columns} (hnew : ∀ d ∈ contacts, d.2.address ≠ c.2.address) :
    Gathered S now unread a (contacts ++ [c]) [] (listContact S now unread s c) := by
  rw [listContact]
  by_cases hown : c.2.address = S.own
  · rw [if_pos hown]
    exact ⟨h.1.skipContact hown, h.2⟩
  · rw [if_neg hown]
    have hlisted := h.1.addContact hown hnew
    simp only [Sight.ofContact, Setup.sight, ← h.2 c.2.address] at hlisted
    exact ⟨hlisted, h.2.load c.2.address⟩

lemma Gathered.node {s : List ContactInfo × App} (h : Gathered S now unread a contacts nodes s) (n : String) :
    Gathered S now unread a contacts (nodes ++ [n]) (listNode S now s n) := by
  have hany : s.1.any (fun c => c.address == n) = true ↔ ∃ x ∈ s.1, x.address = n := by
    simp [List.any_eq_true]
  simp only [listNode, hany]
  by_cases hskip : n = S.own ∨ ∃ x ∈ s.1, x.address = n
  · rw [if_pos hskip]
    exact ⟨h.1.skipNode hskip, h.2⟩
  · rw [if_neg hskip]
    obtain ⟨hown, hnew⟩ := not_or.mp hskip
    have hlisted := h.1.addNode hown hnew
    simp only [Sight.ofNode, Setup.sight, ← h.2 n] at hlisted
    exact ⟨hlisted, h.2.load n⟩

lemma gathered_nil : Gathered S now unread a [] [] ([], a) :=
  ⟨⟨List.Pairwise.nil, fun x => by simp⟩, fun _ => rfl⟩

lemma gathered_contacts (hnodup : (contacts.map (fun c => c.2.address)).Nodup) :
    Gathered S now unread a contacts [] (contacts.foldl (listContact S now unread) ([], a)) := by
  induction contacts using List.reverseRecOn with
  | nil => exact gathered_nil
  | append_singleton contacts c ih =>
    rw [List.map_append, List.map_singleton, List.nodup_append] at hnodup
    rw [List.foldl_concat]
    apply (ih hnodup.1).contact
    intro d hd
    exact hnodup.2.2 d.2.address (List.mem_map_of_mem hd) c.2.address (List.mem_singleton_self _)

lemma Gathered.allNodes {s : List ContactInfo × App} (h : Gathered S now unread a contacts [] s)
    (nodes : List String) : Gathered S now unread a contacts nodes (nodes.foldl (listNode S now) s) := by
  induction nodes using List.reverseRecOn with
  | nil => exact h
  | append_singleton nodes n ih =>
    rw [List.foldl_concat]
    exact ih.node n

/-- the number of unread messages in the chat of an address -/
noncomputable def unreadAt (S : Setup) (s : Shelf) (address : String) : UInt64 :=
  if h : Plain address then unreadCount (s.chatShown S.chats ⟨address, h⟩) else 0

lemma chatShown_of_unknown {s : Shelf} (h : Represents S.loc a.disk s) {n : Name} (hn : n ∉ s.known) :
    s.chatShown S.chats n = [] := by
  have hfile : s.file n .chat = none := by
    by_contra hf
    have hentry : (a.disk.entry (place S.loc n .chat)).isSome := by
      rw [h.file, Option.isSome_map]
      exact Option.isSome_iff_ne_none.mpr hf
    rw [place_eq] at hentry
    exact hn ((h.known n).mpr (FileTree.Tree.entry_above (by simp) hentry))
  rw [Shelf.chatShown, Shelf.messages, hfile]

lemma unreadOf_eq {s : Shelf} (h : Represents S.loc a.disk s) (hlist : ContactList s S.chats unread) :
    unreadOf unread = unreadAt S s := by
  funext address
  rw [unreadOf, unreadAt]
  cases hf : unread.find? (fun u => u.1 == address) with
  | some u =>
    obtain ⟨n, -, hu⟩ := (hlist.entries u).mp (List.mem_of_find?_eq_some hf)
    have he : n.val = address := by
      have := List.find?_some hf
      rw [hu] at this
      simpa using this
    subst he
    rw [dif_pos n.property, hu]
    rfl
  | none =>
    by_cases hp : Plain address
    · have hunknown : (⟨address, hp⟩ : Name) ∉ s.known := by
        intro hk
        have := List.find?_eq_none.mp hf _ ((hlist.entries _).mpr ⟨_, hk, rfl⟩)
        simp at this
      rw [dif_pos hp, chatShown_of_unknown h hunknown]
      rfl
    · rw [dif_neg hp]
      rfl

lemma nodup_shown (hunique : a.contacts.UniqueKeys Contact.Columns.address) :
    ((Contact.getAll S.byName a.contacts).map (fun c => c.2.address)).Nodup := by
  rw [Contact.getAll, ((S.byName.perm _).map _).nodup_iff]
  exact List.pairwise_map.mpr hunique

lemma Listed.perm {others : List (ℕ × Contact.Columns)} (h : Listed own v contacts nodes list)
    (hperm : contacts.Perm others) : Listed own v others nodes list := by
  refine ⟨h.order, fun x => ?_⟩
  simpa only [hperm.mem_iff] using h.entries x

lemma listed_handle {s : Shelf} (h : Represents S.loc a.disk s) (r : Request)
    {shown : List (ℕ × Contact.Columns)} (hnodup : (shown.map (fun c => c.2.address)).Nodup)
    (hshown : (if r.statement.refusal = none then Contact.getAll S.byName a.contacts else []) = shown) :
    ∃ list, (handleListContacts S r a).1 = .contacts list ∧
      Listed S.own ⟨unreadAt S s, fun address => (profileOrDefault S r.now address a).1⟩ shown
        (r.nodes.getD []) list := by
  have hcontacts : ∃ unread, getAllContactsWithUnread S.loc S.chats S.order a.disk = .ok unread ∧
    ContactList s S.chats unread := h.contacts S.order
  obtain ⟨unread, hunread, hlist⟩ := hcontacts
  rw [← unreadOf_eq h hlist]
  have hstored : Gathered S r.now unread a shown [] (shown.foldl (listContact S r.now unread) ([], a)) :=
    gathered_contacts hnodup
  refine ⟨_, ?_, (hstored.allNodes (r.nodes.getD [])).1⟩
  rw [handleListContacts, hunread, hshown]

theorem contact_list_exact {s : Shelf} (h : Represents S.loc a.disk s)
    (hunique : a.contacts.UniqueKeys Contact.Columns.address) (r : Request)
    (hr : route r.isPost r.path = .listContacts) :
    ∃ list, (handle S r a).1 = .contacts list ∧
      Listed S.own ⟨unreadAt S s, fun address => (profileOrDefault S r.now address a).1⟩
        (if r.statement.refusal = none then a.contacts.rows else []) (r.nodes.getD []) list := by
  rw [handle, hr]
  by_cases hw : r.statement.refusal = none
  · obtain ⟨list, hlist, hlisted⟩ := listed_handle h r (nodup_shown hunique) (if_pos hw)
    rw [if_pos hw]
    exact ⟨list, hlist, hlisted.perm (S.byName.perm _)⟩
  · rw [if_neg hw]
    exact listed_handle h r List.nodup_nil (if_neg hw)

lemma profileOrDefault_fresh (hempty : a.disk = FileTree.Tree.empty) (now : ℤ) (n : Name)
    (hc : a.cache n.val = none) : (profileOrDefault S now n.val a).1 = .default now := by
  have hload : loadJson S.loc S.profiles a.disk n.val "profile.json" = .ok none := by
    rw [hempty]
    exact loadJson_profile (represents_empty S.loc)
  rw [profileOrDefault, loadProfile, hc, hload]
  rfl

lemma unreadAt_empty (address : String) : unreadAt S Shelf.empty address = 0 := by
  rw [unreadAt]
  split <;> rfl

def getContacts : Request := ⟨false, "/api/contacts", none, [], 7, ⟨7, none⟩, some ["zz:c", "b", "ann"]⟩

def bobKnown : App := ⟨Table.empty.insert (Contact.newRow 1 "Bob" "b"), FileTree.Tree.empty, fun _ => none⟩

theorem contact_list_exact_bob : ∃ list, (handle annSetup getContacts bobKnown).1 = .contacts list ∧
    ⟨some 1, "Bob", "b", some 1, 0, false, "", none⟩ ∈ list ∧
    ⟨none, "c", "zz:c", none, 0, true, "", none⟩ ∈ list ∧ ∀ x ∈ list, x.address ≠ "ann" := by
  have hroute : route getContacts.isPost getContacts.path = .listContacts := by decide +kernel
  have hunique : bobKnown.contacts.UniqueKeys Contact.Columns.address := Table.uniqueKeys_empty.insert rfl
  have hbob : (profileOrDefault annSetup getContacts.now "b" bobKnown).1 = .default 7 :=
    profileOrDefault_fresh rfl 7 ⟨"b", by decide⟩ rfl
  have hnode : (profileOrDefault annSetup getContacts.now "zz:c" bobKnown).1 = .default 7 :=
    profileOrDefault_fresh rfl 7 ⟨"zz:c", by decide⟩ rfl
  have hlast : lastPart "zz:c" = "c" := by decide
  obtain ⟨list, hlist, hlisted⟩ :=
    contact_list_exact (represents_empty annSetup.loc) hunique getContacts hroute
  refine ⟨list, hlist, (hlisted.entries _).mpr (Or.inl ⟨(1, Contact.newRow 1 "Bob" "b"), ?_, ?_, ?_⟩),
    (hlisted.entries _).mpr (Or.inr ⟨"zz:c", ?_, ?_, ?_, ?_⟩), fun x hx he => ?_⟩
  · exact List.mem_singleton_self _
  · decide
  · simp only [Sight.ofContact, Contact.newRow, unreadAt_empty, hbob, UserProfile.default]
  · exact List.mem_cons_self
  · decide
  · intro c hc
    rw [List.mem_singleton.mp hc]
    decide
  · simp only [Sight.ofNode, hnode, hlast, UserProfile.default]
  · exact ((hlisted.address_iff "ann").mp ⟨x, hx, he⟩).1 rfl

end ZzP2p.Web
