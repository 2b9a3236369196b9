import ZzP2p.Db.Database
import ZzP2p.Lib.Collect

/-! The store of chat messages and the lists it makes of its contacts. Rows are gathered in a map by
contact, and what the map holds is sorted again. -/

namespace ZzP2p.Db.ChatMessage

open Lib

structure Columns where
  contactAddress : String
  content : String
  isSent : Bool
  status : String
  timestamp : Int64
deriving DecidableEq

abbrev ChatTable := Table Columns

def isUnread (r : Columns) : Bool := !r.isSent && r.status == "received"

def getUnreadCount (t : ChatTable) (contactAddress : String) : ℕ :=
  t.values.countP (fun r => r.contactAddress == contactAddress && isUnread r)

def getAllContactsWithUnread (order : MapOrder (String × ℕ)) (t : ChatTable) : List (String × ℕ) :=
  let records := t.values.filter isUnread
  let map := collect Columns.contactAddress 0 (fun n _ => n + 1) records
  (order.arrange map).insertionSort (fun a b => b.2 ≤ a.2)

structure ConversationSummary where
  address : String
  lastMessage : String
  lastTimestamp : Int64
  unreadCount : ℕ
deriving DecidableEq

abbrev ByTimestampDesc := OrderBy (fun q r : Columns => r.timestamp ≤ q.timestamp)

/-- the summary of one group; an empty group has no first message to unwrap -/
def summary (group : String × List Columns) : Option ConversationSummary :=
  group.2.head?.map (fun last =>
    { address := group.1
      lastMessage := last.content
      lastTimestamp := last.timestamp
      unreadCount := group.2.countP isUnread })

def getConversations (rows : ByTimestampDesc) (order : MapOrder (String × List Columns)) (t : ChatTable) :
    Option (List ConversationSummary) := do
  let groups := collect Columns.contactAddress [] (fun g r => g ++ [r]) (rows.arrange t.values)
  let result ← (order.arrange groups).mapM summary
  some (result.insertionSort (fun a b => b.lastTimestamp ≤ a.lastTimestamp))

structure Summarises (t : ChatTable) (result : List ConversationSummary) : Prop where
  once : (result.map ConversationSummary.address).Nodup
  contacts : ∀ a, a ∈ result.map ConversationSummary.address ↔ ∃ r ∈ t.values, r.contactAddress = a
  sorted : result.Pairwise (fun x y => y.lastTimestamp ≤ x.lastTimestamp)
  latest : ∀ x ∈ result, ∀ r ∈ t.values, r.contactAddress = x.address → r.timestamp ≤ x.lastTimestamp
  last : ∀ x ∈ result, ∃ r ∈ t.values,
    r.contactAddress = x.address ∧ r.timestamp = x.lastTimestamp ∧ r.content = x.lastMessage
  unread : ∀ x ∈ result, x.unreadCount = getUnreadCount t x.address

structure ListsUnread (t : ChatTable) (result : List (String × ℕ)) : Prop where
  once : (result.map Prod.fst).Nodup
  exact : ∀ a n, (a, n) ∈ result ↔ 0 < n ∧ n = getUnreadCount t a
  sorted : result.Pairwise (fun x y => y.2 ≤ x.2)

variable {t : ChatTable}

lemma mem_counts {a : String} {n : ℕ} :
    (a, n) ∈ collect Columns.contactAddress 0 (fun n _ => n + 1) (t.values.filter isUnread) ↔
      0 < n ∧ n = getUnreadCount t a := by
  have hcount : ((t.values.filter isUnread).filter (fun r => r.contactAddress = a)).length =
      getUnreadCount t a := by
    rw [List.filter_filter, getUnreadCount, List.countP_eq_length_filter]
    rfl
  rw [mem_collect, mem_keys_iff_length, List.foldl_add_const, hcount, Nat.one_mul, Nat.zero_add]
  constructor
  · rintro ⟨hpos, rfl⟩
    exact ⟨hpos, rfl⟩
  · rintro ⟨hpos, rfl⟩
    exact ⟨hpos, rfl⟩

lemma listsUnread (order : MapOrder (String × ℕ)) (t : ChatTable) :
    ListsUnread t (getAllContactsWithUnread order t) := by
  rw [getAllContactsWithUnread]
  generalize hmap : collect Columns.contactAddress 0 (fun n _ => n + 1) (t.values.filter isUnread) = map
  have hperm : ((order.arrange map).insertionSort (fun a b => b.2 ≤ a.2)).Perm map :=
    (List.perm_insertionSort _ _).trans (order.perm map)
  refine ⟨?_, fun a n => ?_, List.pairwise_insertionSort _ _⟩
  · rw [(hperm.map Prod.fst).nodup_iff, ← hmap]
    exact nodup_keys_collect _
  · rw [hperm.mem_iff, ← hmap]
    exact mem_counts

section Conversations

variable {rows : ByTimestampDesc}

def groups (rows : ByTimestampDesc) (t : ChatTable) : List (String × List Columns) :=
  collect Columns.contactAddress [] (fun g r => g ++ [r]) (rows.arrange t.values)

lemma mem_groups {a : String} {g : List Columns} : (a, g) ∈ groups rows t ↔
    g ≠ [] ∧ g = (rows.arrange t.values).filter (fun r => r.contactAddress = a) := by
  rw [groups, mem_collect, mem_keys_iff_length, List.foldl_append_eq_append, List.length_pos_iff,
    List.nil_append, ← List.flatMap_def, List.flatMap_singleton']
  constructor
  · rintro ⟨hne, rfl⟩
    exact ⟨hne, rfl⟩
  · rintro ⟨hne, rfl⟩
    exact ⟨hne, rfl⟩

lemma mapM_eq_filterMap {α β : Type} {f : α → Option β} {l : List α} (h : ∀ x ∈ l, (f x).isSome) :
    l.mapM f = some (l.filterMap f) := by
  induction l with
  | nil => rfl
  | cons x l ih =>
    obtain ⟨y, hy⟩ := Option.isSome_iff_exists.mp (h x List.mem_cons_self)
    rw [List.mapM_cons, hy, ih (fun z hz => h z (List.mem_cons_of_mem x hz)), List.filterMap_cons_some hy]
    rfl

lemma summary_spec {group : String × List Columns} {x : ConversationSummary} (hg : group ∈ groups rows t)
    (hx : summary group = some x) :
      (∀ r ∈ t.values, r.contactAddress = x.address → r.timestamp ≤ x.lastTimestamp) ∧
      (∃ r ∈ t.values, r.contactAddress = x.address ∧ r.timestamp = x.lastTimestamp ∧
        r.content = x.lastMessage) ∧
      x.unreadCount = getUnreadCount t x.address := by
  obtain ⟨a, g⟩ := group
  obtain ⟨-, hg⟩ := mem_groups.mp hg
  obtain ⟨last, hlast, rfl⟩ := Option.map_eq_some_iff.mp hx
  have hmem : ∀ r, r ∈ g ↔ r ∈ t.values ∧ r.contactAddress = a := by
    intro r
    rw [hg, List.mem_filter, (rows.perm _).mem_iff, decide_eq_true_eq]
  have hsorted : g.Pairwise (fun q r => r.timestamp ≤ q.timestamp) := by
    rw [hg]
    exact (rows.sorted t.values).filter _
  obtain ⟨g', rfl⟩ := List.head?_eq_some_iff.mp hlast
  refine ⟨fun r hr ha => ?_, ⟨last, ?_⟩, ?_⟩
  · rcases List.mem_cons.mp ((hmem r).mpr ⟨hr, ha⟩) with rfl | hr'
    · exact Int64.le_refl _
    · exact (List.pairwise_cons.mp hsorted).1 r hr'
  · obtain ⟨hl, ha⟩ := (hmem last).mp List.mem_cons_self
    exact ⟨hl, ha, rfl, rfl⟩
  · rw [getUnreadCount, ← (rows.perm t.values).countP_eq]
    simp only [hg, List.countP_filter]
    refine List.countP_congr (fun r _ => ?_)
    rw [Bool.and_comm, beq_eq_decide]

lemma summary_isSome (rows : ByTimestampDesc) (order : MapOrder (String × List Columns)) (t : ChatTable) :
    ∀ group ∈ order.arrange (groups rows t), (summary group).isSome := by
  rintro ⟨a, g⟩ hg
  obtain ⟨hne, -⟩ := mem_groups.mp ((order.perm _).mem_iff.mp hg)
  rw [summary, Option.isSome_map, List.isSome_head?]
  exact hne

lemma addresses_filterMap {l : List (String × List Columns)} (h : ∀ group ∈ l, (summary group).isSome) :
    (l.filterMap summary).map ConversationSummary.address = l.map Prod.fst := by
  induction l with
  | nil => rfl
  | cons group l ih =>
    obtain ⟨x, hx⟩ := Option.isSome_iff_exists.mp (h group List.mem_cons_self)
    have haddress : x.address = group.1 := by
      obtain ⟨last, -, rfl⟩ := Option.map_eq_some_iff.mp hx
      rfl
    rw [List.filterMap_cons_some hx, List.map_cons, List.map_cons, haddress,
      ih (fun g hg => h g (List.mem_cons_of_mem group hg))]

lemma summarises (rows : ByTimestampDesc) (order : MapOrder (String × List Columns)) (t : ChatTable) :
    ∃ result, getConversations rows order t = some result ∧ Summarises t result := by
  have hsome := summary_isSome rows order t
  have heq : getConversations rows order t =
      some (((order.arrange (groups rows t)).filterMap summary).insertionSort
        (fun a b => b.lastTimestamp ≤ a.lastTimestamp)) := by
    rw [getConversations, ← groups, mapM_eq_filterMap hsome]
    rfl
  generalize hresult : ((order.arrange (groups rows t)).filterMap summary).insertionSort
    (fun a b => b.lastTimestamp ≤ a.lastTimestamp) = result at heq
  have hperm : result.Perm ((order.arrange (groups rows t)).filterMap summary) := by
    rw [← hresult]
    exact List.perm_insertionSort _ _
  have haddresses : (result.map ConversationSummary.address).Perm ((groups rows t).map Prod.fst) := by
    refine (hperm.map _).trans ?_
    rw [addresses_filterMap hsome]
    exact (order.perm _).map _
  have hspec : ∀ x ∈ result, ∃ group ∈ groups rows t, summary group = some x := by
    intro x hx
    obtain ⟨group, hg, hs⟩ := List.mem_filterMap.mp (hperm.mem_iff.mp hx)
    exact ⟨group, (order.perm _).mem_iff.mp hg, hs⟩
  refine ⟨result, heq, ?_, fun a => ?_, ?_, fun x hx => ?_, fun x hx => ?_, fun x hx => ?_⟩
  · exact haddresses.nodup_iff.mpr (nodup_keys_collect _)
  · rw [haddresses.mem_iff, groups, mem_keys_collect, List.mem_map]
    simp only [(rows.perm t.values).mem_iff]
  · rw [← hresult]
    exact List.pairwise_insertionSort _ _
  · obtain ⟨group, hg, hs⟩ := hspec x hx
    exact (summary_spec hg hs).1
  · obtain ⟨group, hg, hs⟩ := hspec x hx
    exact (summary_spec hg hs).2.1
  · obtain ⟨group, hg, hs⟩ := hspec x hx
    exact (summary_spec hg hs).2.2

end Conversations

theorem conversations_exact (rows : ByTimestampDesc) (order : MapOrder (String × List Columns))
    (order' : MapOrder (String × ℕ)) (t : ChatTable) :
    (∃ result, getConversations rows order t = some result ∧ Summarises t result) ∧
      ListsUnread t (getAllContactsWithUnread order' t) :=
  ⟨summarises rows order t, listsUnread order' t⟩

end ZzP2p.Db.ChatMessage
