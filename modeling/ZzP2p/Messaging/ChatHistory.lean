import ZzP2p.Lib.Runs
import ZzP2p.Messaging.ChatFiles

/-! What runs of the chat operations keep: every contact's file lists the messages added for it, under
consecutive numbers, and only their status ever changes. -/

namespace ZzP2p.Messaging.UserStore.Files

open Rust Rust.Path Lib.Runs

variable {loc : Location} {fs : Files} {msgs : List ChatMessage}

/-- the part of a message that is written once -/
def fixed (m : ChatMessage) : UInt64 × String × String × Bool × ℤ :=
  (m.id, m.contactAddress, m.content, m.isSent, m.timestamp)

def addition (contact : String) : Operation → Option (String × Bool × ℤ)
  | .addMessage now c content isSent _ => if c = contact then some (content, isSent, now) else none
  | _ => none

def history (contact : String) (operations : List Operation) :
    List (UInt64 × String × String × Bool × ℤ) :=
  (operations.filterMap (addition contact)).mapIdx (fun i a => (UInt64.ofNat (i + 1), contact, a))

lemma fixed_markRead (m : ChatMessage) : fixed (markRead m) = fixed m := by
  simp only [markRead]
  split <;> rfl

lemma fixed_markAsRead (msgs : List ChatMessage) :
    (UserStore.markAsRead msgs).map fixed = msgs.map fixed := by
  simp [UserStore.markAsRead, Function.comp_def, fixed_markRead]

lemma fixed_updateLastSentStatus (msgs : List ChatMessage) (newStatus : String) :
    (UserStore.updateLastSentStatus msgs newStatus).map fixed = msgs.map fixed := by
  apply List.ext_getElem?
  intro i
  rw [List.getElem?_map, List.getElem?_map]
  by_cases hl : lastSent msgs = some i
  · rw [updateLastSentStatus_last hl, Option.map_map]
    rfl
  · rw [updateLastSentStatus_of_ne hl]

lemma nextId_eq {contact : String} {as : List (String × Bool × ℤ)}
    (h : msgs.map fixed = as.mapIdx (fun i a => (UInt64.ofNat (i + 1), contact, a))) :
    (msgs.getLast?.map (fun m => m.id + 1)).getD 1 = UInt64.ofNat (as.length + 1) := by
  have hid : msgs.getLast?.map (fun m => m.id + 1) =
      (msgs.map fixed).getLast?.map (fun f => f.1 + 1) := by
    rw [List.getLast?_map, Option.map_map]
    rfl
  rw [hid, h]
  induction as using List.reverseRecOn with
  | nil => rfl
  | append_singleton as a _ =>
    rw [List.mapIdx_concat, List.getLast?_concat]
    simp [UInt64.ofNat_add]

lemma history_concat (contact : String) (operations : List Operation) (o : Operation) :
    history contact (operations ++ [o]) = history contact operations ++
      ((addition contact o).map (fun a =>
        (UInt64.ofNat ((operations.filterMap (addition contact)).length + 1), contact, a))).toList := by
  rw [history, List.filterMap_append]
  cases ha : addition contact o with
  | none => simp [ha, history]
  | some a => simp [ha, history, List.mapIdx_append]

lemma fixed_edit (o : Operation) {operations : List Operation}
    (h : msgs.map fixed = history o.contact operations) :
    (o.edit msgs).map fixed = history o.contact (operations ++ [o]) := by
  rw [history_concat]
  cases o with
  | addMessage now contact content isSent status =>
    simp only [Operation.contact, history] at h
    simp [Operation.edit, Operation.contact, UserStore.addMessage, nextId_eq h, h, addition, fixed, history]
  | updateLastSentStatus contact newStatus =>
    simpa [Operation.edit, addition, fixed_updateLastSentStatus] using h
  | markAsRead contact => simpa [Operation.edit, addition, fixed_markAsRead] using h

lemma history_other {contact : String} {o : Operation} (hne : contact ≠ o.contact)
    (operations : List Operation) : history contact (operations ++ [o]) = history contact operations := by
  have hnone : addition contact o = none := by
    cases o with
    | addMessage now c content isSent status => exact if_neg hne.symm
    | updateLastSentStatus c newStatus => rfl
    | markAsRead c => rfl
  simp [history_concat, hnone]

lemma fixed_apply {contact : String} (hc : Plain contact) {o : Operation} (ho : Plain o.contact)
    {operations : List Operation} (h : (getMessages loc fs contact).map fixed = history contact operations) :
    (getMessages loc (apply loc fs o) contact).map fixed = history contact (operations ++ [o]) := by
  by_cases hne : contact = o.contact
  · subst hne
    rw [getMessages, read_apply_own]
    exact fixed_edit o h
  · rw [getMessages, read_apply_other ho hc hne, history_other hne]
    exact h

lemma fixed_run {contact : String} (hc : Plain contact) (operations : List Operation)
    (ho : ∀ o ∈ operations, Plain o.contact) :
    (getMessages loc (operations.foldl (apply loc) (fun _ => none)) contact).map fixed =
      history contact operations := by
  induction operations using List.reverseRecOn with
  | nil => rfl
  | append_singleton operations o ih =>
    rw [List.foldl_append]
    apply fixed_apply hc (ho o (by simp))
    exact ih (fun o' h' => ho o' (by simp [h']))

lemma lastSent_spec {i : ℕ} (h : lastSent msgs = some i) :
    (∃ m, msgs[i]? = some m ∧ m.isSent = true) ∧
      ∀ j m, i < j → msgs[j]? = some m → m.isSent = false := by
  obtain ⟨k, hk, rfl⟩ := Option.map_eq_some_iff.mp h
  obtain ⟨hlt, hsent, hbefore⟩ := List.findIdx?_eq_some_iff_getElem.mp hk
  rw [List.length_reverse] at hlt
  rw [List.getElem_reverse] at hsent
  refine ⟨⟨_, List.getElem?_eq_getElem (by omega), hsent⟩, fun j m hj hm => ?_⟩
  obtain ⟨hjlt, rfl⟩ := List.getElem?_eq_some_iff.mp hm
  have hb := hbefore (msgs.length - 1 - j) (by omega)
  rw [List.getElem_reverse] at hb
  have hjj : msgs.length - 1 - (msgs.length - 1 - j) = j := by omega
  simpa [hjj] using hb

lemma isUnread_markRead (m : ChatMessage) : isUnread (markRead m) = false := by
  simp only [markRead]
  split
  · simp [isUnread]
  · next h => rwa [← Bool.not_eq_true, isUnread_iff]

/-- what the operations may do to the messages of a contact -/
structure Kept (loc : Location) (fs : Files) (contact : String) : Prop where
  stored : ∀ o : Operation, Plain o.contact →
    (getMessages loc fs contact).map fixed <+: (getMessages loc (apply loc fs o) contact).map fixed
  added : ∀ (now : ℤ) (content : String) (isSent : Bool) (status : String), ∃ id,
    getMessages loc (addMessage loc now fs contact content isSent status) contact =
      getMessages loc fs contact ++ [⟨id, contact, content, isSent, status, now⟩]
  others : ∀ o : Operation, Plain o.contact → contact ≠ o.contact →
    getMessages loc (apply loc fs o) contact = getMessages loc fs contact
  counted : getUnreadCount loc fs contact =
    UInt64.ofNat ((getMessages loc fs contact).countP (fun m => m.isSent = false ∧ m.status = "received"))
  marked : List.Forall₂ (fun m m' => m' = m ∨ isUnread m = true ∧ m' = { m with status := "read" })
    (getMessages loc fs contact) (getMessages loc (markAsRead loc fs contact) contact)
  marked_again : markAsRead loc (markAsRead loc fs contact) contact = markAsRead loc fs contact
  none_unread : getUnreadCount loc (markAsRead loc fs contact) contact = 0
  updated : ∀ (newStatus : String) (i : ℕ) (m : ChatMessage),
    (getMessages loc fs contact)[i]? = some m →
    (getMessages loc (updateLastSentStatus loc fs contact newStatus) contact)[i]? = some m ∨
      m.isSent = true ∧
      (∀ j m', i < j → (getMessages loc fs contact)[j]? = some m' → m'.isSent = false) ∧
      (getMessages loc (updateLastSentStatus loc fs contact newStatus) contact)[i]? =
        some { m with status := newStatus }

lemma marked_forall₂ (msgs : List ChatMessage) :
    List.Forall₂ (fun m m' => m' = m ∨ isUnread m = true ∧ m' = { m with status := "read" })
      msgs (msgs.map markRead) := by
  induction msgs with
  | nil => exact .nil
  | cons m msgs ih =>
    refine .cons ?_ ih
    cases hu : isUnread m with
    | false => exact Or.inl (markRead_of_not_unread hu)
    | true => exact Or.inr ⟨rfl, if_pos (isUnread_iff.mp hu)⟩

lemma updated_getElem (newStatus : String) {i : ℕ} {m : ChatMessage} (h : msgs[i]? = some m) :
    (UserStore.updateLastSentStatus msgs newStatus)[i]? = some m ∨
      m.isSent = true ∧ (∀ j m', i < j → msgs[j]? = some m' → m'.isSent = false) ∧
      (UserStore.updateLastSentStatus msgs newStatus)[i]? = some { m with status := newStatus } := by
  by_cases hl : lastSent msgs = some i
  · obtain ⟨⟨m', hm', hsent⟩, hlast⟩ := lastSent_spec hl
    obtain rfl : m = m' := Option.some.inj (h.symm.trans hm')
    exact Or.inr ⟨hsent, hlast, by rw [updateLastSentStatus_last hl, h]; rfl⟩
  · exact Or.inl (by rw [updateLastSentStatus_of_ne hl, h])

lemma fixed_edit_prefix (o : Operation) (msgs : List ChatMessage) :
    msgs.map fixed <+: (o.edit msgs).map fixed := by
  cases o with
  | addMessage now contact content isSent status =>
    simp [Operation.edit, UserStore.addMessage]
  | updateLastSentStatus contact newStatus =>
    rw [Operation.edit, fixed_updateLastSentStatus]
  | markAsRead contact => rw [Operation.edit, fixed_markAsRead]

lemma kept {contact : String} (hc : Plain contact) : Kept loc fs contact where
  stored o ho := by
    by_cases hne : contact = o.contact
    · subst hne
      rw [getMessages, getMessages, read_apply_own]
      exact fixed_edit_prefix o _
    · rw [getMessages, getMessages, read_apply_other ho hc hne]
  added now content isSent status :=
    ⟨_, read_apply_own (.addMessage now contact content isSent status)⟩
  others o ho hne := read_apply_other ho hc hne
  counted := by
    rw [getUnreadCount, getMessages, ← List.countP_eq_length_filter]
    congr 1
    apply List.countP_congr
    intro m _
    rw [isUnread_iff, decide_eq_true_eq]
  marked := by
    rw [getMessages, getMessages, read_markAsRead]
    exact marked_forall₂ _
  marked_again := by
    have hnone : ((readMessagesRaw loc fs contact).map markRead).any isUnread = false := by
      simp [isUnread_markRead]
    rw [markAsRead, read_markAsRead, hnone]
    rfl
  none_unread := by
    rw [getUnreadCount, read_markAsRead, List.filter_eq_nil_iff.mpr]
    · rfl
    · intro m hm
      obtain ⟨m', -, rfl⟩ := List.mem_map.mp hm
      simp [isUnread_markRead]
  updated newStatus i m h := by
    rw [getMessages] at h ⊢
    rw [read_updateLastSentStatus]
    exact updated_getElem newStatus h

lemma ids_of_history {contact : String} {operations : List Operation}
    (h : msgs.map fixed = history contact operations) (hlen : msgs.length < 2 ^ 64) :
    msgs.map (fun m => m.id.toNat) = List.range' 1 msgs.length := by
  apply List.ext_getElem
  · simp
  · intro i hi _
    simp only [List.length_map] at hi
    have hlength := congrArg List.length h
    simp only [List.length_map, history, List.length_mapIdx] at hlength
    have hid : (msgs[i]).id = UInt64.ofNat (i + 1) := by
      have hi' := congrArg (fun l => (l[i]?).map Prod.fst) h
      simpa [history, hi, hlength ▸ hi, fixed] using hi'
    rw [List.getElem_map, hid, List.getElem_range', UInt64.toNat_ofNat', Nat.mod_eq_of_lt (by omega)]
    omega

theorem chat_history (loc : Location) (operations : List Operation)
    (ho : ∀ o ∈ operations, Plain o.contact) (contact : String) (hc : Plain contact) :
    let fs := operations.foldl (apply loc) (fun _ => none)
    (getMessages loc fs contact).map fixed = history contact operations ∧
      ((getMessages loc fs contact).length < 2 ^ 64 →
        (getMessages loc fs contact).map (fun m => m.id.toNat) =
          List.range' 1 (getMessages loc fs contact).length) ∧
      Kept loc fs contact := by
  intro fs
  have hfixed : (getMessages loc fs contact).map fixed = history contact operations :=
    fixed_run hc operations ho
  exact ⟨hfixed, ids_of_history hfixed, kept hc⟩

def twoContacts : List Operation :=
  [.addMessage 10 "alice" "hello" false "received", .addMessage 11 "bob" "hey" true "sent",
    .markAsRead "alice", .addMessage 12 "alice" "hi" true "sent", .updateLastSentStatus "alice" "delivered"]

theorem chat_history_two_contacts :
    let fs := twoContacts.foldl (apply ⟨[], "/data"⟩) (fun _ => none)
    (getMessages ⟨[], "/data"⟩ fs "alice").map fixed =
        [(1, "alice", "hello", false, 10), (2, "alice", "hi", true, 12)] ∧
      Kept ⟨[], "/data"⟩ fs "alice" := by
  have h := chat_history ⟨[], "/data"⟩ twoContacts (by decide) "alice" (by decide)
  exact ⟨h.1.trans (by decide), h.2.2⟩

end ZzP2p.Messaging.UserStore.Files
