import ZzP2p.Messaging.UserStore

/-! The interleavings of the chat requests to one contact. A call of `handle_send_chat` is numbered;
the position of the message it stored is kept beside it. `add_message` and `update_last_sent_status` are
taken to succeed, although a call goes on after a failed `add_message`. -/

namespace ZzP2p.Messaging.UserStore

inductive Stage
  | idle | begun | waiting | confirmed | failed
deriving DecidableEq

structure Call where
  stage : Stage
  /-- the entry of the request is in the pending table -/
  entry : Bool
  /-- `true` was sent over the channel of the request -/
  acked : Bool
  message : Option ℕ
deriving DecidableEq

structure Chat where
  msgs : List ChatMessage
  call : ℕ → Call

inductive Action
  | begin (c : ℕ)
  | store (c : ℕ) (content : String) (now : ℤ)
  | sent (c : ℕ)
  | abort (c : ℕ)
  | ack (c : ℕ)
  | expire (c : ℕ)
  | finish (c : ℕ)
  | receive (content : String) (now : ℤ)
  | markAsRead

def Chat.setCall (s : Chat) (c : ℕ) (k : Call) : Chat := { s with call := Function.update s.call c k }

def step (contact : String) (s : Chat) : Action → Chat
  | .begin c =>
    if (s.call c).stage = .idle then s.setCall c ⟨.begun, true, false, none⟩ else s
  | .store c content now =>
    if (s.call c).stage = .begun ∧ (s.call c).message = none then
      ⟨addMessage now s.msgs contact content true "sent",
        Function.update s.call c { s.call c with message := some s.msgs.length }⟩
    else s
  | .sent c =>
    if (s.call c).stage = .begun ∧ (s.call c).message.isSome then
      s.setCall c { s.call c with stage := .waiting }
    else s
  | .abort c =>
    if (s.call c).stage = .begun ∧ (s.call c).message.isSome then
      s.setCall c { s.call c with stage := .failed, entry := false }
    else s
  | .ack c =>
    if (s.call c).entry then s.setCall c { s.call c with entry := false, acked := true } else s
  | .expire c =>
    if (s.call c).stage = .waiting ∧ (s.call c).acked = false then
      s.setCall c { s.call c with stage := .failed, entry := false }
    else s
  | .finish c =>
    if (s.call c).stage = .waiting ∧ (s.call c).acked = true then
      ⟨updateLastSentStatus s.msgs "delivered",
        Function.update s.call c { s.call c with stage := .confirmed, entry := false }⟩
    else s
  | .receive content now => { s with msgs := addMessage now s.msgs contact content false "received" }
  | .markAsRead => { s with msgs := markAsRead s.msgs }

def start : Chat := ⟨[], fun _ => ⟨.idle, false, false, none⟩⟩

def Faithful (s : Chat) : Prop :=
  ∀ i m, s.msgs[i]? = some m → m.isSent = true →
    (m.status = "delivered" ↔ ∃ c, (s.call c).message = some i ∧ (s.call c).stage = .confirmed)

def AckedIsLast (s : Chat) : Action → Prop
  | .finish c => (s.call c).stage = .waiting → (s.call c).acked = true →
      lastSent s.msgs = (s.call c).message
  | _ => True

def OthersUnaffected (contact : String) (s : Chat) : Action → Prop
  | .ack c => (step contact s (.ack c)).msgs = s.msgs
  | .finish c => ∀ i, (s.call c).message ≠ some i →
      (step contact s (.finish c)).msgs[i]? = s.msgs[i]?
  | _ => True

structure Consistent (s : Chat) : Prop where
  idle : ∀ c, (s.call c).stage = .idle → (s.call c).message = none
  waiting : ∀ c, (s.call c).stage = .waiting → (s.call c).message.isSome
  stored : ∀ c i, (s.call c).message = some i → ∃ m, s.msgs[i]? = some m ∧ m.isSent = true
  distinct : ∀ c c' i, (s.call c).message = some i → (s.call c').message = some i → c = c'

variable {s : Chat} {c : ℕ} {k : Call}

lemma Consistent.setCall (h : Consistent s) (hm : k.message = (s.call c).message)
    (hi : k.stage = .idle → k.message = none) (hw : k.stage = .waiting → k.message.isSome) :
    Consistent (s.setCall c k) := by
  have hmsg : ∀ c', ((s.setCall c k).call c').message = (s.call c').message := by
    intro c'
    by_cases hc : c' = c
    · simp [Chat.setCall, hc, hm]
    · simp [Chat.setCall, hc]
  refine ⟨fun c' => ?_, fun c' => ?_, fun c' i hi' => ?_, fun c' c'' i h' h'' => ?_⟩
  · by_cases hc : c' = c
    · simpa [Chat.setCall, hc] using hi
    · simpa [Chat.setCall, hc] using h.idle c'
  · by_cases hc : c' = c
    · simpa [Chat.setCall, hc] using hw
    · simpa [Chat.setCall, hc] using h.waiting c'
  · rw [hmsg] at hi'
    exact h.stored c' i hi'
  · rw [hmsg] at h' h''
    exact h.distinct c' c'' i h' h''

lemma Consistent.setMsgs (h : Consistent s) {msgs : List ChatMessage}
    (hk : ∀ (i : ℕ) (m : ChatMessage), s.msgs[i]? = some m → m.isSent = true →
      ∃ m', msgs[i]? = some m' ∧ m'.isSent = true) : Consistent { s with msgs := msgs } := by
  refine ⟨h.idle, h.waiting, fun c i hi => ?_, h.distinct⟩
  obtain ⟨m, hm, hs⟩ := h.stored c i hi
  exact hk i m hm hs

lemma Faithful.setCall (h : Faithful s) (hm : k.message = (s.call c).message)
    (hs : k.stage = .confirmed ↔ (s.call c).stage = .confirmed) : Faithful (s.setCall c k) := by
  intro i m hi hsent
  rw [h i m hi hsent]
  refine exists_congr (fun c' => ?_)
  by_cases hc : c' = c
  · simp [Chat.setCall, hc, hm, hs]
  · simp [Chat.setCall, hc]

lemma Faithful.setMsgs (h : Faithful s) {msgs : List ChatMessage}
    (hk : ∀ (i : ℕ) (m : ChatMessage), msgs[i]? = some m → m.isSent = true → s.msgs[i]? = some m) :
    Faithful { s with msgs := msgs } :=
  fun i m hi hs => h i m (hk i m hi hs) hs

lemma addMessage_kept {now : ℤ} {msgs : List ChatMessage} {contact content status : String}
    {isSent : Bool} {i : ℕ} {m : ChatMessage} (h : msgs[i]? = some m) :
    (addMessage now msgs contact content isSent status)[i]? = some m := by
  rw [addMessage, List.getElem?_append_left (List.getElem?_eq_some_iff.mp h).1]
  exact h

lemma addMessage_cases {now : ℤ} {msgs : List ChatMessage} {contact content status : String}
    {isSent : Bool} {i : ℕ} {m : ChatMessage}
    (h : (addMessage now msgs contact content isSent status)[i]? = some m) :
    msgs[i]? = some m ∨ (i = msgs.length ∧ m.isSent = isSent ∧ m.status = status) := by
  rcases Nat.lt_trichotomy i msgs.length with hi | rfl | hi
  · rw [addMessage, List.getElem?_append_left hi] at h
    exact Or.inl h
  · right
    simp only [addMessage, List.getElem?_concat_length] at h
    obtain rfl := Option.some.inj h
    exact ⟨rfl, rfl, rfl⟩
  · rw [addMessage, List.getElem?_eq_none (by simp; omega)] at h
    cases h

lemma markAsRead_sent {msgs : List ChatMessage} {i : ℕ} {m : ChatMessage} (hs : m.isSent = true) :
    (markAsRead msgs)[i]? = some m ↔ msgs[i]? = some m := by
  rw [markAsRead, List.getElem?_map, Option.map_eq_some_iff]
  refine ⟨?_, fun h => ⟨m, h, markRead_of_sent hs⟩⟩
  rintro ⟨m', hm', rfl⟩
  rw [markRead_isSent] at hs
  rwa [markRead_of_sent hs]

lemma updateLastSentStatus_kept {msgs : List ChatMessage} {i : ℕ} {m : ChatMessage}
    (h : msgs[i]? = some m) (hs : m.isSent = true) (newStatus : String) :
    ∃ m', (updateLastSentStatus msgs newStatus)[i]? = some m' ∧ m'.isSent = true := by
  by_cases hl : lastSent msgs = some i
  · rw [updateLastSentStatus_last hl, h]
    exact ⟨_, rfl, hs⟩
  · rw [updateLastSentStatus_of_ne hl]
    exact ⟨m, h, hs⟩

end ZzP2p.Messaging.UserStore
