import ZzP2p.Messaging.Requests

/-! A network of honest nodes that send chat messages. Packets arrive in any order and the peers a
node sends to are arbitrary. An acknowledgement carries a request number only; the message it
answers is kept beside it for the record. -/

namespace ZzP2p.Messaging

open Rust

inductive Packet
  | text (dest : String) (m : MessageCommand)
  | ack (dest : String) (requestId : UInt64) (answered : MessageCommand)
deriving DecidableEq

structure Network where
  node : String → Node
  flight : List Packet
  acknowledged : List (String × MessageCommand)
  confirmed : List (String × Request)

inductive Event
  | beginSendChat (a toAddr content : String)
  | insertPending (a : String) (r : Request)
  | sendCopy (a : String) (r : Request) (dest : String) (timestamp : BitVec 128)
  | removePending (a : String) (requestId : UInt64)
  | cliSend (a receiver message : String) (dest : Option String) (timestamp : BitVec 128)
  | deliver (i : ℕ) (peers : List String)

def Effect.packets (answered : MessageCommand) (peers : List String) : Effect → List Packet
  | .sendAck _ r => peers.map (fun d => .ack d r answered)
  | .forwardAck r => peers.map (fun d => .ack d r answered)
  | _ => []

def Effect.acknowledges (a : String) (answered : MessageCommand) :
    Effect → List (String × MessageCommand)
  | .sendAck _ _ => [(a, answered)]
  | _ => []

def Effect.confirms (a : String) : Effect → List (String × Request)
  | .resolve r => [(a, r)]
  | _ => []

def Network.setNode (s : Network) (a : String) (n : Node) : Network :=
  { s with node := Function.update s.node a n }

def Network.react (s : Network) (a : String) (answered : MessageCommand) (peers : List String)
    (out : Node × List Effect) : Network where
  node := Function.update s.node a out.1
  flight := s.flight ++ out.2.flatMap (Effect.packets answered peers)
  acknowledged := s.acknowledged ++ out.2.flatMap (Effect.acknowledges a answered)
  confirmed := s.confirmed ++ out.2.flatMap (Effect.confirms a)

variable (sha256 : Bytes → Digest)

def step (s : Network) : Event → Network
  | .beginSendChat a toAddr content => s.setNode a (beginSendChat (s.node a) toAddr content)
  | .insertPending a r => s.setNode a (insertPending (s.node a) r)
  | .sendCopy a r dest timestamp =>
    if r ∈ (s.node a).opened then { s with flight := s.flight ++ [.text dest (r.command timestamp)] }
    else s
  | .removePending a requestId => s.setNode a (removePending (s.node a) requestId)
  | .cliSend a receiver message dest timestamp =>
    let (requestId, n) := drawRequestId (s.node a)
    let m := ⟨n.address, receiver, requestId, timestamp, message⟩
    { s.setNode a n with flight := s.flight ++ dest.toList.map (fun d => .text d m) }
  | .deliver i peers =>
    let s' := { s with flight := s.flight.eraseIdx i }
    match s.flight[i]? with
    | some (.text a m) => s'.react a m peers (messageHandler sha256 (s.node a) m)
    | some (.ack a r m) => s'.react a m peers (messageAckHandler (s.node a) r)
    | none => s

def start : Network := ⟨freshNode, [], [], []⟩

def Sound (s : Network) : Prop :=
  ∀ c ∈ s.confirmed, c.2.sender = c.1 ∧ ∃ m, m.request = c.2 ∧ (m.receiver, m) ∈ s.acknowledged

def Packet.message : Packet → MessageCommand
  | .text _ m | .ack _ _ m => m

def Known (s : Network) (q : Request) : Prop :=
  (∃ a, (s.node a).Knows q) ∨ ∃ p ∈ s.flight, p.message.request = q

def NoWrap (s : Network) (a : String) : Prop := (s.node a).nextRequestId ≠ 0

def OwnMessage (s : Network) : Event → Prop
  | .beginSendChat a _ _ | .cliSend a _ _ _ _ => NoWrap s a
  | .deliver i _ => match s.flight[i]? with
    | some (.ack a r m) => (s.node a).Filtered (ackKey r) ∨ (s.node a).entry r = none ∨ m.sender = a
    | _ => True
  | _ => True

structure Provenance (s : Network) : Prop where
  owned : ∀ a, (s.node a).Owned a
  acks : ∀ a r m, .ack a r m ∈ s.flight → m.requestId = r ∧ (m.receiver, m) ∈ s.acknowledged
  sound : Sound s

structure Numbering (s : Network) : Prop where
  issued : ∀ q, Known s q → (s.node q.sender).Issued q.requestId
  unique : ∀ q q', Known s q → Known s q' → q.sender = q'.sender → q.requestId = q'.requestId → q = q'

lemma Provenance.frame {s s' : Network} (h : Provenance s) (ha : ∀ a, (s'.node a).Owned a)
    (hf : ∀ a r m, .ack a r m ∈ s'.flight → .ack a r m ∈ s.flight)
    (hk : s'.acknowledged = s.acknowledged) (hc : s'.confirmed = s.confirmed) : Provenance s' := by
  refine ⟨ha, fun a r m hm => ?_, ?_⟩
  · rw [hk]
    exact h.acks a r m (hf a r m hm)
  · rw [Sound, hk, hc]
    exact h.sound

lemma Numbering.frame {s s' : Network} (h : Numbering s)
    (hn : ∀ a, (s'.node a).nextRequestId = (s.node a).nextRequestId)
    (hk : ∀ q, Known s' q → Known s q) : Numbering s' := by
  refine ⟨fun q hq => ?_, fun q q' hq hq' => h.unique q q' (hk q hq) (hk q' hq')⟩
  rw [Node.Issued, hn]
  exact h.issued q (hk q hq)

lemma Numbering.draw {s s' : Network} (h : Numbering s) {f : Request} (hz : NoWrap s f.sender)
    (hr : f.requestId = (s.node f.sender).nextRequestId)
    (hn : (s'.node f.sender).nextRequestId = (s.node f.sender).nextRequestId + 1)
    (ho : ∀ b, b ≠ f.sender → s'.node b = s.node b)
    (hk : ∀ q, Known s' q → q = f ∨ Known s q) : Numbering s' := by
  have hold : ∀ q, Known s q → q.sender = f.sender → q.requestId ≠ f.requestId := by
    intro q hq hsender hid
    have hi := (h.issued q hq).resolve_right (hsender ▸ hz)
    rw [hid, hr, hsender] at hi
    exact UInt64.lt_irrefl _ hi
  refine ⟨fun q hq => ?_, fun q q' hq hq' hsender hid => ?_⟩
  · by_cases hsender : q.sender = f.sender
    · rw [hsender]
      apply issued_draw hz hn
      rcases hk q hq with rfl | hq
      · exact Or.inl hr
      · exact Or.inr (hsender ▸ h.issued q hq)
    · rw [ho _ hsender]
      refine h.issued q ((hk q hq).resolve_left ?_)
      rintro rfl
      exact hsender rfl
  · rcases hk q hq with rfl | hq <;> rcases hk q' hq' with rfl | hq'
    · rfl
    · exact absurd hid.symm (hold q' hq' hsender.symm)
    · exact absurd hid (hold q hq hsender)
    · exact h.unique q q' hq hq' hsender hid

lemma owned_update {s : Network} (h : Provenance s) {a : String} {n : Node} (hn : n.Owned a)
    (b : String) : (Function.update s.node a n b).Owned b := by
  by_cases hb : b = a
  · subst hb
    simpa using hn
  · simpa [hb] using h.owned b

lemma Provenance.setNode {s : Network} (h : Provenance s) {a : String} {n : Node} (hn : n.Owned a) :
    Provenance (s.setNode a n) :=
  h.frame (owned_update h hn) (fun _ _ _ hm => hm) rfl rfl

lemma knows_update {s : Network} {a b : String} {n : Node} {q : Request}
    (h : (Function.update s.node a n b).Knows q) : n.Knows q ∨ Known s q := by
  by_cases hb : b = a
  · subst hb
    exact Or.inl (by simpa using h)
  · exact Or.inr (Or.inl ⟨b, by simpa [hb] using h⟩)

lemma nextRequestId_update {s : Network} {a : String} {n : Node} (hw : (s.node a).Within n) (b : String) :
    (Function.update s.node a n b).nextRequestId = (s.node b).nextRequestId := by
  by_cases hb : b = a
  · subst hb
    simpa using hw.nextRequestId
  · simp [hb]

lemma Numbering.setNode {s : Network} (h : Numbering s) {a : String} {n : Node}
    (hw : (s.node a).Within n) : Numbering (s.setNode a n) := by
  refine h.frame (nextRequestId_update hw) (fun q hq => ?_)
  rcases hq with ⟨b, hb⟩ | hp
  · exact (knows_update hb).elim (fun hq => Or.inl ⟨a, hw.known q hq⟩) id
  · exact Or.inr hp

lemma messageHandler_effects {n : Node} {m : MessageCommand} {e : Effect}
    (he : e ∈ (messageHandler sha256 n m).2) :
    (e = .sendAck m.sender m.requestId ∧ m.receiver = n.address) ∨
      e = .incoming ⟨m.sender, m.message, m.timestamp⟩ := by
  obtain ⟨⟨-, -, hr⟩, ⟨-, rfl⟩ | ⟨-, rfl⟩⟩ := mem_messageHandler.mp he
  · exact Or.inl ⟨rfl, hr⟩
  · exact Or.inr rfl

lemma messageAckHandler_effects {n : Node} {r : UInt64} {e : Effect}
    (he : e ∈ (messageAckHandler n r).2) :
    e = .forwardAck r ∨ ∃ q, e = .resolve q ∧ n.entry r = some q ∧ ¬ n.Filtered (ackKey r) := by
  by_cases hf : n.Filtered (ackKey r)
  · simp [messageAckHandler_of_filtered hf] at he
  · cases hq : n.entry r with
    | none =>
      rw [messageAckHandler_forward hf hq] at he
      exact Or.inl (List.mem_singleton.mp he)
    | some q =>
      rw [messageAckHandler_resolve hf hq] at he
      exact Or.inr ⟨q, List.mem_singleton.mp he, rfl, hf⟩

lemma packets_message {answered : MessageCommand} {peers : List String} {e : Effect} {p : Packet}
    (h : p ∈ e.packets answered peers) : p.message = answered := by
  cases e with
  | sendAck _ _ | forwardAck _ =>
    obtain ⟨_, -, rfl⟩ := List.mem_map.mp h
    rfl
  | incoming _ | resolve _ => simp [Effect.packets] at h

end ZzP2p.Messaging
