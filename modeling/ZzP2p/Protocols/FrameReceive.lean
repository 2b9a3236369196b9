import ZzP2p.Messaging.Message
import ZzP2p.Protocols.Connected
import ZzP2p.Protocols.Frame
import ZzP2p.Protocols.HandlerPairs

/-! A node that receives frames. The handlers of the handshake and of messages take the sender from
the body of an accepted frame, and register it, make a session key for it, or open data with its key.
The table of session keys belongs to the network crate and is a parameter. -/

namespace ZzP2p.Protocols.Reception

open Rust Messaging

structure KeyTable where
  Table : Type
  SharedKey : Type
  keyOf : Table → String → Option SharedKey
  /-- nothing on an error, and otherwise the public key to answer with, if a key was made -/
  establishBegins : Table → String → String → Bytes → Option (Option Bytes) × Table
  establishEnds : Table → Bytes → String → String → Bytes → Table
  create : Table → Table
  decrypt : Table → String → Bytes → Option Bytes

/-- Keys are stored per peer, under its address. -/
structure KeyTable.Lawful (K : KeyTable) : Prop where
  keyOf_begins : ∀ t peer own pk a, a ≠ peer → K.keyOf (K.establishBegins t peer own pk).2 a = K.keyOf t a
  keyOf_ends : ∀ t sid peer own pk a, a ≠ peer → K.keyOf (K.establishEnds t sid peer own pk) a = K.keyOf t a
  keyOf_create : ∀ t a, K.keyOf (K.create t) a = K.keyOf t a

/-- the commands in the data of a frame, with the session id and the ephemeral key where they are used -/
structure CommandCodec where
  onLine : Bytes → Option (OnlineCommand × Bytes)
  onLineAck : Bytes → Option (OnlineAckCommand × Bytes × Bytes)
  message : Bytes → Option MessageCommand
  messageAck : Bytes → Option UInt64

structure Receiver (K : KeyTable) where
  registry : NodeRegistry
  keys : K.Table
  chat : Node
  effects : List Effect

variable (sha256 : Bytes → Digest) (A : Account) (C : Codec) (W : CommandCodec) {K : KeyTable}

/-- The return connection draws a session, unless there is one to the peer already. -/
def onlineReceive (peer : SocketAddr) (returns : Bool) (sender : String) (data : Bytes) (s : Receiver K) :
    Receiver K :=
  match W.onLine data with
  | none => s
  | some (online, pk) =>
    if online.sessionId = [] then
      { s with registry := gossipHandler sha256 s.chat.address sender peer online s.registry }
    else match K.establishBegins s.keys sender s.chat.address pk with
      | (none, keys) =>
        -- an error ends the handler before the seeds are merged
        { s with
          registry := handshakeHandler sha256 sender peer { online with seeds := none } s.registry
          keys := keys }
      | (some _, keys) =>
        { s with
          registry := handshakeHandler sha256 sender peer online s.registry
          keys := if returns then K.create keys else keys }

def onlineackReceive (peer : SocketAddr) (sender : String) (data : Bytes) (s : Receiver K) : Receiver K :=
  match W.onLineAck data with
  | none => s
  | some (ack, sid, pk) =>
    { s with
      registry := onlineackHandler sha256 peer ack s.registry
      keys := if pk.all (· == 0) then s.keys else K.establishEnds s.keys sid sender s.chat.address pk }

def messageReceive (sender : String) (data : Bytes) (s : Receiver K) : Receiver K :=
  match (K.decrypt s.keys sender data).bind W.message with
  | none => s
  | some message =>
    let (chat, effects) := messageHandler sha256 s.chat message
    { s with chat := chat, effects := s.effects ++ effects }

def messageAckReceive (sender : String) (data : Bytes) (s : Receiver K) : Receiver K :=
  match (K.decrypt s.keys sender data).bind W.messageAck with
  | none => s
  | some requestId =>
    let (chat, effects) := messageAckHandler s.chat requestId
    { s with chat := chat, effects := s.effects ++ effects }

def receive (peer : SocketAddr) (returns : Bool) (f : P2PFrame) (s : Receiver K) : Receiver K :=
  if validate A C f then
    match C.decodeCommand f.body.data with
    | none => s
    | some cmd => match cmd.entity, cmd.action with
      | .node, .onLine => onlineReceive sha256 W peer returns f.body.address cmd.data s
      | .node, .onLineAck => onlineackReceive sha256 W peer f.body.address cmd.data s
      | .message, .sendText => messageReceive sha256 W f.body.address cmd.data s
      | .message, .messageAck => messageAckReceive W f.body.address cmd.data s
      | _, _ => s
  else s

/-- A frame arrives, or the rest of the node changes the registry and the messages and may draw a session. -/
inductive Event
  | frame (peer : SocketAddr) (returns : Bool) (f : P2PFrame)
  | other (registry : NodeRegistry) (chat : Node) (creates : Bool)

def step (s : Receiver K) : Event → Receiver K
  | .frame peer returns f => receive sha256 A C W peer returns f s
  | .other registry chat creates =>
    { s with registry := registry, chat := chat, keys := if creates then K.create s.keys else s.keys }

/-- the nodes that the command itself names, besides its sender -/
inductive Names (data : Bytes) : String → Prop
  | onLine {online : OnlineCommand} {pk : Bytes} {seeds : SeedsCommand} {seed : SeedRecord}
      (h : W.onLine data = some (online, pk)) (hseeds : seeds ∈ online.seeds) (hseed : seed ∈ seeds.seeds) :
      Names data seed.nodeAddress
  | onLineAck {ack : OnlineAckCommand} {sid pk : Bytes} (h : W.onLineAck data = some (ack, sid, pk)) :
      Names data ack.address
  | ackSeed {ack : OnlineAckCommand} {sid pk : Bytes} {seeds : SeedsCommand} {seed : SeedRecord}
      (h : W.onLineAck data = some (ack, sid, pk)) (hseeds : seeds ∈ ack.seeds)
      (hseed : seed ∈ seeds.seeds) : Names data seed.nodeAddress

/-- What a frame with this data changes, it changes at the addresses `P`, or at a node that it names. -/
structure Confined (P : String → Prop) (data : Bytes) (s s' : Receiver K) : Prop where
  keys : ∀ a, K.keyOf s'.keys a ≠ K.keyOf s.keys a → P a
  registered : ∀ p ∈ s'.registry.pairs, p ∈ s.registry.pairs ∨ P p.1 ∨ Names W data p.1
  connected : ∀ a, s'.registry.isConnected a = true → s.registry.isConnected a = true ∨ P a ∨ Names W data a
  opened : s'.chat ≠ s.chat ∨ s'.effects ≠ s.effects → ∃ a, P a ∧ (K.decrypt s.keys a data).isSome

variable {sha256 A C W} {P Q : String → Prop} {data : Bytes} {s s' : Receiver K}

lemma Confined.refl (P : String → Prop) (data : Bytes) (s : Receiver K) : Confined W P data s s := by
  refine ⟨fun a h => absurd rfl h, fun p hp => Or.inl hp, fun a h => Or.inl h, ?_⟩
  rintro (h | h)
  · exact absurd rfl h
  · exact absurd rfl h

lemma Confined.mono (h : Confined W P data s s') (hPQ : ∀ a, P a → Q a) : Confined W Q data s s' := by
  refine ⟨fun a ha => hPQ a (h.keys a ha), fun p hp => ?_, fun a ha => ?_, fun hc => ?_⟩
  · exact (h.registered p hp).imp_right (Or.imp_left (hPQ p.1))
  · exact (h.connected a ha).imp_right (Or.imp_left (hPQ a))
  · obtain ⟨a, ha, hdecrypt⟩ := h.opened hc
    exact ⟨a, hPQ a ha, hdecrypt⟩

variable {sender : String} {peer : SocketAddr} {online : OnlineCommand} {pk sid : Bytes}

lemma mem_verifiedPairs_parsed {seeds : Option SeedsCommand} {p : String × SocketAddr}
    (h : p ∈ verifiedPairs sha256 parsedPairs seeds) :
    ∃ cmd ∈ seeds, ∃ seed ∈ cmd.seeds, seed.nodeAddress = p.1 := by
  obtain ⟨cmd, hcmd, -, seed, hseed, ha, -⟩ := h
  exact ⟨cmd, hcmd, seed, hseed, ha⟩

lemma mem_firstParsed {seeds : List SeedRecord} {node : String} {socket : SocketAddr}
    (h : firstParsed seeds node = some socket) : ∃ seed ∈ seeds, seed.nodeAddress = node := by
  obtain ⟨seed, hseed, hs⟩ := List.exists_of_findSome?_eq_some h
  refine ⟨seed, hseed, ?_⟩
  by_contra hne
  rw [if_neg hne] at hs
  cases hs

lemma confined_handshake (h : W.onLine data = some (online, pk)) {keys : K.Table}
    (hkeys : ∀ a, a ≠ sender → K.keyOf keys a = K.keyOf s.keys a) {seeds : Option SeedsCommand}
    (hseeds : ∀ cmd ∈ seeds, cmd ∈ online.seeds) :
    Confined W (· = sender) data s
      { s with
        registry := handshakeHandler sha256 sender peer { online with seeds := seeds } s.registry
        keys := keys } := by
  refine ⟨fun a ha => ?_, fun p hp => ?_, fun a ha => ?_, fun hc => ?_⟩
  · by_contra hne
    exact ha (hkeys a hne)
  · rw [pairs_handshakeHandler] at hp
    rcases hp with (hp | hp) | hp
    · exact Or.inl hp
    · exact Or.inr (Or.inl (congrArg Prod.fst (Set.mem_singleton_iff.mp hp)))
    · obtain ⟨cmd, hcmd, seed, hseed, ha⟩ := mem_verifiedPairs_parsed hp
      exact Or.inr (Or.inr (ha ▸ .onLine h (hseeds cmd hcmd) hseed))
  · exact (isConnected_handshakeHandler.mp ha).elim (fun ha => Or.inr (Or.inl ha)) Or.inl
  · exact absurd rfl (hc.resolve_left (not_not.mpr rfl))

lemma confined_gossip (h : W.onLine data = some (online, pk)) {own : String} :
    Confined W (· = sender) data s
      { s with registry := gossipHandler sha256 own sender peer online s.registry } := by
  refine ⟨fun a ha => absurd rfl ha, fun p hp => ?_, fun a ha => ?_, fun hc => ?_⟩
  · rw [pairs_gossipHandler] at hp
    rcases hp with (hp | hp) | ⟨cmd, hcmd, -, -, hp⟩
    · exact Or.inl hp
    · exact Or.inr (Or.inl (congrArg Prod.fst (Set.mem_singleton_iff.mp hp)))
    · obtain ⟨seed, hseed, ha⟩ := mem_firstParsed hp
      exact Or.inr (Or.inr (ha ▸ .onLine h hcmd hseed))
  · rw [isConnected_gossipHandler] at ha
    exact Or.inl ha
  · exact absurd rfl (hc.resolve_left (not_not.mpr rfl))

lemma confined_online (hK : K.Lawful) (returns : Bool) :
    Confined W (· = sender) data s (onlineReceive sha256 W peer returns sender data s) := by
  rw [onlineReceive]
  cases h : W.onLine data with
  | none => exact Confined.refl _ data s
  | some command =>
    obtain ⟨online, pk⟩ := command
    dsimp only
    by_cases hgossip : online.sessionId = []
    · rw [if_pos hgossip]
      exact confined_gossip h
    · rw [if_neg hgossip]
      have hbegins := hK.keyOf_begins s.keys sender s.chat.address pk
      cases hb : K.establishBegins s.keys sender s.chat.address pk with
      | mk reply keys =>
        rw [hb] at hbegins
        cases reply with
        | none => exact confined_handshake h hbegins (fun cmd hcmd => by cases hcmd)
        | some reply =>
          apply confined_handshake h _ (fun cmd hcmd => hcmd)
          intro a ha
          rw [← hbegins a ha]
          split
          · exact hK.keyOf_create keys a
          · rfl

lemma confined_onlineack (hK : K.Lawful) :
    Confined W (· = sender) data s (onlineackReceive sha256 W peer sender data s) := by
  rw [onlineackReceive]
  cases h : W.onLineAck data with
  | none => exact Confined.refl _ data s
  | some command =>
    obtain ⟨ack, sid, pk⟩ := command
    refine ⟨fun a ha => ?_, fun p hp => ?_, fun a ha => ?_, fun hc => ?_⟩
    · by_contra hne
      apply ha
      dsimp only
      split
      · rfl
      · exact hK.keyOf_ends _ _ _ _ _ a hne
    · dsimp only at hp
      rw [pairs_onlineackHandler] at hp
      rcases hp with ((hp | hp) | hp) | hp
      · exact Or.inl hp
      · rw [Set.mem_singleton_iff.mp hp]
        exact Or.inr (Or.inr (.onLineAck h))
      · rw [hp.1]
        exact Or.inr (Or.inr (.onLineAck h))
      · obtain ⟨cmd, hcmd, seed, hseed, ha⟩ := mem_verifiedPairs_parsed hp
        exact Or.inr (Or.inr (ha ▸ .ackSeed h hcmd hseed))
    · rcases isConnected_onlineackHandler.mp ha with rfl | ha
      · exact Or.inr (Or.inr (.onLineAck h))
      · exact Or.inl ha
    · exact absurd rfl (hc.resolve_left (not_not.mpr rfl))

lemma confined_opened {chat : Node} {effects : List Effect}
    (h : (K.decrypt s.keys sender data).isSome) :
    Confined W (· = sender) data s { s with chat := chat, effects := effects } :=
  ⟨fun _ ha => absurd rfl ha, fun _ hp => Or.inl hp, fun _ ha => Or.inl ha, fun _ => ⟨sender, rfl, h⟩⟩

lemma confined_message : Confined W (· = sender) data s (messageReceive sha256 W sender data s) := by
  rw [messageReceive]
  cases h : K.decrypt s.keys sender data with
  | none => exact Confined.refl _ data s
  | some plaintext =>
    rw [Option.bind_some]
    cases W.message plaintext with
    | none => exact Confined.refl _ data s
    | some message => exact confined_opened (by rw [h]; rfl)

lemma confined_messageAck : Confined W (· = sender) data s (messageAckReceive W sender data s) := by
  rw [messageAckReceive]
  cases h : K.decrypt s.keys sender data with
  | none => exact Confined.refl _ data s
  | some plaintext =>
    rw [Option.bind_some]
    cases W.messageAck plaintext with
    | none => exact Confined.refl _ data s
    | some requestId => exact confined_opened (by rw [h]; rfl)

end ZzP2p.Protocols.Reception
