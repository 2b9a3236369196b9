import ZzP2p.Protocols.Dialing
import ZzP2p.Protocols.HandlerPairs
import ZzP2p.Protocols.SeedNetwork

/-! The connections that the nodes of the network start when they take messages in, and in a round of
seed synchronisation over the addresses of their peers. -/

namespace ZzP2p.Protocols.SelfDial

open Rust Lib Lib.Runs NodeRegistry SeedNetwork

structure Attempt where
  node : String
  target : Option String
  socket : SocketAddr

/-- `servers` are the outbound connections that the node has open at the time -/
inductive Event
  | net (e : SeedNetwork.Event) (servers : List SocketAddr)
  | round (h : String) (existing : List SocketAddr)

variable (sha256 : Bytes → Digest) (config : String → Config)

def returnDial (sender : String) (peer : SocketAddr) (port : UInt16) (servers : List SocketAddr) :
    List Dial :=
  if peer ∈ servers ∨ SocketAddr.new peer.ip port ∈ servers then []
  else [(sender, SocketAddr.new peer.ip port)]

def dials (reg : NodeRegistry) (m : Message) (servers : List SocketAddr) : List Dial :=
  match m.body with
  | .onLine cmd =>
    if cmd.sessionId = [] then gossipDials sha256 m.dest m.sender m.peer cmd reg
    else returnDial m.sender m.peer cmd.port servers
  | .onLineAck ack => onlineackDials sha256 m.dest m.peer ack reg
  | .tick seeds => seeds.elim [] (tickDials sha256 reg)
  | _ => []

def attempts (s : Network) : Event → List Attempt
  | .net (.deliver i _) servers => match s.flight[i]? with
    | some m => (dials sha256 (s.table m.dest).registry m servers).map
        (fun d => ⟨m.dest, some d.1, d.2⟩)
    | none => []
  | .net _ _ => []
  | .round h existing => (syncDials existing (s.table h).peerAddrs).map (fun addr => ⟨h, none, addr⟩)

def step (s : Network) : Event → Network
  | .net e _ => SeedNetwork.step sha256 config s e
  | .round _ _ => s

def Own (s : Network) (h : String) (socket : SocketAddr) : Prop := (s.table h).registry.Has h socket

def NoSelfDial (s : Network) (e : Event) : Prop :=
  ∀ a ∈ attempts sha256 s e, a.target ≠ some a.node ∧ ¬ Own (step sha256 config s e) a.node a.socket

def added (reg : NodeRegistry) (m : Message) : Set (String × SocketAddr) :=
  match m.body with
  | .onLine cmd =>
    let listen := SocketAddr.new m.peer.ip cmd.port
    {(m.sender, listen)} ∪ if cmd.sessionId = []
      then verifiedPairs sha256 (gossipPairs (reg.register m.sender listen)) cmd.seeds
      else verifiedPairs sha256 parsedPairs cmd.seeds
  | .onLineAck ack =>
    {(ack.address, m.peer)} ∪ announcedPairs ack.address m.peer (ack.intranetIps ++ ack.wanIps) ∪
      verifiedPairs sha256 parsedPairs ack.seeds
  | .tick seeds => verifiedPairs sha256 (tickPairs reg) seeds
  | .seedSyncRequest set => infoPairs set.seeds
  | .seedSyncResponse set => infoPairs set.seeds

/-- neither registered under the receiver nor added under it by the message -/
def Foreign (reg : NodeRegistry) (m : Message) (socket : SocketAddr) : Prop :=
  ¬ reg.Has m.dest socket ∧ (m.dest, socket) ∉ added sha256 reg m

def SafeDials (reg : NodeRegistry) (m : Message) (servers : List SocketAddr) : Prop :=
  match m.body with
  | .onLine cmd =>
    let listen := SocketAddr.new m.peer.ip cmd.port
    if cmd.sessionId = [] then
      ∀ d ∈ verifiedPairs sha256 parsedPairs cmd.seeds, Passes m.dest reg d.1 → Foreign sha256 reg m d.2
    else m.peer ∉ servers → listen ∉ servers → m.sender ≠ m.dest ∧ Foreign sha256 reg m listen
  | .onLineAck ack =>
    ∀ d ∈ verifiedPairs sha256 parsedPairs ack.seeds, d.1 ≠ ack.address → Passes m.dest reg d.1 →
      Foreign sha256 reg m d.2
  | .tick seeds =>
    ∀ d ∈ verifiedPairs sha256 parsedPairs seeds, reg.isConnected d.1 = false →
      d.1 ≠ m.dest ∧ Foreign sha256 reg m d.2
  | _ => True

def SafePeers (t : PeerTable) (m : Message) : Prop :=
  (∀ socket ∈ t.peerAddrs, (m.dest, socket) ∉ added sha256 t.registry m) ∧
    match m.body with
    | .seedSyncRequest set | .seedSyncResponse set =>
      ∀ ip port, t.registry.Has m.dest (.v4 ip port) ∨ (m.dest, .v4 ip port) ∈ infoPairs set.seeds → port = 0
    | _ => True

def Safe (s : Network) : Event → Prop
  | .net (.init h) _ => ∀ socket ∈ (config h).cliSeeds, ¬ (initRegistry h (config h)).Has h socket
  | .net (.deliver i _) servers => ∀ m, s.flight[i]? = some m →
    SafeDials sha256 (s.table m.dest).registry m servers ∧ SafePeers sha256 (s.table m.dest) m
  | _ => True

def PeersForeign (s : Network) : Prop := ∀ h, ∀ socket ∈ (s.table h).peerAddrs, ¬ Own s h socket

variable {sha256 config} {s : Network} {m : Message} {servers : List SocketAddr}

lemma pairs_receive (now : Clock) : ((SeedNetwork.receive sha256 config s m now).table m.dest).registry.pairs =
    (s.table m.dest).registry.pairs ∪ added sha256 (s.table m.dest).registry m := by
  obtain ⟨c, toDialer, body⟩ := m
  cases body with
  | onLine cmd =>
    simp only [SeedNetwork.receive, added, onlineHandler]
    split
    · simp only [Network.setTable, Function.update_self, pairs_gossipHandler, Set.union_assoc]
    · simp only [Network.post, Network.setTable, Function.update_self, pairs_handshakeHandler,
        Set.union_assoc]
  | onLineAck ack =>
    simp only [SeedNetwork.receive, added, Network.setTable, Function.update_self, pairs_onlineackHandler,
      Set.union_assoc]
  | tick seeds =>
    simp only [SeedNetwork.receive, added, Network.setTable, Function.update_self]
    cases seeds with
    | none => rw [verifiedPairs_none, Set.union_empty, Option.elim_none]
    | some cmd => exact pairs_tickMerge
  | seedSyncRequest set =>
    simp only [SeedNetwork.receive, added, Network.post, Network.setTable, Function.update_self]
    exact pairs_takeSeedSet
  | seedSyncResponse set =>
    simp only [SeedNetwork.receive, added, Network.setTable, Function.update_self]
    exact pairs_takeSeedSet

lemma table_receive_of_ne {h : String} (hne : h ≠ m.dest) (now : Clock) :
    (SeedNetwork.receive sha256 config s m now).table h = s.table h := by
  obtain ⟨c, toDialer, body⟩ := m
  cases body with
  | onLine cmd =>
    simp only [SeedNetwork.receive]
    split <;> exact Function.update_of_ne hne _ _
  | onLineAck ack => exact Function.update_of_ne hne _ _
  | tick seeds => exact Function.update_of_ne hne _ _
  | seedSyncRequest set => exact Function.update_of_ne hne _ _
  | seedSyncResponse set => exact Function.update_of_ne hne _ _

lemma peerAddrs_takeSeedSet {t : PeerTable} {set : SeedSet} {socket : SocketAddr}
    (h : socket ∈ (takeSeedSet sha256 t set).peerAddrs) :
    socket ∈ t.peerAddrs ∨ ∃ ip port, socket = .v4 ip port ∧ port ≠ 0 := by
  rcases mem_pushPeerAddrs.mp h with h | ⟨info, hi, hs⟩
  · exact Or.inl h
  · obtain ⟨⟨known, node⟩, hk, rfl⟩ := List.mem_map.mp hi
    have hport : known.port ≠ 0 := of_decide_eq_true (List.mem_filter.mp hk).2
    rw [SeedInfo.socketAddr, SeedInfo.address, parse_hostPort] at hs
    cases known with
    | v4 ip port => exact Or.inr ⟨ip, port, (Option.some.inj hs).symm, hport⟩
    | v6 ip port flowinfo scopeId => cases hs

lemma own_receive {now : Clock} {socket : SocketAddr} :
    Own (SeedNetwork.receive sha256 config s m now) m.dest socket ↔
      ¬ Foreign sha256 (s.table m.dest).registry m socket := by
  have hp : (m.dest, socket) ∈ ((SeedNetwork.receive sha256 config s m now).table m.dest).registry.pairs ↔ _ :=
    iff_of_eq (congrArg (fun x => (m.dest, socket) ∈ x) (pairs_receive now))
  rw [Foreign, ← not_or, not_not]
  exact hp

lemma dials_foreign (hsafe : SafeDials sha256 (s.table m.dest).registry m servers) {d : Dial}
    (hd : d ∈ dials sha256 (s.table m.dest).registry m servers) :
    d.1 ≠ m.dest ∧ Foreign sha256 (s.table m.dest).registry m d.2 := by
  obtain ⟨c, toDialer, body⟩ := m
  cases body with
  | onLine cmd =>
    simp only [dials, SafeDials] at hd hsafe
    split at hd
    · next hid =>
      rw [if_pos hid] at hsafe
      obtain ⟨hp, hlist⟩ := mem_gossipDials.mp hd
      exact ⟨hp.2.1, hsafe d hlist hp⟩
    · next hid =>
      rw [if_neg hid] at hsafe
      rw [returnDial] at hd
      split at hd
      · exact absurd hd List.not_mem_nil
      · next hnone =>
        obtain rfl := List.mem_singleton.mp hd
        exact hsafe (fun h => hnone (Or.inl h)) (fun h => hnone (Or.inr h))
  | onLineAck ack =>
    obtain ⟨hne, hp, hlist⟩ := mem_onlineackDials.mp hd
    exact ⟨hp.2.1, hsafe d hlist hne hp⟩
  | tick seeds =>
    cases seeds with
    | none => exact absurd hd List.not_mem_nil
    | some cmd =>
      obtain ⟨hv, hc, hp⟩ := mem_tickDials.mp hd
      exact hsafe d ⟨cmd, rfl, hv, hp⟩ hc
  | seedSyncRequest set => exact absurd hd List.not_mem_nil
  | seedSyncResponse set => exact absurd hd List.not_mem_nil

lemma foreign_takeSeedSet {t : PeerTable} {set : SeedSet} {socket : SocketAddr}
    (hsafe : ∀ ip port, t.registry.Has m.dest (.v4 ip port) ∨
      (m.dest, .v4 ip port) ∈ added sha256 t.registry m → port = 0)
    (h : socket ∈ (takeSeedSet sha256 t set).peerAddrs) :
    socket ∈ t.peerAddrs ∨ Foreign sha256 t.registry m socket := by
  rcases peerAddrs_takeSeedSet h with h | ⟨ip, port, rfl, hport⟩
  · exact Or.inl h
  · refine Or.inr ⟨fun hown => ?_, fun hadd => ?_⟩
    · exact hport (hsafe ip port (Or.inl hown))
    · exact hport (hsafe ip port (Or.inr hadd))

lemma peerAddrs_receive {now : Clock} (hsafe : SafePeers sha256 (s.table m.dest) m) {socket : SocketAddr}
    (h : socket ∈ ((SeedNetwork.receive sha256 config s m now).table m.dest).peerAddrs) :
    socket ∈ (s.table m.dest).peerAddrs ∨ Foreign sha256 (s.table m.dest).registry m socket := by
  obtain ⟨c, toDialer, body⟩ := m
  cases body with
  | onLine cmd =>
    simp only [SeedNetwork.receive] at h
    split at h
    · exact Or.inl (by simpa [Network.setTable] using h)
    · exact Or.inl (by simpa [Network.setTable, Network.post] using h)
  | onLineAck ack => exact Or.inl (by simpa [SeedNetwork.receive, Network.setTable] using h)
  | tick seeds => exact Or.inl (by simpa [SeedNetwork.receive, Network.setTable] using h)
  | seedSyncRequest set =>
    simp only [SeedNetwork.receive, Network.post, Network.setTable, Function.update_self] at h
    exact foreign_takeSeedSet hsafe.2 h
  | seedSyncResponse set =>
    simp only [SeedNetwork.receive, Network.setTable, Function.update_self] at h
    exact foreign_takeSeedSet hsafe.2 h

end ZzP2p.Protocols.SelfDial
