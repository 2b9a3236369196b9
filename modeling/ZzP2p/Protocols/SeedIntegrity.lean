import ZzP2p.Protocols.HandlerPairs

/-! The six commands that carry a list of seeds with a hash, and what becomes of a list whose hash is
wrong. Three handlers look at the hash before they register; the three of the seed synchronisation
do not. -/

namespace ZzP2p.Protocols.SeedIntegrity

open Rust Lib NodeRegistry

inductive Command
  | onLine (cmd : OnlineCommand)
  | onLineAck (ack : OnlineAckCommand)
  | tick (seeds : Option SeedsCommand)
  | seedSyncRequest (set : SeedSet)
  | seedSyncResponse (set : SeedSet)
  | seedSyncCommit (set : SeedSet)

structure Origin where
  localAddr : String
  sender : String
  peer : SocketAddr

variable (sha256 : Bytes → Digest) (o : Origin)

def handle (t : PeerTable) : Command → PeerTable
  | .onLine cmd => { t with registry := onlineHandler sha256 o.localAddr o.sender o.peer cmd t.registry }
  | .onLineAck ack => { t with registry := onlineackHandler sha256 o.peer ack t.registry }
  | .tick (some seeds) => { t with registry := tickMerge sha256 t.registry seeds }
  | .tick none => t
  | .seedSyncRequest set => (seedSyncRequestHandler sha256 t set).1
  | .seedSyncResponse set => seedSyncResponseHandler sha256 t set
  | .seedSyncCommit set => seedSyncCommitHandler sha256 t set

def WrongHash : Command → Prop
  | .onLine cmd => ∃ seeds ∈ cmd.seeds, seeds.verify sha256 = false
  | .onLineAck ack => ∃ seeds ∈ ack.seeds, seeds.verify sha256 = false
  | .tick seeds => ∃ cmd ∈ seeds, cmd.verify sha256 = false
  | .seedSyncRequest set | .seedSyncResponse set | .seedSyncCommit set => set.verify sha256 = false

def withoutSeeds : Command → Command
  | .onLine cmd => .onLine { cmd with seeds := none }
  | .onLineAck ack => .onLineAck { ack with seeds := none }
  | .tick _ => .tick none
  | .seedSyncRequest set => .seedSyncRequest { set with seeds := [] }
  | .seedSyncResponse set => .seedSyncResponse { set with seeds := [] }
  | .seedSyncCommit set => .seedSyncCommit { set with seeds := [] }

/-- Nothing in the registry and in `peer_addrs` comes from the list of the command alone. -/
structure TakesNoSeed (t : PeerTable) (c : Command) : Prop where
  pairs : (handle sha256 o t c).registry.pairs ⊆ (handle sha256 o t (withoutSeeds c)).registry.pairs
  peerAddrs : (handle sha256 o t c).peerAddrs ⊆ (handle sha256 o t (withoutSeeds c)).peerAddrs

def NothingNew (t : PeerTable) : Command → Prop
  | .onLine _ | .onLineAck _ | .tick _ => True
  | .seedSyncRequest set | .seedSyncResponse set | .seedSyncCommit set =>
    infoPairs set.seeds ⊆ t.registry.pairs

variable {sha256 o} {t : PeerTable} {set : SeedSet} {x : SocketAddr}

lemma onlineHandler_wrongHash {cmd : OnlineCommand} (h : ∃ seeds ∈ cmd.seeds, seeds.verify sha256 = false)
    (reg : NodeRegistry) : onlineHandler sha256 o.localAddr o.sender o.peer cmd reg =
      onlineHandler sha256 o.localAddr o.sender o.peer { cmd with seeds := none } reg := by
  obtain ⟨seeds, hs, hv⟩ := h
  rw [Option.mem_def] at hs
  simp only [onlineHandler, gossipHandler, handshakeHandler, hs, gossipMerge, handshakeMerge, hv,
    Bool.false_eq_true, if_false]

lemma onlineackHandler_wrongHash {ack : OnlineAckCommand} (h : ∃ seeds ∈ ack.seeds, seeds.verify sha256 = false)
    (reg : NodeRegistry) :
    onlineackHandler sha256 o.peer ack reg = onlineackHandler sha256 o.peer { ack with seeds := none } reg := by
  obtain ⟨seeds, hs, hv⟩ := h
  rw [Option.mem_def] at hs
  simp only [onlineackHandler, hs, ackMerge, hv, Bool.false_eq_true, if_false]

lemma mem_deriveSeedSet {reg : NodeRegistry} {seed : SeedInfo} :
    seed ∈ (deriveSeedSetFromRegistry sha256 reg).seeds ↔
      ∃ p ∈ reg.pairs, p.2.port ≠ 0 ∧ seed = ⟨p.2.ip.display, p.2.port, p.1⟩ := by
  simp only [deriveSeedSetFromRegistry, SeedSet.new, SeedSet.withPreHash, List.mem_map, List.mem_filter,
    decide_eq_true_eq]
  constructor
  · rintro ⟨⟨socket, node⟩, ⟨hm, hp⟩, rfl⟩
    exact ⟨(node, socket), mem_getAllSeeds.mp hm, hp, rfl⟩
  · rintro ⟨⟨node, socket⟩, hm, hp, rfl⟩
    exact ⟨(socket, node), ⟨mem_getAllSeeds.mpr hm, hp⟩, rfl⟩

lemma mem_peerAddrs_takeSeedSet : x ∈ (takeSeedSet sha256 t set).peerAddrs ↔
    x ∈ t.peerAddrs ∨ ∃ p ∈ t.registry.pairs ∪ infoPairs set.seeds, p.2.port ≠ 0 ∧
      SeedInfo.socketAddr ⟨p.2.ip.display, p.2.port, p.1⟩ = some x := by
  rw [← pairs_takeSeedSet, takeSeedSet, mem_pushPeerAddrs]
  refine or_congr_right ⟨?_, ?_⟩
  · rintro ⟨seed, hseed, hx⟩
    obtain ⟨p, hp, hport, rfl⟩ := mem_deriveSeedSet.mp hseed
    exact ⟨p, hp, hport, hx⟩
  · rintro ⟨p, hp, hport, hx⟩
    exact ⟨_, mem_deriveSeedSet.mpr ⟨p, hp, hport, rfl⟩, hx⟩

lemma takeSeedSet_takes_no_seed_iff :
    ((takeSeedSet sha256 t set).registry.pairs ⊆
        (takeSeedSet sha256 t { set with seeds := [] }).registry.pairs ∧
      (takeSeedSet sha256 t set).peerAddrs ⊆ (takeSeedSet sha256 t { set with seeds := [] }).peerAddrs) ↔
    infoPairs set.seeds ⊆ t.registry.pairs := by
  have hnil : infoPairs ([] : List SeedInfo) = ∅ := by
    ext p
    simp [infoPairs]
  rw [pairs_takeSeedSet, pairs_takeSeedSet, hnil, Set.union_empty]
  constructor
  · intro h
    exact Set.subset_union_right.trans h.1
  · intro h
    refine ⟨Set.union_subset Set.Subset.rfl h, ?_⟩
    intro x hx
    rw [mem_peerAddrs_takeSeedSet, Set.union_eq_self_of_subset_right h] at hx
    rwa [mem_peerAddrs_takeSeedSet, hnil, Set.union_empty]

lemma takesNoSeed_of_eq {c : Command} (h : handle sha256 o t c = handle sha256 o t (withoutSeeds c)) :
    TakesNoSeed sha256 o t c :=
  ⟨h ▸ Set.Subset.rfl, h ▸ List.Subset.refl _⟩

lemma takesNoSeed_sync_iff {c : Command} (hc : handle sha256 o t c = takeSeedSet sha256 t set)
    (hw : handle sha256 o t (withoutSeeds c) = takeSeedSet sha256 t { set with seeds := [] }) :
    TakesNoSeed sha256 o t c ↔ infoPairs set.seeds ⊆ t.registry.pairs := by
  have hiff := @takeSeedSet_takes_no_seed_iff sha256 t set
  rw [← hiff, ← hc, ← hw]
  exact ⟨fun h => ⟨h.pairs, h.peerAddrs⟩, fun h => ⟨h.1, h.2⟩⟩

theorem takes_no_seed_iff (sha256 : Bytes → Digest) (o : Origin) (t : PeerTable) (c : Command)
    (h : WrongHash sha256 c) : TakesNoSeed sha256 o t c ↔ NothingNew t c := by
  cases c with
  | onLine cmd =>
    refine iff_of_true (takesNoSeed_of_eq ?_) trivial
    rw [handle, onlineHandler_wrongHash h]
    rfl
  | onLineAck ack =>
    refine iff_of_true (takesNoSeed_of_eq ?_) trivial
    rw [handle, onlineackHandler_wrongHash h]
    rfl
  | tick seeds =>
    obtain ⟨cmd, rfl, hv⟩ := h
    refine iff_of_true (takesNoSeed_of_eq ?_) trivial
    rw [handle, tickMerge, hv]
    rfl
  | seedSyncRequest set => exact takesNoSeed_sync_iff rfl rfl
  | seedSyncResponse set => exact takesNoSeed_sync_iff rfl rfl
  | seedSyncCommit set => exact takesNoSeed_sync_iff rfl rfl

def zeroHash : Digest := Vector.replicate 32 0

def someOrigin : Origin := ⟨"l", "m", .v4 ⟨1, 2, 3, 4⟩ 5000⟩

theorem wrong_tick_ignored :
    TakesNoSeed Sha256.digest someOrigin ⟨NodeRegistry.empty, []⟩
      (.tick (some ⟨[⟨"9.9.9.9:80", "x", 7⟩], zeroHash⟩)) := by
  refine (takes_no_seed_iff Sha256.digest someOrigin ⟨NodeRegistry.empty, []⟩ _ ?_).mpr trivial
  exact ⟨_, rfl, by decide +kernel⟩

theorem wrong_commit_registered :
    ¬ ∀ (sha256 : Bytes → Digest) (o : Origin) (t : PeerTable) (c : Command), WrongHash sha256 c →
      TakesNoSeed sha256 o t c := by
  intro h
  let set : SeedSet := ⟨[⟨"9.9.9.9", 80, "x"⟩], defaultPreHash, zeroHash⟩
  have hv : set.verify Sha256.digest = false := by decide +kernel
  have htakes := h Sha256.digest someOrigin ⟨NodeRegistry.empty, []⟩ (.seedSyncCommit set) hv
  have hknown : infoPairs set.seeds ⊆ NodeRegistry.empty.pairs :=
    takeSeedSet_takes_no_seed_iff.mp ⟨htakes.pairs, htakes.peerAddrs⟩
  have hpair : ("x", SocketAddr.v4 ⟨9, 9, 9, 9⟩ 80) ∈ infoPairs set.seeds :=
    ⟨⟨"9.9.9.9", 80, "x"⟩, List.mem_singleton_self _, rfl, by decide⟩
  exact not_has_empty (hknown hpair)

end ZzP2p.Protocols.SeedIntegrity
