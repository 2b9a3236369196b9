import ZzP2p.Protocols.Online
import ZzP2p.Protocols.SeedSync

/-! The pairs of node and socket address that each handler adds to the registry. -/

namespace ZzP2p.Protocols

open Rust NodeRegistry

variable (sha256 : Bytes → Digest)

def verifiedPairs (pairs : List SeedRecord → Set (String × SocketAddr)) (seeds : Option SeedsCommand) :
    Set (String × SocketAddr) :=
  {p | ∃ cmd ∈ seeds, cmd.verify sha256 = true ∧ p ∈ pairs cmd.seeds}

def announcedPairs (address : String) (peer : SocketAddr) (ips : List String) :
    Set (String × SocketAddr) :=
  {p | p.1 = address ∧ ∃ ip ∈ ips, announcedSeed peer ip = some p.2}

variable {sha256} {reg : NodeRegistry} {a sender : String} {peer s : SocketAddr}

lemma pairs_registerWithDirection {d : ConnectionDirection} :
    (reg.registerWithDirection a s d).pairs = reg.pairs ∪ {(a, s)} := by
  ext ⟨node, socket⟩
  simp only [pairs, Set.mem_ofPred_eq, has_registerWithDirection, Set.mem_union, Set.mem_singleton_iff,
    Prod.mk.injEq]
  exact or_comm

lemma pairs_register : (reg.register a s).pairs = reg.pairs ∪ {(a, s)} := pairs_registerWithDirection

lemma pairs_tryConnect : (reg.tryConnect a).2.pairs = reg.pairs := by
  ext ⟨node, socket⟩
  exact has_tryConnect

lemma pairs_addSeed (h : ∃ t, (a, t) ∈ reg.pairs) : (reg.addSeed a s).2.pairs = reg.pairs ∪ {(a, s)} := by
  obtain ⟨t, e, he, -⟩ := h
  rw [addSeed, he]
  exact pairs_register

lemma verifiedPairs_none {pairs : List SeedRecord → Set (String × SocketAddr)} :
    verifiedPairs sha256 pairs none = ∅ := by
  simp [verifiedPairs]

lemma verifiedPairs_some {pairs : List SeedRecord → Set (String × SocketAddr)} {cmd : SeedsCommand} :
    verifiedPairs sha256 pairs (some cmd) = if cmd.verify sha256 then pairs cmd.seeds else ∅ := by
  ext p
  cases hv : cmd.verify sha256 <;> simp [verifiedPairs, hv]

lemma pairs_handshakeMerge {cmd : SeedsCommand} : (handshakeMerge sha256 reg cmd).pairs =
    reg.pairs ∪ verifiedPairs sha256 parsedPairs (some cmd) := by
  rw [handshakeMerge, verifiedPairs_some]
  split
  · exact pairs_registerSeeds _ _
  · rw [Set.union_empty]

lemma pairs_gossipMerge {localAddr : String} {cmd : SeedsCommand} :
    (gossipMerge sha256 localAddr reg cmd).1.pairs =
      reg.pairs ∪ verifiedPairs sha256 (gossipPairs reg) (some cmd) := by
  rw [gossipMerge, verifiedPairs_some]
  split
  · exact pairs_gossip _ _ _
  · rw [Set.union_empty]

lemma pairs_tickMerge {cmd : SeedsCommand} : (tickMerge sha256 reg cmd).pairs =
    reg.pairs ∪ verifiedPairs sha256 (tickPairs reg) (some cmd) := by
  rw [tickMerge, verifiedPairs_some]
  split
  · exact pairs_syncWitnessRing _
  · rw [Set.union_empty]

lemma pairs_handshakeHandler {cmd : OnlineCommand} : (handshakeHandler sha256 sender peer cmd reg).pairs =
    reg.pairs ∪ {(sender, SocketAddr.new peer.ip cmd.port)} ∪ verifiedPairs sha256 parsedPairs cmd.seeds := by
  rw [handshakeHandler]
  split
  · next seeds hs => rw [pairs_handshakeMerge, pairs_registerWithDirection, pairs_tryConnect, hs]
  · next hs => rw [pairs_registerWithDirection, pairs_tryConnect, hs, verifiedPairs_none, Set.union_empty]

lemma pairs_gossipHandler {localAddr : String} {cmd : OnlineCommand} :
    (gossipHandler sha256 localAddr sender peer cmd reg).pairs =
      reg.pairs ∪ {(sender, SocketAddr.new peer.ip cmd.port)} ∪
        verifiedPairs sha256 (gossipPairs (reg.register sender (SocketAddr.new peer.ip cmd.port)))
          cmd.seeds := by
  rw [gossipHandler]
  split
  · next seeds hs => rw [pairs_gossipMerge, pairs_register, hs]
  · next hs => rw [pairs_register, hs, verifiedPairs_none, Set.union_empty]

lemma pairs_storeAnnounced {ips : List String} (h : ∃ t, (a, t) ∈ reg.pairs) :
    (ips.foldl (storeAnnounced a peer) reg).pairs = reg.pairs ∪ announcedPairs a peer ips := by
  induction ips generalizing reg with
  | nil => simp [announcedPairs]
  | cons ip ips ih =>
    have hcons : announcedPairs a peer (ip :: ips) =
        {p | p.1 = a ∧ announcedSeed peer ip = some p.2} ∪ announcedPairs a peer ips := by
      ext p
      simp [announcedPairs, and_or_left]
    rw [List.foldl_cons, storeAnnounced, hcons]
    cases hseed : announcedSeed peer ip with
    | none =>
      rw [Option.elim_none, ih h]
      simp
    | some seed =>
      have hone : {p : String × SocketAddr | p.1 = a ∧ some seed = some p.2} = {(a, seed)} := by
        ext ⟨node, socket⟩
        simp [eq_comm]
      have hpairs := pairs_addSeed (s := seed) h
      rw [Option.elim_some, hone, ih, hpairs, Set.union_assoc]
      obtain ⟨t, ht⟩ := h
      exact ⟨t, hpairs ▸ Or.inl ht⟩

lemma pairs_onlineackHandler {ack : OnlineAckCommand} : (onlineackHandler sha256 peer ack reg).pairs =
    reg.pairs ∪ {(ack.address, peer)} ∪ announcedPairs ack.address peer (ack.intranetIps ++ ack.wanIps) ∪
      verifiedPairs sha256 parsedPairs ack.seeds := by
  have hreg : ((reg.tryConnect ack.address).2.registerWithDirection ack.address peer .outbound).pairs =
      reg.pairs ∪ {(ack.address, peer)} := by
    rw [pairs_registerWithDirection, pairs_tryConnect]
  have hown : ∃ t, (ack.address, t) ∈
      ((reg.tryConnect ack.address).2.registerWithDirection ack.address peer .outbound).pairs :=
    ⟨peer, hreg ▸ Or.inr rfl⟩
  rw [onlineackHandler]
  split
  · next seeds hs => rw [ackMerge_eq, pairs_handshakeMerge, pairs_storeAnnounced hown, hreg, hs]
  · next hs => rw [pairs_storeAnnounced hown, hreg, hs, verifiedPairs_none, Set.union_empty]

end ZzP2p.Protocols
