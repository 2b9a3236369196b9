import ZzP2p.Protocols.SeedExchange

/-! Registered sockets on their way through a seed set: the IP text and the port are joined without
brackets, and the parser wants brackets around an IPv6 address. -/

namespace ZzP2p.Protocols

open Rust NodeRegistry

variable (sha256 : Bytes → Digest)

/-- the handlers that take a seed set in, without what they reply -/
def receivers : List (PeerTable → SeedSet → PeerTable) :=
  [fun t set => (seedSyncRequestHandler sha256 t set).1, seedSyncResponseHandler sha256,
    seedSyncCommitHandler sha256]

/-- Whatever the receiver knew before, it then has the sender's sockets beside it and nothing else. -/
def ReceivedExactly (reg : NodeRegistry) (receive : PeerTable → SeedSet → PeerTable) : Prop :=
  ∀ t, (receive t (deriveSeedSetFromRegistry sha256 reg)).registry.pairs = t.registry.pairs ∪ sentPairs reg

variable {sha256} {reg : NodeRegistry}

lemma pairs_receive_derived {t : PeerTable} :
    (takeSeedSet sha256 t (deriveSeedSetFromRegistry sha256 reg)).registry.pairs =
      t.registry.pairs ∪ {p | p ∈ sentPairs reg ∧ p.2.isIpv4 = true} := by
  have hseeds : (deriveSeedSetFromRegistry sha256 reg).seeds = (sentSeeds reg).map infoOf := rfl
  rw [pairs_takeSeedSet, hseeds, infoPairs_infoOf]
  simp only [mem_sentSeeds]

lemma receivedExactly_iff {receive : PeerTable → SeedSet → PeerTable} (h : receive ∈ receivers sha256) :
    ReceivedExactly sha256 reg receive ↔ ∀ p ∈ sentPairs reg, p.2.isIpv4 = true := by
  have hpairs : ∀ t, (receive t (deriveSeedSetFromRegistry sha256 reg)).registry.pairs =
      t.registry.pairs ∪ {p | p ∈ sentPairs reg ∧ p.2.isIpv4 = true} := by
    intro t
    simp only [receivers, List.mem_cons, List.not_mem_nil, or_false] at h
    rcases h with rfl | rfl | rfl
    · exact pairs_receive_derived
    · exact pairs_receive_derived
    · exact pairs_receive_derived
  constructor
  · intro hexact p hp
    have hempty := (hpairs ⟨empty, []⟩).symm.trans (hexact ⟨empty, []⟩)
    have hp' : p ∈ (⟨empty, []⟩ : PeerTable).registry.pairs ∪ sentPairs reg := Or.inr hp
    rw [← hempty] at hp'
    rcases hp' with hp' | hp'
    · exact absurd hp' not_has_empty
    · exact hp'.2
  · intro hv4 t
    rw [hpairs]
    congr 1
    ext p
    exact and_iff_left_of_imp (hv4 p)

theorem seeds_survive_iff (sha256 : Bytes → Digest) (reg : NodeRegistry) :
    (∀ p ∈ sentPairs reg, infoOf (p.2, p.1) ∈ (deriveSeedSetFromRegistry sha256 reg).seeds ∧
      ((infoOf (p.2, p.1)).socketAddr = some p.2 ↔ p.2.isIpv4 = true)) ∧
    ∀ receive ∈ receivers sha256,
      (ReceivedExactly sha256 reg receive ↔ ∀ p ∈ sentPairs reg, p.2.isIpv4 = true) := by
  refine ⟨fun p hp => ⟨?_, ?_⟩, fun receive h => receivedExactly_iff h⟩
  · exact List.mem_map_of_mem (mem_sentSeeds.mpr hp)
  · rw [socketAddr_infoOf, and_iff_left rfl]

def ipv6Seed : SocketAddr := .v6 ⟨[0x2001, 0xdb8, 0, 0, 0, 0, 0, 1], rfl⟩ 80 0 0

theorem ipv6_seed_is_lost :
    ¬ ∀ reg : NodeRegistry, ∀ p ∈ sentPairs reg,
      (infoOf (p.2, p.1)).socketAddr = some p.2 := by
  intro h
  have hp : ("n", ipv6Seed) ∈ sentPairs (empty.register "n" ipv6Seed) :=
    ⟨has_register.mpr (Or.inl ⟨rfl, rfl⟩), by decide⟩
  have hs := h _ _ hp
  rw [socketAddr_infoOf] at hs
  exact absurd hs.1 (by decide)

end ZzP2p.Protocols
