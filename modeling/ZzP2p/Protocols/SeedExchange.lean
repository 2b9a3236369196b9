import ZzP2p.Lib.Sha256
import ZzP2p.Protocols.SeedSync
import ZzP2p.Rust.NetRoundTrip

/-! One complete exchange of seeds between two nodes: the request with all seeds of the first, and
the reply with the seeds of the second after it has taken the request in. -/

namespace ZzP2p.Protocols

open Rust Lib NodeRegistry

variable (sha256 : Bytes → Digest)

def exchange (t u : PeerTable) : PeerTable × PeerTable :=
  let (u, response) := seedSyncRequestHandler sha256 u (deriveSeedSetFromRegistry sha256 t.registry)
  (seedSyncResponseHandler sha256 t response, u)

def Ipv4Only (reg : NodeRegistry) : Prop := ∀ p ∈ reg.pairs, ∃ ip port, p.2 = .v4 ip port

def sentPairs (reg : NodeRegistry) : Set (String × SocketAddr) := {p | p ∈ reg.pairs ∧ p.2.port ≠ 0}

def syncPairs (reg : NodeRegistry) : Set (String × SocketAddr) :=
  {p | p ∈ reg.pairs ∧ p.2.ip.isLoopback = false ∧ p.2.port ≠ 0}

def seedHash (reg : NodeRegistry) : Digest :=
  ((deriveSeedSetFromRegistry sha256 reg).filterLoopback sha256).hash

variable {sha256} {reg : NodeRegistry}

def infoOf (p : SocketAddr × String) : SeedInfo := ⟨p.1.ip.display, p.1.port, p.2⟩

lemma socketAddr_infoOf {p : SocketAddr × String} {s : SocketAddr} :
    (infoOf p).socketAddr = some s ↔ p.1.isIpv4 = true ∧ s = p.1 := by
  have hparse : (infoOf p).socketAddr = _ := parse_hostPort p.1.ip p.1.port
  rw [hparse]
  obtain ⟨socket, node⟩ := p
  cases socket with
  | v4 ip port => simp [SocketAddr.ip, SocketAddr.port, SocketAddr.new, SocketAddr.isIpv4, eq_comm]
  | v6 ip port flowinfo scopeId => simp [SocketAddr.ip, SocketAddr.isIpv4]

lemma isLoopback_infoOf {p : SocketAddr × String} (h : ∃ ip port, p.1 = .v4 ip port) :
    SeedSet.isLoopback (infoOf p).ip = p.1.ip.isLoopback := by
  obtain ⟨socket, node⟩ := p
  obtain ⟨ip, port, rfl⟩ := h
  simp only [SeedSet.isLoopback, infoOf, SocketAddr.ip, parse_display_v4]
  rfl

lemma infoPairs_infoOf (l : List (SocketAddr × String)) :
    infoPairs (l.map infoOf) = {p | (p.2, p.1) ∈ l ∧ p.2.isIpv4 = true} := by
  ext ⟨node, socket⟩
  constructor
  · rintro ⟨_, hm, hn, hs⟩
    obtain ⟨⟨s, n⟩, hp, rfl⟩ := List.mem_map.mp hm
    obtain ⟨hv4, rfl⟩ := socketAddr_infoOf.mp hs
    obtain rfl : n = node := hn
    exact ⟨hp, hv4⟩
  · rintro ⟨hp, hv4⟩
    exact ⟨infoOf (socket, node), List.mem_map_of_mem hp, rfl, socketAddr_infoOf.mpr ⟨hv4, rfl⟩⟩

def sentSeeds (reg : NodeRegistry) : List (SocketAddr × String) :=
  reg.getAllSeeds.filter (fun p => p.1.port ≠ 0)

def replySeeds (reg : NodeRegistry) : List (SocketAddr × String) :=
  (sentSeeds reg).filter (fun p => !p.1.ip.isLoopback)

lemma Ipv4Only.isIpv4 (h : Ipv4Only reg) {p : String × SocketAddr} (hp : p ∈ reg.pairs) :
    p.2.isIpv4 = true := by
  obtain ⟨ip, port, he⟩ := h p hp
  rw [he]
  rfl

lemma filterLoopback_seeds (h : Ipv4Only reg) :
    ((deriveSeedSetFromRegistry sha256 reg).filterLoopback sha256).seeds = (replySeeds reg).map infoOf := by
  have hs : ((deriveSeedSetFromRegistry sha256 reg).filterLoopback sha256).seeds =
      ((sentSeeds reg).map infoOf).filter (fun s => !SeedSet.isLoopback s.ip) := rfl
  rw [hs, List.filter_map, replySeeds]
  congr 1
  refine List.filter_congr (fun p hp => ?_)
  have hv4 := h (p.2, p.1) (mem_getAllSeeds.mp (List.mem_filter.mp hp).1)
  rw [Function.comp_apply, isLoopback_infoOf hv4]

lemma mem_sentSeeds {p : SocketAddr × String} : p ∈ sentSeeds reg ↔ (p.2, p.1) ∈ sentPairs reg := by
  obtain ⟨socket, node⟩ := p
  simp [sentSeeds, sentPairs, mem_getAllSeeds, pairs]

lemma infoPairs_sent (h : Ipv4Only reg) : infoPairs ((sentSeeds reg).map infoOf) = sentPairs reg := by
  rw [infoPairs_infoOf]
  ext p
  simp only [mem_sentSeeds]
  exact and_iff_left_of_imp (fun hp => h.isIpv4 hp.1)

lemma mem_replySeeds {p : SocketAddr × String} : p ∈ replySeeds reg ↔ (p.2, p.1) ∈ syncPairs reg := by
  obtain ⟨socket, node⟩ := p
  simp only [replySeeds, sentSeeds, syncPairs, pairs, List.mem_filter, mem_getAllSeeds,
    Set.mem_ofPred_eq, decide_eq_true_eq, Bool.not_eq_true']
  tauto

lemma infoPairs_reply (h : Ipv4Only reg) : infoPairs ((replySeeds reg).map infoOf) = syncPairs reg := by
  rw [infoPairs_infoOf]
  ext p
  simp only [mem_replySeeds]
  exact and_iff_left_of_imp (fun hp => h.isIpv4 hp.1)

variable {t u : PeerTable}

lemma pairs_exchange_snd (ht : Ipv4Only t.registry) :
    (exchange sha256 t u).2.registry.pairs = u.registry.pairs ∪ sentPairs t.registry := by
  rw [← infoPairs_sent ht]
  exact pairs_takeSeedSet

lemma Ipv4Only.exchange_snd (ht : Ipv4Only t.registry) (hu : Ipv4Only u.registry) :
    Ipv4Only (exchange sha256 t u).2.registry := by
  intro p hp
  rw [pairs_exchange_snd ht] at hp
  rcases hp with hp | hp
  · exact hu p hp
  · exact ht p hp.1

lemma pairs_exchange_fst (ht : Ipv4Only t.registry) (hu : Ipv4Only u.registry) :
    (exchange sha256 t u).1.registry.pairs =
      t.registry.pairs ∪ syncPairs (exchange sha256 t u).2.registry := by
  rw [← infoPairs_reply (ht.exchange_snd hu), ← filterLoopback_seeds (ht.exchange_snd hu)]
  exact pairs_takeSeedSet

lemma Ipv4Only.exchange_fst (ht : Ipv4Only t.registry) (hu : Ipv4Only u.registry) :
    Ipv4Only (exchange sha256 t u).1.registry := by
  intro p hp
  rw [pairs_exchange_fst ht hu] at hp
  rcases hp with hp | hp
  · exact ht p hp
  · exact ht.exchange_snd hu p hp.1

lemma sentPairs_subset_exchange (ht : Ipv4Only t.registry) :
    sentPairs t.registry ⊆ (exchange sha256 t u).2.registry.pairs := by
  rw [pairs_exchange_snd ht]
  exact Set.subset_union_right

lemma syncPairs_exchange (ht : Ipv4Only t.registry) (hu : Ipv4Only u.registry) :
    syncPairs (exchange sha256 t u).1.registry = syncPairs (exchange sha256 t u).2.registry := by
  ext p
  constructor
  · rintro ⟨hp, hip, hport⟩
    rw [pairs_exchange_fst ht hu] at hp
    rcases hp with hp | hp
    · exact ⟨sentPairs_subset_exchange ht ⟨hp, hport⟩, hip, hport⟩
    · exact hp
  · intro hp
    refine ⟨?_, hp.2⟩
    rw [pairs_exchange_fst ht hu]
    exact Or.inr hp

lemma seedHash_eq (h : Ipv4Only reg) : seedHash sha256 reg =
    sha256 (utf8 defaultPreHash ++ (((replySeeds reg).map (fun p => (infoOf p).address)).insertionSort
      (· ≤ ·)).flatMap utf8) := by
  have hs : seedHash sha256 reg = computeSeedHash sha256 defaultPreHash
      ((deriveSeedSetFromRegistry sha256 reg).filterLoopback sha256).seeds := rfl
  rw [hs, filterLoopback_seeds h, computeSeedHash, List.map_map]
  rfl

lemma replySeeds_perm {reg' : NodeRegistry} (h : syncPairs reg = syncPairs reg') :
    (replySeeds reg).Perm (replySeeds reg') := by
  have hnodup : ∀ r : NodeRegistry, (replySeeds r).Nodup :=
    fun r => ((nodup_getAllSeeds r).filter _).filter _
  refine (List.perm_ext_iff_of_nodup (hnodup reg) (hnodup reg')).mpr (fun p => ?_)
  rw [mem_replySeeds, mem_replySeeds, h]

lemma seedHash_congr {reg' : NodeRegistry} (h₁ : Ipv4Only reg) (h₂ : Ipv4Only reg')
    (h : syncPairs reg = syncPairs reg') : seedHash sha256 reg = seedHash sha256 reg' := by
  have hperm := (replySeeds_perm h).map (fun p => (infoOf p).address)
  rw [seedHash_eq h₁, seedHash_eq h₂, insertionSort_congr hperm]

lemma pairs_exchange_again (ht : Ipv4Only t.registry) (hu : Ipv4Only u.registry)
    (hsent : sentPairs t.registry ⊆ u.registry.pairs)
    (hsync : syncPairs u.registry ⊆ t.registry.pairs) :
    (exchange sha256 t u).1.registry.pairs = t.registry.pairs ∧
      (exchange sha256 t u).2.registry.pairs = u.registry.pairs := by
  have hsnd : (exchange sha256 t u).2.registry.pairs = u.registry.pairs := by
    rw [pairs_exchange_snd ht, Set.union_eq_self_of_subset_right hsent]
  refine ⟨?_, hsnd⟩
  rw [pairs_exchange_fst ht hu, Set.union_eq_self_of_subset_right]
  intro p hp
  apply hsync
  exact ⟨hsnd ▸ hp.1, hp.2⟩

theorem seed_exchange_agreement (sha256 : Bytes → Digest) (t u : PeerTable)
    (ht : Ipv4Only t.registry) (hu : Ipv4Only u.registry) :
    let once := exchange sha256 t u
    let twice := exchange sha256 once.1 once.2
    syncPairs once.1.registry = syncPairs once.2.registry ∧
      seedHash sha256 once.1.registry = seedHash sha256 once.2.registry ∧
      twice.1.registry.pairs = once.1.registry.pairs ∧
      twice.2.registry.pairs = once.2.registry.pairs := by
  intro once twice
  have h₁ : Ipv4Only once.1.registry := ht.exchange_fst hu
  have h₂ : Ipv4Only once.2.registry := ht.exchange_snd hu
  have hsync : syncPairs once.1.registry = syncPairs once.2.registry := syncPairs_exchange ht hu
  refine ⟨hsync, seedHash_congr h₁ h₂ hsync, pairs_exchange_again h₁ h₂ ?_ ?_⟩
  · -- what the first node sends again it had, and sent before, or it came from the second node
    rintro p ⟨hp, hport⟩
    rw [pairs_exchange_fst ht hu] at hp
    rcases hp with hp | hp
    · exact sentPairs_subset_exchange ht ⟨hp, hport⟩
    · exact hp.1
  · rw [← hsync]
    exact fun p hp => hp.1

def exchangeFirst : PeerTable :=
  ⟨(empty.register "a" (.v4 ⟨127, 0, 0, 1⟩ 80)).register "a" (.v4 ⟨1, 2, 3, 4⟩ 80), []⟩

def exchangeSecond : PeerTable :=
  ⟨(empty.register "b" (.v4 ⟨127, 0, 0, 1⟩ 81)).register "a" (.v4 ⟨5, 6, 7, 8⟩ 0), []⟩

theorem seed_exchange_agreement_loopback :
    syncPairs (exchange Sha256.digest exchangeFirst exchangeSecond).1.registry =
        syncPairs (exchange Sha256.digest exchangeFirst exchangeSecond).2.registry ∧
      ("a", .v4 ⟨1, 2, 3, 4⟩ 80) ∈
        (exchange Sha256.digest exchangeFirst exchangeSecond).2.registry.pairs := by
  have ht : Ipv4Only exchangeFirst.registry := by
    rintro ⟨node, socket⟩ hp
    simp only [exchangeFirst, pairs, Set.mem_ofPred_eq, has_register, not_has_empty, or_false] at hp
    rcases hp with ⟨-, rfl⟩ | ⟨-, rfl⟩ <;> exact ⟨_, _, rfl⟩
  have hu : Ipv4Only exchangeSecond.registry := by
    rintro ⟨node, socket⟩ hp
    simp only [exchangeSecond, pairs, Set.mem_ofPred_eq, has_register, not_has_empty, or_false] at hp
    rcases hp with ⟨-, rfl⟩ | ⟨-, rfl⟩ <;> exact ⟨_, _, rfl⟩
  refine ⟨(seed_exchange_agreement Sha256.digest exchangeFirst exchangeSecond ht hu).1, ?_⟩
  rw [pairs_exchange_snd ht]
  right
  refine ⟨has_register.mpr (Or.inl ⟨rfl, rfl⟩), by decide⟩

end ZzP2p.Protocols
