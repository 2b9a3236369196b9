import ZzP2p.Protocols.HandlerPairs
import ZzP2p.Rust.NetRoundTrip

/-! Registries that hold only addresses one can dial, under each handler that changes a registry
and in each message that is built from one. -/

namespace ZzP2p.Protocols

open Rust NodeRegistry

def Dialable (s : SocketAddr) : Prop := s.port ≠ 0 ∧ s.ip.isUnspecified = false

def AllDialable (reg : NodeRegistry) : Prop := ∀ p ∈ reg.pairs, Dialable p.2

def SeedsDialable (seeds : List SeedRecord) : Prop := ∀ p ∈ parsedPairs seeds, Dialable p.2

def InfosDialable (seeds : List SeedInfo) : Prop :=
  ∀ seed ∈ seeds, ∀ addr, seed.socketAddr = some addr → Dialable addr

/-- whatever port the announced texts are joined with, they give addresses one can dial -/
def TextsDialable (ips : List String) : Prop :=
  ∀ ip ∈ ips, ∀ port addr, port ≠ 0 → SocketAddr.parse (hostPort ip port) = some addr → Dialable addr

variable {sha256 : Bytes → Digest} {reg : NodeRegistry} {a : String} {s peer : SocketAddr}

lemma allDialable_empty : AllDialable empty := fun _ hp => absurd hp not_has_empty

lemma allDialable_iff_of_pairs {reg' : NodeRegistry} {new : Set (String × SocketAddr)}
    (he : reg'.pairs = reg.pairs ∪ new) : AllDialable reg' ↔ AllDialable reg ∧ ∀ p ∈ new, Dialable p.2 := by
  simp only [AllDialable, he, Set.mem_union, or_imp, forall_and]

lemma allDialable_register : AllDialable (reg.register a s) ↔ AllDialable reg ∧ Dialable s := by
  rw [allDialable_iff_of_pairs pairs_register]
  simp

lemma dialable_verifiedPairs {pairs : List SeedRecord → Set (String × SocketAddr)}
    {seeds : Option SeedsCommand} (h : ∀ cmd ∈ seeds, ∀ p ∈ pairs cmd.seeds, Dialable p.2) :
    ∀ p ∈ verifiedPairs sha256 pairs seeds, Dialable p.2 := by
  rintro p ⟨cmd, hcmd, -, hp⟩
  exact h cmd hcmd p hp

lemma AllDialable.tickMerge (h : AllDialable reg) {cmd : SeedsCommand}
    (hs : SeedsDialable cmd.seeds) : AllDialable (tickMerge sha256 reg cmd) := by
  refine (allDialable_iff_of_pairs pairs_tickMerge).mpr ⟨h, dialable_verifiedPairs ?_⟩
  rintro _ ⟨⟩ p ⟨seed, hm, hn, hp, -⟩
  exact hs p ⟨seed, hm, hn, hp⟩

lemma AllDialable.registerInfos (h : AllDialable reg) {seeds : List SeedInfo}
    (hs : InfosDialable seeds) : AllDialable (seeds.foldl registerInfo reg) := by
  refine (allDialable_iff_of_pairs (pairs_registerInfos seeds reg)).mpr ⟨h, ?_⟩
  rintro p ⟨seed, hm, -, hp⟩
  exact hs seed hm p.2 hp

lemma seedsDialable_of_registry (h : AllDialable reg) (now : Clock) :
    SeedsDialable (seedsFromRegistry sha256 now reg).seeds := by
  rintro p ⟨seed, hm, -, hp⟩
  obtain ⟨⟨socket, node⟩, hq, rfl⟩ := List.mem_map.mp (SeedsCommand.mem_of_mem_dedup hm)
  rw [parse_display] at hp
  obtain hp := Option.some.inj hp
  have hd := h (node, socket) (mem_getAllSeeds.mp hq)
  rw [Dialable, ← hp, (canonical_ip_port socket).1, (canonical_ip_port socket).2]
  exact hd

lemma dialable_of_hostPort {ip : IpAddr} {port : UInt16} {addr : SocketAddr} (hip : ip.isUnspecified = false)
    (hport : port ≠ 0) (hp : SocketAddr.parse (hostPort ip.display port) = some addr) :
    Dialable addr := by
  rw [parse_hostPort] at hp
  cases ip with
  | v4 ip =>
    obtain rfl := Option.some.inj hp
    exact ⟨by simpa using hport, by simpa using hip⟩
  | v6 ip => cases hp

lemma infosDialable_of_registry (h : AllDialable reg) :
    InfosDialable (deriveSeedSetFromRegistry sha256 reg).seeds := by
  intro seed hm addr ha
  obtain ⟨⟨socket, node⟩, hq, rfl⟩ := List.mem_map.mp hm
  have hd := h (node, socket) (mem_getAllSeeds.mp (List.mem_filter.mp hq).1)
  exact dialable_of_hostPort hd.2 hd.1 ha

lemma InfosDialable.filterLoopback {set : SeedSet} (h : InfosDialable set.seeds) :
    InfosDialable (set.filterLoopback sha256).seeds :=
  fun seed hm => h seed (List.mem_filter.mp hm).1

lemma textsDialable_display {ips : List IpAddr} (h : ∀ ip ∈ ips, ip.isUnspecified = false) :
    TextsDialable (ips.map IpAddr.display) := by
  intro text hm port addr hport hp
  obtain ⟨ip, hi, rfl⟩ := List.mem_map.mp hm
  exact dialable_of_hostPort (h ip hi) hport hp

lemma allDialable_handshakeHandler {cmd : OnlineCommand} (h : AllDialable reg)
    (hpeer : peer.ip.isUnspecified = false) (hport : cmd.port ≠ 0)
    (hs : ∀ seeds, cmd.seeds = some seeds → SeedsDialable seeds.seeds) :
    AllDialable (handshakeHandler sha256 a peer cmd reg) := by
  rw [allDialable_iff_of_pairs (pairs_handshakeHandler.trans (Set.union_assoc _ _ _))]
  refine ⟨h, ?_⟩
  rintro p (rfl | hp)
  · exact ⟨by simpa using hport, by simpa using hpeer⟩
  · exact dialable_verifiedPairs hs p hp

lemma not_allDialable_gossipHandler {localAddr : String} {cmd : OnlineCommand} (hport : cmd.port = 0) :
    ¬ AllDialable (gossipHandler sha256 localAddr a peer cmd reg) := by
  rw [allDialable_iff_of_pairs (pairs_gossipHandler.trans (Set.union_assoc _ _ _))]
  rintro ⟨-, h⟩
  exact (h (a, SocketAddr.new peer.ip cmd.port) (Or.inl rfl)).1 (by simpa using hport)

lemma dialable_announcedSeed {ip : String} {seed : SocketAddr} (hpeer : Dialable peer)
    (ht : ∀ port addr, port ≠ 0 → SocketAddr.parse (hostPort ip port) = some addr → Dialable addr)
    (hseed : announcedSeed peer ip = some seed) : Dialable seed := by
  rw [announcedSeed] at hseed
  split at hseed
  · cases hseed
  · obtain rfl := Option.some.inj hseed
    cases hp : SocketAddr.parse (hostPort ip peer.port) with
    | none => exact hpeer
    | some addr => exact ht peer.port addr hpeer.1 hp

lemma allDialable_onlineackHandler_iff {ack : OnlineAckCommand} (h : AllDialable reg)
    (hport : peer.port ≠ 0) (ht : TextsDialable (ack.intranetIps ++ ack.wanIps))
    (hs : ∀ seeds, ack.seeds = some seeds → SeedsDialable seeds.seeds) :
    AllDialable (onlineackHandler sha256 peer ack reg) ↔ peer.ip.isUnspecified = false := by
  rw [AllDialable, pairs_onlineackHandler]
  constructor
  · intro hack
    exact (hack (ack.address, peer) (Or.inl (Or.inl (Or.inr rfl)))).2
  · rintro hip p (((hp | rfl) | ⟨-, ip, hmem, hseed⟩) | hp)
    · exact h p hp
    · exact ⟨hport, hip⟩
    · exact dialable_announcedSeed ⟨hport, hip⟩ (ht ip hmem) hseed
    · exact dialable_verifiedPairs hs p hp

end ZzP2p.Protocols
