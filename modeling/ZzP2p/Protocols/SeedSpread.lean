import ZzP2p.Lib.Spread
import ZzP2p.Protocols.SeedExchange

/-! A network of nodes that synchronise their seeds. Requests and responses are in flight together,
arrive in any order and may be lost, and a request carries what its sender knew when it was sent. -/

namespace ZzP2p.Protocols.SeedSpread

open Rust Lib Lib.Runs Lib.Spread NodeRegistry

variable {ι : Type} [DecidableEq ι] (sha256 : Bytes → Digest)

inductive SyncPacket (ι : Type)
  | request (src dest : ι) (seedSet : SeedSet)
  | response (src dest : ι) (seedSet : SeedSet)

structure SyncNetwork (ι : Type) where
  table : ι → PeerTable
  flight : List (SyncPacket ι)

def deliver (s : SyncNetwork ι) (k : ℕ) : SyncPacket ι → SyncNetwork ι
  | .request src dest seedSet =>
    let (t, response) := seedSyncRequestHandler sha256 (s.table dest) seedSet
    ⟨Function.update s.table dest t, s.flight.eraseIdx k ++ [.response dest src response]⟩
  | .response _ dest seedSet =>
    ⟨Function.update s.table dest (seedSyncResponseHandler sha256 (s.table dest) seedSet),
      s.flight.eraseIdx k⟩

def syncStep (s : SyncNetwork ι) : Event ι → SyncNetwork ι
  | .send src dest =>
    let localSet := deriveSeedSetFromRegistry sha256 (s.table src).registry
    { s with flight := s.flight ++ [.request src dest localSet] }
  | .deliver k => match s.flight[k]? with
    | some p => deliver sha256 s k p
    | none => s
  | .lose k => { s with flight := s.flight.eraseIdx k }

/-- what survives the way through the text of an address and the filter of a response -/
def Shareable (p : String × SocketAddr) : Prop :=
  p.2.isIpv4 = true ∧ p.2.ip.isLoopback = false ∧ p.2.port ≠ 0

def shared (reg : NodeRegistry) : Set (String × SocketAddr) := {p | p ∈ reg.pairs ∧ Shareable p}

def carried (seedSet : SeedSet) : Set (String × SocketAddr) :=
  {p | p ∈ infoPairs seedSet.seeds ∧ Shareable p}

/-- the pairs that no packet carries -/
def unsent (reg : NodeRegistry) : Set (String × SocketAddr) :=
  {p | p ∈ reg.pairs ∧ ¬ (p.2.isIpv4 = true ∧ p.2.port ≠ 0)}

def SyncPacket.seedSet : SyncPacket ι → SeedSet
  | .request _ _ seedSet | .response _ _ seedSet => seedSet

def SyncPacket.abstract : SyncPacket ι → Packet ι (Set (String × SocketAddr))
  | .request src dest seedSet => ⟨src, dest, carried seedSet, true⟩
  | .response src dest seedSet => ⟨src, dest, carried seedSet, false⟩

def SyncNetwork.abstract (s : SyncNetwork ι) : Network ι (Set (String × SocketAddr)) :=
  ⟨fun i => shared (s.table i).registry, s.flight.map SyncPacket.abstract⟩

variable {sha256} {reg : NodeRegistry} {t : PeerTable} {seedSet : SeedSet}

lemma carried_derive : carried (deriveSeedSetFromRegistry sha256 reg) = shared reg := by
  have hseeds : (deriveSeedSetFromRegistry sha256 reg).seeds = (sentSeeds reg).map infoOf := rfl
  ext p
  simp only [carried, shared, hseeds, infoPairs_infoOf, mem_sentSeeds, sentPairs, Shareable,
    Set.mem_ofPred_eq]
  tauto

lemma mem_filterLoopback {seed : SeedInfo} :
    seed ∈ (seedSet.filterLoopback sha256).seeds ↔
      seed ∈ seedSet.seeds ∧ SeedSet.isLoopback seed.ip = false := by
  simp [SeedSet.filterLoopback, SeedSet.withPreHash]

-- an address that is written with its host reads back as that host, so the filter sees the same address
lemma carried_filterLoopback :
    carried ((deriveSeedSetFromRegistry sha256 reg).filterLoopback sha256) = shared reg := by
  rw [← @carried_derive sha256 reg]
  ext p
  constructor
  · rintro ⟨⟨seed, hseed, hpair⟩, hp⟩
    exact ⟨⟨seed, (mem_filterLoopback.mp hseed).1, hpair⟩, hp⟩
  · rintro ⟨⟨seed, hseed, hnode, hsocket⟩, hp⟩
    refine ⟨⟨seed, mem_filterLoopback.mpr ⟨hseed, ?_⟩, hnode, hsocket⟩, hp⟩
    obtain ⟨q, -, rfl⟩ := List.mem_map.mp hseed
    obtain ⟨hv4, hq⟩ := (socketAddr_infoOf (p := q)).mp hsocket
    have hshape : ∃ ip port, q.1 = .v4 ip port := by
      cases hs : q.1 with
      | v4 ip port => exact ⟨ip, port, rfl⟩
      | v6 ip port flowinfo scopeId =>
        rw [hs] at hv4
        exact absurd hv4 Bool.false_ne_true
    exact (isLoopback_infoOf hshape).trans (hq ▸ hp.2.1)

lemma shared_takeSeedSet : shared (takeSeedSet sha256 t seedSet).registry = shared t.registry ∪ carried seedSet := by
  ext p
  simp only [shared, carried, pairs_takeSeedSet, Set.mem_union, Set.mem_ofPred_eq]
  tauto

lemma shared_update (s : SyncNetwork ι) (dest : ι) (seedSet : SeedSet) :
    (fun i => shared (Function.update s.table dest (takeSeedSet sha256 (s.table dest) seedSet) i).registry) =
      Function.update (fun i => shared (s.table i).registry) dest
        (shared (s.table dest).registry ⊔ carried seedSet) := by
  funext i
  by_cases hi : i = dest
  · subst hi
    simp only [Function.update_self]
    exact shared_takeSeedSet
  · simp only [Function.update_of_ne hi]

lemma abstract_deliver (s : SyncNetwork ι) (k : ℕ) (p : SyncPacket ι) :
    (deliver sha256 s k p).abstract =
      ⟨Spread.receive s.abstract.held p.abstract,
        s.abstract.flight.eraseIdx k ++ reply s.abstract.held p.abstract⟩ := by
  cases p with
  | request src dest seedSet =>
    have hreply : carried (seedSyncRequestHandler sha256 (s.table dest) seedSet).2 =
        shared (s.table dest).registry ⊔ carried seedSet :=
      carried_filterLoopback.trans shared_takeSeedSet
    simp only [deliver, SyncNetwork.abstract, SyncPacket.abstract, Spread.receive, reply, List.map_append,
      List.eraseIdx_map, hreply, if_true, List.map_singleton]
    congr 1
    exact shared_update s dest seedSet
  | response src dest seedSet =>
    simp only [deliver, SyncNetwork.abstract, SyncPacket.abstract, Spread.receive, reply, List.eraseIdx_map,
      Bool.false_eq_true, if_false, List.append_nil]
    congr 1
    exact shared_update s dest seedSet

lemma step_abstract (s : SyncNetwork ι) (e : Event ι) : step s.abstract e = (syncStep sha256 s e).abstract := by
  cases e with
  | send src dest =>
    simp [step, syncStep, SyncNetwork.abstract, SyncPacket.abstract, carried_derive]
  | deliver k =>
    have hget : s.abstract.flight[k]? = s.flight[k]?.map SyncPacket.abstract := List.getElem?_map
    simp only [step, syncStep, hget]
    cases s.flight[k]? with
    | none => rfl
    | some p => exact (abstract_deliver s k p).symm
  | lose k => simp [step, syncStep, SyncNetwork.abstract, List.eraseIdx_map]

def Sendable (seeds : List SeedInfo) : Prop := ∀ p ∈ infoPairs seeds, p.2.isIpv4 = true ∧ p.2.port ≠ 0

lemma sendable_derive : Sendable (deriveSeedSetFromRegistry sha256 reg).seeds := by
  have hseeds : (deriveSeedSetFromRegistry sha256 reg).seeds = (sentSeeds reg).map infoOf := rfl
  intro p hp
  rw [hseeds, infoPairs_infoOf] at hp
  exact ⟨hp.2, (mem_sentSeeds.mp hp.1).2⟩

lemma sendable_filterLoopback (h : Sendable seedSet.seeds) : Sendable (seedSet.filterLoopback sha256).seeds := by
  rintro p ⟨seed, hseed, hpair⟩
  exact h p ⟨seed, (mem_filterLoopback.mp hseed).1, hpair⟩

lemma unsent_takeSeedSet (h : Sendable seedSet.seeds) :
    unsent (takeSeedSet sha256 t seedSet).registry = unsent t.registry := by
  ext p
  simp only [unsent, pairs_takeSeedSet, Set.mem_union, Set.mem_ofPred_eq]
  have := h p
  tauto

structure Kept (tables : ι → PeerTable) (s : SyncNetwork ι) : Prop where
  sendable : ∀ p ∈ s.flight, Sendable p.seedSet.seeds
  unsent : ∀ i, unsent (s.table i).registry = unsent (tables i).registry

lemma Kept.receive {tables : ι → PeerTable} {s : SyncNetwork ι} (h : Kept tables s)
    (hs : Sendable seedSet.seeds) (dest i : ι) :
    SeedSpread.unsent (Function.update s.table dest (takeSeedSet sha256 (s.table dest) seedSet) i).registry =
      SeedSpread.unsent (tables i).registry := by
  by_cases hi : i = dest
  · subst hi
    rw [Function.update_self, unsent_takeSeedSet hs, h.unsent]
  · rw [Function.update_of_ne hi, h.unsent]

lemma Kept.deliver {tables : ι → PeerTable} {s : SyncNetwork ι} (h : Kept tables s) {k : ℕ}
    {p : SyncPacket ι} (hp : p ∈ s.flight) : Kept tables (deliver sha256 s k p) := by
  have hrest : ∀ q ∈ s.flight.eraseIdx k, Sendable q.seedSet.seeds :=
    fun q hq => h.sendable q (List.mem_of_mem_eraseIdx hq)
  cases p with
  | request src dest seedSet =>
    refine ⟨fun q hq => ?_, h.receive (h.sendable _ hp) dest⟩
    rcases List.mem_append.mp hq with hq | hq
    · exact hrest q hq
    · rw [List.mem_singleton.mp hq]
      exact sendable_filterLoopback sendable_derive
  | response src dest seedSet => exact ⟨hrest, h.receive (h.sendable _ hp) dest⟩

lemma Kept.step {tables : ι → PeerTable} {s : SyncNetwork ι} (h : Kept tables s) (e : Event ι) :
    Kept tables (syncStep sha256 s e) := by
  cases e with
  | send src dest =>
    refine ⟨fun q hq => ?_, h.unsent⟩
    rcases List.mem_append.mp hq with hq | hq
    · exact h.sendable q hq
    · rw [List.mem_singleton.mp hq]
      exact sendable_derive
  | deliver k =>
    rw [syncStep]
    split
    · next p hp => exact h.deliver (List.mem_of_getElem? hp)
    · exact h
  | lose k => exact ⟨fun q hq => h.sendable q (List.mem_of_mem_eraseIdx hq), h.unsent⟩

lemma kept_run (tables : ι → PeerTable) (events : List (Event ι)) :
    Kept tables (events.foldl (syncStep sha256) ⟨tables, []⟩) := by
  have hstart : Kept tables ⟨tables, []⟩ := ⟨by simp, fun _ => rfl⟩
  have hstep : ∀ s e, Kept tables s → Kept tables (syncStep sha256 s e) := fun s e h => h.step e
  exact visited_invariant hstep hstart _ (last_visited _ events)

lemma shared_run (tables : ι → PeerTable) (events : List (Event ι)) (i : ι) :
    shared ((events.foldl (syncStep sha256) ⟨tables, []⟩).table i).registry =
      ⋃ o ∈ origins events i, shared (tables o).registry := by
  have hstep : ∀ (s : SyncNetwork ι) (e : Event ι), step s.abstract e = (syncStep sha256 s e).abstract :=
    step_abstract
  have hsim := foldl_simulates hstep ⟨tables, []⟩ events
  rw [← held_run (fun o => shared (tables o).registry) events i]
  exact (congrFun (congrArg Network.held hsim) i).symm

/-- In every run a node knows, of the seeds that can travel, exactly those of the nodes whose seeds
had a way to it; the seeds that cannot travel stay where they were. -/
theorem seeds_spread_exactly (sha256 : Bytes → Digest) (tables : ι → PeerTable) (events : List (Event ι))
    (i : ι) :
    let s := events.foldl (syncStep sha256) ⟨tables, []⟩
    shared (s.table i).registry = ⋃ o ∈ origins events i, shared (tables o).registry ∧
      unsent (s.table i).registry = unsent (tables i).registry :=
  ⟨shared_run tables events i, (kept_run tables events).unsent i⟩

omit [DecidableEq ι] in
lemma Kept.ipv4Only {tables : ι → PeerTable} {s : SyncNetwork ι} (h : Kept tables s) {i : ι}
    (hv4 : Ipv4Only (tables i).registry) : Ipv4Only (s.table i).registry := by
  intro p hp
  cases hs : p.2 with
  | v4 ip port => exact ⟨ip, port, rfl⟩
  | v6 ip port flowinfo scopeId =>
    have hun : p ∈ SeedSpread.unsent (s.table i).registry := ⟨hp, by simp [hs, SocketAddr.isIpv4]⟩
    rw [h.unsent i] at hun
    exact hs ▸ hv4 p hun.1

lemma shared_eq_syncPairs (h : Ipv4Only reg) : shared reg = syncPairs reg := by
  ext p
  exact and_congr_right (fun hp => and_iff_right (h.isIpv4 hp))

/-- Exchanges that gather all seeds at one node and then spread them from it make all nodes agree. -/
theorem seeds_agree_after_gathering (sha256 : Bytes → Digest) (tables : ι → PeerTable)
    (ps qs : List (ι × ι)) (hub : ι) (hgather : ∀ j, j ∈ origins (exchanges ps) hub)
    (hscatter : ∀ i, hub ∈ origins (exchanges qs) i) :
    let s := (exchanges (ps ++ qs)).foldl (syncStep sha256) ⟨tables, []⟩
    (∀ i, shared (s.table i).registry = ⋃ o, shared (tables o).registry) ∧
      ((∀ i, Ipv4Only (tables i).registry) →
        ∀ i j, seedHash sha256 (s.table i).registry = seedHash sha256 (s.table j).registry) := by
  intro s
  have hall : ∀ i, shared (s.table i).registry = ⋃ o, shared (tables o).registry := by
    intro i
    rw [shared_run]
    exact Set.iUnion_congr (fun o => by simp [origins_gather hgather hscatter i o])
  refine ⟨hall, fun hv4 i j => ?_⟩
  have hkept : Kept tables s := kept_run tables (exchanges (ps ++ qs))
  have hi := hkept.ipv4Only (hv4 i)
  have hj := hkept.ipv4Only (hv4 j)
  apply seedHash_congr hi hj
  rw [← shared_eq_syncPairs hi, ← shared_eq_syncPairs hj]
  exact (hall i).trans (hall j).symm

def firstSeeds (i : Option Bool) : PeerTable :=
  ⟨empty.register "node" (.v4 ⟨10, 0, 0, 1⟩ (i.elim 80 (fun b => if b then 81 else 82))), []⟩

/-- the other two nodes synchronise with `none` -/
def withHub : List (Option Bool × Option Bool) := [(some true, none), (some false, none)]

theorem seeds_agree_three_nodes :
    let s := (exchanges (withHub ++ withHub)).foldl (syncStep Sha256.digest) ⟨firstSeeds, []⟩
    (∀ j, j ∈ origins (exchanges withHub) none) ∧ (∀ i, none ∈ origins (exchanges withHub) i) ∧
      ∀ i, shared (s.table i).registry = ⋃ o, shared (firstSeeds o).registry := by
  have hgather : ∀ j, j ∈ origins (exchanges withHub) none := by decide
  have hscatter : ∀ i, none ∈ origins (exchanges withHub) i := by decide
  exact ⟨hgather, hscatter,
    (seeds_agree_after_gathering Sha256.digest firstSeeds withHub withHub none hgather hscatter).1⟩

end ZzP2p.Protocols.SeedSpread
