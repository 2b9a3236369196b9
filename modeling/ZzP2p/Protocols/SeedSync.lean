import ZzP2p.Protocols.Seeds

/-! Seed synchronisation: sets of seeds by IP text and port, and the handlers that take them in. -/

namespace ZzP2p.Protocols

open Rust

structure SeedInfo where
  ip : String
  port : UInt16
  nodeId : String
deriving DecidableEq

namespace SeedInfo

def address (seed : SeedInfo) : String := hostPort seed.ip seed.port

def socketAddr (seed : SeedInfo) : Option SocketAddr := SocketAddr.parse seed.address

end SeedInfo

structure SeedSet where
  seeds : List SeedInfo
  preHash : String
  hash : Digest
deriving DecidableEq

variable (sha256 : Bytes → Digest)

def defaultPreHash : String := String.ofList (List.replicate 64 '0')

def computeSeedHash (preHash : String) (seeds : List SeedInfo) : Digest :=
  let sorted := (seeds.map SeedInfo.address).insertionSort (· ≤ ·)
  sha256 (utf8 preHash ++ sorted.flatMap utf8)

lemma insertionSort_congr {l l' : List String} (h : l.Perm l') :
    l.insertionSort (· ≤ ·) = l'.insertionSort (· ≤ ·) := by
  have hperm := ((List.perm_insertionSort (· ≤ ·) l).trans h).trans
    (List.perm_insertionSort (· ≤ ·) l').symm
  exact hperm.eq_of_pairwise' (List.pairwise_insertionSort _ l) (List.pairwise_insertionSort _ l')

namespace SeedSet

def withPreHash (seeds : List SeedInfo) (preHash : String) : SeedSet :=
  ⟨seeds, preHash, computeSeedHash sha256 preHash seeds⟩

def new (seeds : List SeedInfo) : SeedSet := withPreHash sha256 seeds defaultPreHash

def verify (set : SeedSet) : Bool := computeSeedHash sha256 set.preHash set.seeds = set.hash

def isLoopback (ip : String) : Bool := ((IpAddr.parse ip).map IpAddr.isLoopback).getD false

def filterLoopback (set : SeedSet) : SeedSet :=
  withPreHash sha256 (set.seeds.filter (fun s => !isLoopback s.ip)) set.preHash

end SeedSet

def deriveSeedSetFromRegistry (reg : NodeRegistry) : SeedSet :=
  .new sha256 ((reg.getAllSeeds.filter (fun p => p.1.port ≠ 0)).map
    (fun p => ⟨p.1.ip.display, p.1.port, p.2⟩))

structure PeerTable where
  registry : NodeRegistry
  peerAddrs : List SocketAddr

def registerInfo (reg : NodeRegistry) (seed : SeedInfo) : NodeRegistry :=
  seed.socketAddr.elim reg (fun addr => reg.register seed.nodeId addr)

def pushPeerAddrs (peerAddrs : List SocketAddr) (seeds : List SeedInfo) : List SocketAddr :=
  seeds.foldl (fun peers seed =>
    seed.socketAddr.elim peers (fun addr => if addr ∈ peers then peers else peers ++ [addr])) peerAddrs

def takeSeedSet (t : PeerTable) (set : SeedSet) : PeerTable :=
  let registry := set.seeds.foldl registerInfo t.registry
  ⟨registry, pushPeerAddrs t.peerAddrs (deriveSeedSetFromRegistry sha256 registry).seeds⟩

def seedSyncRequestHandler (t : PeerTable) (set : SeedSet) : PeerTable × SeedSet :=
  let t := takeSeedSet sha256 t set
  (t, (deriveSeedSetFromRegistry sha256 t.registry).filterLoopback sha256)

def seedSyncResponseHandler (t : PeerTable) (set : SeedSet) : PeerTable := takeSeedSet sha256 t set

def seedSyncCommitHandler (t : PeerTable) (set : SeedSet) : PeerTable := takeSeedSet sha256 t set

def infoPairs (seeds : List SeedInfo) : Set (String × SocketAddr) :=
  {p | ∃ seed ∈ seeds, seed.nodeId = p.1 ∧ seed.socketAddr = some p.2}

lemma pairs_registerInfo (reg : NodeRegistry) (seed : SeedInfo) :
    (registerInfo reg seed).pairs = reg.pairs ∪ infoPairs [seed] := by
  ext ⟨node, socket⟩
  simp only [registerInfo, infoPairs, NodeRegistry.pairs, Set.mem_union, Set.mem_ofPred_eq,
    List.mem_singleton, exists_eq_left]
  cases hp : seed.socketAddr with
  | none => simp
  | some addr =>
    rw [Option.elim_some, NodeRegistry.has_register, or_comm]
    simp [eq_comm]

lemma pairs_registerInfos (seeds : List SeedInfo) (reg : NodeRegistry) :
    (seeds.foldl registerInfo reg).pairs = reg.pairs ∪ infoPairs seeds := by
  induction seeds generalizing reg with
  | nil => simp [infoPairs]
  | cons seed seeds ih =>
    have hcons : infoPairs (seed :: seeds) = infoPairs [seed] ∪ infoPairs seeds := by
      ext p
      simp [infoPairs]
    rw [List.foldl_cons, ih, pairs_registerInfo, Set.union_assoc, hcons]

variable {sha256} in
lemma pairs_takeSeedSet {t : PeerTable} {set : SeedSet} :
    (takeSeedSet sha256 t set).registry.pairs = t.registry.pairs ∪ infoPairs set.seeds :=
  pairs_registerInfos set.seeds t.registry

lemma mem_pushPeerAddrs {peers : List SocketAddr} {seeds : List SeedInfo} {x : SocketAddr} :
    x ∈ pushPeerAddrs peers seeds ↔ x ∈ peers ∨ ∃ seed ∈ seeds, seed.socketAddr = some x := by
  induction seeds generalizing peers with
  | nil => simp [pushPeerAddrs]
  | cons seed seeds ih =>
    rw [List.exists_mem_cons_iff, ← or_assoc]
    refine ih.trans (or_congr_left ?_)
    cases hs : seed.socketAddr with
    | none => simp [hs]
    | some addr =>
      simp only [hs, Option.elim_some, Option.some.injEq]
      split
      · next hm =>
        refine ⟨Or.inl, ?_⟩
        rintro (h | rfl)
        · exact h
        · exact hm
      · simp [eq_comm]

end ZzP2p.Protocols
