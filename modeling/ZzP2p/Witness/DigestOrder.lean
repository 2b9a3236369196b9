import ZzP2p.Lib.Collect
import ZzP2p.Witness.SeedDigest

/-! The digests do not depend on the order in which the map of the nodes and the maps of their seeds are
walked, nor on the nodes that hold the seeds. What is proved of them for the order as stored holds for
every order. -/

namespace ZzP2p.Witness

open Lib Protocols Rust

structure SeedOrder where
  nodes : MapOrder ((_ : String) × NodeEntry)
  seeds : String → MapOrder SocketAddr

namespace SeedOrder

variable (order : SeedOrder)

def getAllSeeds (reg : NodeRegistry) : List (SocketAddr × String) :=
  (order.nodes.arrange reg.nodes.entries).flatMap (fun e =>
    ((order.seeds e.1).arrange e.2.seeds.keys).map (fun seed => (seed, e.1)))

def deriveSeedSetFromRegistry (sha256 : Bytes → Digest) (reg : NodeRegistry) : SeedSet :=
  .new sha256 (((order.getAllSeeds reg).filter (fun p => p.1.port ≠ 0)).map
    (fun p => ⟨p.1.ip.display, p.1.port, p.2⟩))

def getWitnessRingFromRegistry (firstSeen : Clock) (reg : NodeRegistry) : List SeedRecord :=
  (order.getAllSeeds reg).map (fun p => ⟨p.1.display, p.2, firstSeen p⟩)

def getWitnessRing (firstSeen : Clock) (node : Option NodeRegistry) : List SeedRecord :=
  node.elim [] (order.getWitnessRingFromRegistry firstSeen)

def asStored : SeedOrder where
  nodes := ⟨id, List.Perm.refl⟩
  seeds _ := ⟨id, List.Perm.refl⟩

lemma getAllSeeds_perm (reg : NodeRegistry) : (order.getAllSeeds reg).Perm reg.getAllSeeds := by
  have hnodes : (order.nodes.arrange reg.nodes.entries).Perm reg.nodes.entries := order.nodes.perm _
  apply hnodes.flatMap
  intro e _
  exact ((order.seeds e.1).perm e.2.seeds.keys).map _

end SeedOrder

/-- the sockets that are registered, once for each node that holds them -/
def registeredSockets (reg : NodeRegistry) : Multiset SocketAddr :=
  (reg.getAllSeeds.map Prod.fst : List SocketAddr)

lemma sortedBytes_congr (addresses addresses' : List String) (h : addresses ≈ addresses') :
    sortedBytes addresses = sortedBytes addresses' := by
  rw [sortedBytes, sortedBytes, insertionSort_congr h]

def sortedConcat (addresses : Multiset String) : Bytes :=
  Quotient.lift sortedBytes sortedBytes_congr addresses

/-- the text of a socket in a seed set, where an IPv6 address has no brackets -/
def infoText (socket : SocketAddr) : String := hostPort socket.ip.display socket.port

def seedSetSockets (m : Multiset SocketAddr) : Multiset SocketAddr := m.filter (fun socket => socket.port ≠ 0)

def outsideLoopback (m : Multiset SocketAddr) : Multiset SocketAddr :=
  m.filter (fun socket => SeedSet.isLoopback socket.ip.display = false)

lemma sortedConcat_coe (addresses : List String) : sortedConcat addresses = sortedBytes addresses := rfl

lemma seedHashInput_perm (preHash : String) {seeds seeds' : List SeedInfo} (h : seeds.Perm seeds') :
    seedHashInput preHash seeds = seedHashInput preHash seeds' := by
  rw [seedHashInput, seedHashInput, sortedBytes_congr _ _ (h.map SeedInfo.address)]

lemma ringHashInput_perm {seeds seeds' : List SeedRecord} (h : seeds.Perm seeds') :
    ringHashInput seeds = ringHashInput seeds' := sortedBytes_congr _ _ (h.map SeedRecord.address)

lemma map_fst_filter (q : SocketAddr → Prop) [DecidablePred q] (rows : List (SocketAddr × String)) :
    ((rows.filter (fun p => q p.1)).map Prod.fst : List SocketAddr) =
      Multiset.filter q (rows.map Prod.fst : List SocketAddr) := by
  rw [Multiset.filter_coe, List.filter_map]
  rfl

def infosOfRows (rows : List (SocketAddr × String)) : List SeedInfo :=
  rows.map (fun p => ⟨p.1.ip.display, p.1.port, p.2⟩)

lemma seedHashInput_infosOfRows (preHash : String) (rows : List (SocketAddr × String)) :
    seedHashInput preHash (infosOfRows rows) =
      utf8 preHash ++ sortedConcat (Multiset.map infoText (rows.map Prod.fst : List SocketAddr)) := by
  rw [seedHashInput, ← sortedConcat_coe, infosOfRows, List.map_map, Multiset.map_coe, List.map_map]
  rfl

section

variable (sha256 : Bytes → Digest) (order : SeedOrder) (reg : NodeRegistry)

lemma coe_getAllSeeds : ((order.getAllSeeds reg).map Prod.fst : List SocketAddr) = registeredSockets reg :=
  Multiset.coe_eq_coe.mpr ((order.getAllSeeds_perm reg).map Prod.fst)

lemma derived_hash : (order.deriveSeedSetFromRegistry sha256 reg).hash =
    sha256 (utf8 defaultPreHash ++ sortedConcat ((seedSetSockets (registeredSockets reg)).map infoText)) := by
  have hhash : (order.deriveSeedSetFromRegistry sha256 reg).hash = sha256 (seedHashInput defaultPreHash
      (infosOfRows ((order.getAllSeeds reg).filter (fun p => p.1.port ≠ 0)))) := rfl
  rw [hhash, seedHashInput_infosOfRows, map_fst_filter (fun s => s.port ≠ 0), coe_getAllSeeds]
  rfl

lemma filterLoopback_hash : ((order.deriveSeedSetFromRegistry sha256 reg).filterLoopback sha256).hash =
    sha256 (utf8 defaultPreHash ++
      sortedConcat ((outsideLoopback (seedSetSockets (registeredSockets reg))).map infoText)) := by
  let rows := (order.getAllSeeds reg).filter (fun p => p.1.port ≠ 0)
  have hfilter : (infosOfRows rows).filter (fun s => !SeedSet.isLoopback s.ip) =
      infosOfRows (rows.filter (fun p => SeedSet.isLoopback p.1.ip.display = false)) := by
    rw [infosOfRows, List.filter_map, infosOfRows]
    congr 1
    apply List.filter_congr
    intro p _
    simp
  have hhash : ((order.deriveSeedSetFromRegistry sha256 reg).filterLoopback sha256).hash =
      sha256 (seedHashInput defaultPreHash
        ((infosOfRows rows).filter (fun s => !SeedSet.isLoopback s.ip))) := rfl
  rw [hhash, hfilter, seedHashInput_infosOfRows,
    map_fst_filter (fun s => SeedSet.isLoopback s.ip.display = false),
    map_fst_filter (fun s => s.port ≠ 0), coe_getAllSeeds]
  rfl

lemma ring_hash (firstSeen : Clock) :
    computeWitnessRingHash sha256 (order.getWitnessRing firstSeen (some reg)) =
      sha256 (sortedConcat ((registeredSockets reg).map SocketAddr.display)) := by
  have haddr : (order.getWitnessRing firstSeen (some reg)).map SeedRecord.address =
      ((order.getAllSeeds reg).map Prod.fst).map SocketAddr.display := by
    simp [SeedOrder.getWitnessRing, SeedOrder.getWitnessRingFromRegistry]
  rw [computeWitnessRingHash_eq, ringHashInput, haddr, ← sortedConcat_coe, ← Multiset.map_coe, coe_getAllSeeds]

lemma derived_hash_asStored : (order.deriveSeedSetFromRegistry sha256 reg).hash =
    (deriveSeedSetFromRegistry sha256 reg).hash := by
  rw [derived_hash, ← derived_hash sha256 SeedOrder.asStored reg]
  rfl

lemma ring_hash_asStored (firstSeen : Clock) (arrangement : Order) (now : Clock) :
    computeWitnessRingHash sha256 (order.getWitnessRing firstSeen (some reg)) =
      computeWitnessRingHash sha256 (getWitnessRingFromRegistry arrangement now reg) := by
  have hperm := ringHashInput_perm (arrangement.perm (seedRecords now reg))
  rw [ring_hash, ← ring_hash sha256 SeedOrder.asStored reg now, computeWitnessRingHash_eq,
    computeWitnessRingHash_eq, getWitnessRingFromRegistry, hperm]
  rfl

end

/-- Permuted lists of seeds are hashed as the same bytes. The digests of a registry are functions of its
sockets, the same for every order of the maps and every clock. -/
theorem digests_of_sockets (sha256 : Bytes → Digest) :
    (∀ (preHash : String) (seeds seeds' : List SeedInfo), seeds.Perm seeds' →
      computeSeedHash sha256 preHash seeds = sha256 (seedHashInput preHash seeds) ∧
        seedHashInput preHash seeds = seedHashInput preHash seeds') ∧
    (∀ seeds seeds' : List SeedRecord, seeds.Perm seeds' →
      computeWitnessRingHash sha256 seeds = sha256 (ringHashInput seeds) ∧
        ringHashInput seeds = ringHashInput seeds') ∧
    ∀ (order : SeedOrder) (firstSeen : Clock) (reg : NodeRegistry),
      (order.deriveSeedSetFromRegistry sha256 reg).hash =
        sha256 (utf8 defaultPreHash ++ sortedConcat ((seedSetSockets (registeredSockets reg)).map infoText)) ∧
      ((order.deriveSeedSetFromRegistry sha256 reg).filterLoopback sha256).hash =
        sha256 (utf8 defaultPreHash ++
          sortedConcat ((outsideLoopback (seedSetSockets (registeredSockets reg))).map infoText)) ∧
      computeWitnessRingHash sha256 (order.getWitnessRing firstSeen (some reg)) =
        sha256 (sortedConcat ((registeredSockets reg).map SocketAddr.display)) := by
  refine ⟨?_, ?_, ?_⟩
  · intro preHash seeds seeds' h
    exact ⟨computeSeedHash_eq sha256 preHash seeds, seedHashInput_perm preHash h⟩
  · intro seeds seeds' h
    exact ⟨computeWitnessRingHash_eq sha256 seeds, ringHashInput_perm h⟩
  · intro order firstSeen reg
    exact ⟨derived_hash sha256 order reg, filterLoopback_hash sha256 order reg,
      ring_hash sha256 order reg firstSeen⟩

theorem digests_of_portOne :
    (infosOf portOne).reverse ≠ infosOf portOne ∧ (recordsOf portOne).reverse ≠ recordsOf portOne ∧
      seedHashInput defaultPreHash (infosOf portOne).reverse =
        seedHashInput defaultPreHash (infosOf portOne) ∧
      ringHashInput (recordsOf portOne).reverse = ringHashInput (recordsOf portOne) := by
  have h := digests_of_sockets (fun _ => Vector.replicate 32 0)
  refine ⟨by decide, by decide, ?_, ?_⟩
  · exact (h.1 defaultPreHash _ _ (List.reverse_perm _)).2
  · exact (h.2.1 _ _ (List.reverse_perm _)).2

end ZzP2p.Witness
