import ZzP2p.Protocols.SeedSync
import ZzP2p.Rust.NetConcat
import ZzP2p.Witness.Ring

/-! The digests of a set of seeds: of a seed set, of the witness ring and of the peers that the command
line is connected to. All three hash the sorted addresses one after another. -/

namespace ZzP2p.Witness

open Protocols Rust

variable (sha256 : Bytes → Digest)

def isPublicAddr (addr : SocketAddr) : Bool := !addr.ip.isLoopback && !addr.ip.isUnspecified

def filterEntries (addrs : List SocketAddr) : List SocketAddr := addrs.filter isPublicAddr

def getConnectedSeeds (entries : List SocketAddr) : List String :=
  ((filterEntries entries).map SocketAddr.display).insertionSort (· ≤ ·)

def computeWitnessHash (seeds : List String) : Digest := sha256 (seeds.flatMap utf8)

def sortedBytes (addresses : List String) : Bytes := (addresses.insertionSort (· ≤ ·)).flatMap utf8

def seedHashInput (preHash : String) (seeds : List SeedInfo) : Bytes :=
  utf8 preHash ++ sortedBytes (seeds.map SeedInfo.address)

def ringHashInput (seeds : List SeedRecord) : Bytes := sortedBytes (seeds.map SeedRecord.address)

def witnessHashInput (seeds : List String) : Bytes := seeds.flatMap utf8

lemma computeSeedHash_eq (preHash : String) (seeds : List SeedInfo) :
    computeSeedHash sha256 preHash seeds = sha256 (seedHashInput preHash seeds) := rfl

lemma computeWitnessRingHash_eq (seeds : List SeedRecord) :
    computeWitnessRingHash sha256 seeds = sha256 (ringHashInput seeds) := rfl

lemma computeWitnessHash_eq (seeds : List String) :
    computeWitnessHash sha256 seeds = sha256 (witnessHashInput seeds) := rfl

-- the list is sorted where it is made, and not again where it is hashed
lemma sortedBytes_getConnectedSeeds (entries : List SocketAddr) :
    sortedBytes (getConnectedSeeds entries) = witnessHashInput (getConnectedSeeds entries) := by
  have hsorted : (getConnectedSeeds entries).Pairwise (· ≤ ·) := List.pairwise_insertionSort _ _
  rw [sortedBytes, hsorted.insertionSort_eq]
  rfl

def display (s : SocketAddrV4) : String := (SocketAddr.v4 s.1 s.2).display

/-- the addresses are those of the set, each once, in any order -/
def Lists (addresses : List String) (S : Finset SocketAddrV4) : Prop :=
  (addresses : Multiset String) = S.val.map display

instance (addresses : List String) (S : Finset SocketAddrV4) : Decidable (Lists addresses S) :=
  inferInstanceAs (Decidable (_ = _))

noncomputable def ordered (S : Finset SocketAddrV4) : List SocketAddrV4 :=
  S.toList.insertionSort (fun s s' => display s ≤ display s')

lemma ordered_inj {S S' : Finset SocketAddrV4} (h : ordered S = ordered S') : S = S' := by
  ext s
  have hmem : ∀ T : Finset SocketAddrV4, s ∈ T ↔ s ∈ ordered T := by
    intro T
    rw [ordered, List.mem_insertionSort, Finset.mem_toList]
  rw [hmem S, hmem S', h]

lemma Lists.sorted {addresses : List String} {S : Finset SocketAddrV4} (h : Lists addresses S) :
    addresses.insertionSort (· ≤ ·) = (ordered S).map display := by
  have hperm : addresses.Perm (S.toList.map display) := by
    rw [← Multiset.coe_eq_coe, h, ← Multiset.map_coe, Finset.coe_toList]
  have hmap := List.map_insertionSort (r := fun s s' => display s ≤ display s') (s := (· ≤ ·)) display
    S.toList (fun _ _ _ _ => Iff.rfl)
  rw [insertionSort_congr hperm, ordered, hmap]

lemma flatMap_utf8 (ss : List SocketAddrV4) :
    (ss.map display).flatMap utf8 = utf8 (String.ofList (ss.flatMap SocketAddrV4.text)) := by
  simp only [utf8, String.toList_ofList, List.flatMap_map, List.flatMap_assoc, display,
    SocketAddr.display, SocketAddrV4.text]

/-- The sorted addresses read the same, but some port is written with more digits in one set than in
the other; the digits it is short of stand before the next address. -/
def Shifted (S S' : Finset SocketAddrV4) : Prop :=
  Aligned [] (ordered S) [] (ordered S') ∧
    (ordered S).map (fun s => s.portText.length) ≠ (ordered S').map (fun s => s.portText.length)

lemma sortedBytes_eq_iff {addresses addresses' : List String} {S S' : Finset SocketAddrV4}
    (h : Lists addresses S) (h' : Lists addresses' S') :
    sortedBytes addresses = sortedBytes addresses' ↔ Aligned [] (ordered S) [] (ordered S') := by
  have hnil : Digits [] := fun c hc => absurd hc List.not_mem_nil
  rw [sortedBytes, sortedBytes, h.sorted, h'.sorted, flatMap_utf8, flatMap_utf8,
    utf8_injective.eq_iff, String.ofList_inj]
  exact concat_eq_iff hnil hnil (ordered S) (ordered S')

lemma determined_iff {addresses addresses' : List String} {S S' : Finset SocketAddrV4}
    (h : Lists addresses S) (h' : Lists addresses' S') :
    (sortedBytes addresses = sortedBytes addresses' → S = S') ↔ ¬ Shifted S S' := by
  rw [sortedBytes_eq_iff h h']
  constructor
  · rintro hd ⟨ha, hne⟩
    exact hne (by rw [hd ha])
  · intro hs ha
    by_contra hne
    refine hs ⟨ha, fun hl => hne (ordered_inj ?_)⟩
    exact (ha.eq_of_cuts rfl hl).2

theorem digests_determine_iff (S S' : Finset SocketAddrV4) :
    (∀ (preHash : String) (seeds seeds' : List SeedInfo),
      Lists (seeds.map SeedInfo.address) S → Lists (seeds'.map SeedInfo.address) S' →
        ((seedHashInput preHash seeds = seedHashInput preHash seeds' → S = S') ↔ ¬ Shifted S S')) ∧
    (∀ ring ring' : List SeedRecord,
      Lists (ring.map SeedRecord.address) S → Lists (ring'.map SeedRecord.address) S' →
        ((ringHashInput ring = ringHashInput ring' → S = S') ↔ ¬ Shifted S S')) ∧
    (∀ entries entries' : List SocketAddr,
      Lists (getConnectedSeeds entries) S → Lists (getConnectedSeeds entries') S' →
        ((witnessHashInput (getConnectedSeeds entries) = witnessHashInput (getConnectedSeeds entries') →
          S = S') ↔ ¬ Shifted S S')) := by
  refine ⟨fun preHash seeds seeds' h h' => ?_, fun ring ring' h h' => ?_, fun es es' h h' => ?_⟩
  · rw [seedHashInput, seedHashInput, List.append_cancel_left_eq]
    exact determined_iff h h'
  · exact determined_iff h h'
  · rw [← sortedBytes_getConnectedSeeds, ← sortedBytes_getConnectedSeeds]
    exact determined_iff h h'

def portOne : List SocketAddrV4 := [(⟨1, 1, 1, 1⟩, 1), (⟨23, 4, 5, 6⟩, 7)]

def portTwelve : List SocketAddrV4 := [(⟨1, 1, 1, 1⟩, 12), (⟨3, 4, 5, 6⟩, 7)]

def infosOf (ss : List SocketAddrV4) : List SeedInfo :=
  ss.map (fun s => ⟨(IpAddr.v4 s.1).display, s.2, "node"⟩)

def recordsOf (ss : List SocketAddrV4) : List SeedRecord := ss.map (fun s => ⟨display s, "node", 0⟩)

def entriesOf (ss : List SocketAddrV4) : List SocketAddr := ss.map (fun s => .v4 s.1 s.2)

theorem digests_determine_portOne : ¬ Shifted portOne.toFinset {(⟨1, 1, 1, 1⟩, 1)} := by
  have h := (digests_determine_iff portOne.toFinset {(⟨1, 1, 1, 1⟩, 1)}).2.2
    (entriesOf portOne) (entriesOf [(⟨1, 1, 1, 1⟩, 1)]) (by decide) (by decide)
  exact h.mp (fun hb => absurd hb (by decide))

theorem digests_collide :
    portOne.toFinset ≠ portTwelve.toFinset ∧
      (Lists ((infosOf portOne).map SeedInfo.address) portOne.toFinset ∧
        Lists ((infosOf portTwelve).map SeedInfo.address) portTwelve.toFinset ∧
        ∀ preHash, seedHashInput preHash (infosOf portOne) = seedHashInput preHash (infosOf portTwelve)) ∧
      (Lists ((recordsOf portOne).map SeedRecord.address) portOne.toFinset ∧
        Lists ((recordsOf portTwelve).map SeedRecord.address) portTwelve.toFinset ∧
        ringHashInput (recordsOf portOne) = ringHashInput (recordsOf portTwelve)) ∧
      Lists (getConnectedSeeds (entriesOf portOne)) portOne.toFinset ∧
      Lists (getConnectedSeeds (entriesOf portTwelve)) portTwelve.toFinset ∧
      witnessHashInput (getConnectedSeeds (entriesOf portOne)) =
        witnessHashInput (getConnectedSeeds (entriesOf portTwelve)) := by
  have hbytes : sortedBytes ((infosOf portOne).map SeedInfo.address) =
      sortedBytes ((infosOf portTwelve).map SeedInfo.address) := by decide
  refine ⟨by decide, ⟨by decide, by decide, fun preHash => ?_⟩, ⟨by decide, by decide, by decide⟩,
    by decide, by decide, by decide⟩
  rw [seedHashInput, hbytes, seedHashInput]

end ZzP2p.Witness
