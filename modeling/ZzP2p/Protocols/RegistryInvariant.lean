import ZzP2p.Protocols.RegistryMerge

/-! The representation of the registry. An entry carries its own key, and no socket stands under a
node without a direction. -/

namespace ZzP2p.Protocols.NodeRegistry

open Rust

structure EntryOf (a : String) (e : NodeEntry) : Prop where
  address : e.address = a
  directions : ∀ s ds, e.seeds.lookup s = some ds → ds.Nonempty

def WellFormed (reg : NodeRegistry) : Prop := ∀ a e, reg.nodes.lookup a = some e → EntryOf a e

def total (counts : ℕ × ℕ × ℕ) : ℕ := counts.1 + counts.2.1 + counts.2.2

variable {reg : NodeRegistry} {a : String} {s : SocketAddr} {e : NodeEntry} {d : ConnectionDirection}

lemma wellFormed_empty : empty.WellFormed := by
  intro a e h
  simp [empty] at h

lemma WellFormed.insert (h : reg.WellFormed) (he : EntryOf a e) :
    (⟨reg.nodes.insert a e⟩ : NodeRegistry).WellFormed := by
  intro b e' hb
  by_cases hba : b = a
  · subst hba
    rw [AList.lookup_insert] at hb
    obtain rfl := Option.some.inj hb
    exact he
  · rw [AList.lookup_insert_ne hba] at hb
    exact h b e' hb

lemma entryOf_empty (a : String) (connected : Bool) : EntryOf a ⟨a, ∅, connected⟩ := by
  refine ⟨rfl, ?_⟩
  intro s ds h
  simp at h

lemma EntryOf.connect (h : EntryOf a e) (connected : Bool) : EntryOf a { e with isConnected := connected } :=
  ⟨h.address, h.directions⟩

lemma EntryOf.addSeed (h : EntryOf a e) (s : SocketAddr) (d : ConnectionDirection)
    (ds : Finset ConnectionDirection) (connected : Bool) :
    EntryOf a ⟨e.address, e.seeds.insert s (Insert.insert d ds), connected⟩ := by
  refine ⟨h.address, ?_⟩
  intro t ds' ht
  by_cases hts : t = s
  · subst hts
    rw [AList.lookup_insert] at ht
    obtain rfl := Option.some.inj ht
    exact Finset.insert_nonempty d ds
  · rw [AList.lookup_insert_ne hts] at ht
    exact h.directions t ds' ht

lemma WellFormed.registerWithDirection (h : reg.WellFormed) (a : String) (s : SocketAddr)
    (d : ConnectionDirection) : (reg.registerWithDirection a s d).WellFormed := by
  apply h.insert
  cases hl : reg.nodes.lookup a with
  | none => exact (entryOf_empty a false).addSeed s d _ false
  | some e => exact (h a e hl).addSeed s d _ e.isConnected

lemma WellFormed.addSeed (h : reg.WellFormed) (a : String) (s : SocketAddr) :
    (reg.addSeed a s).2.WellFormed := by
  rw [NodeRegistry.addSeed]
  split
  · exact h.registerWithDirection a s .unknown
  · exact h

lemma WellFormed.tryConnect (h : reg.WellFormed) (a : String) : (reg.tryConnect a).2.WellFormed := by
  rw [NodeRegistry.tryConnect]
  split
  · next e hl =>
    split
    · exact h
    · exact h.insert ((h a e hl).connect true)
  · exact h.insert (entryOf_empty a true)

lemma WellFormed.markConnected (h : reg.WellFormed) (a : String) (connected : Bool) :
    (reg.markConnected a connected).WellFormed := by
  rw [NodeRegistry.markConnected]
  split
  · next e hl => exact h.insert ((h a e hl).connect connected)
  · exact h

lemma WellFormed.syncInbound (h : reg.WellFormed) (peer : PeerInfo) : (reg.syncInbound peer).WellFormed := by
  rw [NodeRegistry.syncInbound]
  split
  · next nid _ =>
    split
    · next e hl => exact h.insert ((h nid e hl).connect true)
    · exact h.insert (entryOf_empty nid true)
  · exact h

lemma WellFormed.syncOutbound (h : reg.WellFormed) (peer : PeerInfo) : (reg.syncOutbound peer).WellFormed := by
  rw [NodeRegistry.syncOutbound]
  split
  · next nid addr _ _ =>
    split
    · next e hl => exact h.insert ((h nid e hl).addSeed addr .outbound _ true)
    · exact h.insert ((entryOf_empty nid true).addSeed addr .outbound ∅ true)
  · exact h

lemma WellFormed.syncFromConnectionInfo (h : reg.WellFormed) (info : ConnectionInfo) :
    (reg.syncFromConnectionInfo info).WellFormed := by
  apply List.foldlRecOn info.outbound _ (motive := WellFormed)
  · apply List.foldlRecOn info.inbound _ (motive := WellFormed) h
    exact fun reg hreg peer _ => WellFormed.syncInbound hreg peer
  · exact fun reg hreg peer _ => WellFormed.syncOutbound hreg peer

lemma WellFormed.operate (h : reg.WellFormed) (o : Operation) : (reg.operate o).WellFormed := by
  cases o with
  | call c =>
    cases c with
    | register a s => exact h.registerWithDirection a s .unknown
    | registerWithDirection a s d => exact h.registerWithDirection a s d
    | tryConnect a => exact h.tryConnect a
    | syncFromConnectionInfo info => exact h.syncFromConnectionInfo info
  | addSeed a s => exact h.addSeed a s
  | markConnected a connected => exact h.markConnected a connected
  | disconnect a => exact h.markConnected a false

lemma WellFormed.operates (ops : List Operation) (h : reg.WellFormed) :
    (ops.foldl NodeRegistry.operate reg).WellFormed := by
  induction ops generalizing reg with
  | nil => exact h
  | cons o ops ih => exact ih (h.operate o)

lemma mem_getSeedsForNode : s ∈ reg.getSeedsForNode a ↔ reg.Has a s := by
  rw [getSeedsForNode, Has]
  cases hl : reg.nodes.lookup a with
  | none => simp
  | some e => simp [AList.mem_keys]

lemma nodup_getSeedsForNode (reg : NodeRegistry) (a : String) : (reg.getSeedsForNode a).Nodup := by
  rw [getSeedsForNode]
  cases reg.nodes.lookup a with
  | none => exact List.nodup_nil
  | some e => exact e.seeds.keys_nodup

lemma seedsWithDirection_subset (d : ConnectionDirection) (a : String) :
    reg.seedsWithDirection d a ⊆ reg.getSeedsForNode a := by
  rw [seedsWithDirection, getSeedsForNode]
  cases hl : reg.nodes.lookup a with
  | none => exact List.Subset.refl []
  | some e => exact List.map_subset _ (List.filter_subset_self _)

lemma total_add (x y : ℕ × ℕ × ℕ) : total (x + y) = total x + total y := by
  simp only [total, Prod.fst_add, Prod.snd_add]
  omega

lemma total_sum (l : List (ℕ × ℕ × ℕ)) : total l.sum = (l.map total).sum := by
  induction l with
  | nil => rfl
  | cons x l ih => rw [List.sum_cons, total_add, ih, List.map_cons, List.sum_cons]

lemma total_countDirections (ds : Finset ConnectionDirection) :
    total (∑ d ∈ ds, countDirection d) = ds.card := by
  induction ds using Finset.induction_on with
  | empty => rfl
  | insert d ds hd ih =>
    rw [Finset.sum_insert hd, total_add, ih, Finset.card_insert_of_notMem hd]
    cases d <;> simp [countDirection, total] <;> omega

lemma EntryOf.length_seeds_le (h : EntryOf a e) :
    e.seeds.keys.length ≤ total (e.seeds.entries.map (fun s => ∑ d ∈ s.2, countDirection d)).sum := by
  have hcard : ∀ n ∈ e.seeds.entries.map (fun s => s.2.card), 1 ≤ n := by
    intro n hn
    obtain ⟨s, hs, rfl⟩ := List.mem_map.mp hn
    exact Finset.card_pos.mpr (h.directions s.1 s.2 (AList.mem_lookup_iff.mpr hs))
  have hle := List.length_le_sum_of_one_le _ hcard
  rw [List.length_map] at hle
  rw [total_sum, List.map_map, AList.keys, List.keys, List.length_map]
  simpa only [Function.comp_def, total_countDirections] using hle

lemma WellFormed.length_getAllSeeds_le (h : reg.WellFormed) :
    reg.getAllSeeds.length ≤ total reg.directionCounts := by
  rw [getAllSeeds, List.length_flatMap, directionCounts, total_sum, List.map_map]
  apply List.sum_le_sum
  intro e he
  rw [List.length_map]
  exact (h e.1 e.2 (AList.mem_lookup_iff.mpr he)).length_seeds_le

theorem registry_represented (ops : List Operation) :
    let reg := ops.foldl NodeRegistry.operate empty
    (∀ a e, reg.nodes.lookup a = some e →
      e.address = a ∧ ∀ s ds, e.seeds.lookup s = some ds → ds.Nonempty) ∧
    (reg.getAllSeeds.Nodup ∧ ∀ a s, (s, a) ∈ reg.getAllSeeds ↔ reg.Has a s) ∧
    (∀ s, (reg.findNodeForSeed s).isSome ↔ ∃ a, (s, a) ∈ reg.getAllSeeds) ∧
    (∀ s a, reg.findNodeForSeed s = some a → s ∈ reg.getSeedsForNode a) ∧
    (∀ a, reg.getInboundSeeds a ⊆ reg.getSeedsForNode a ∧ reg.getOutboundSeeds a ⊆ reg.getSeedsForNode a) ∧
    reg.getAllSeeds.length ≤
      reg.directionCounts.1 + reg.directionCounts.2.1 + reg.directionCounts.2.2 := by
  intro reg
  have hreg : reg.WellFormed := WellFormed.operates ops wellFormed_empty
  refine ⟨?_, ⟨nodup_getAllSeeds reg, fun a s => mem_getAllSeeds⟩, ?_, ?_, ?_, hreg.length_getAllSeeds_le⟩
  · intro a e h
    exact ⟨(hreg a e h).address, (hreg a e h).directions⟩
  · intro s
    rw [Option.isSome_iff_exists]
    constructor
    · rintro ⟨a, ha⟩
      exact ⟨a, mem_getAllSeeds.mpr (has_of_findNodeForSeed ha)⟩
    · rintro ⟨a, ha⟩
      exact findNodeForSeed_isSome (mem_getAllSeeds.mp ha)
  · intro s a h
    exact mem_getSeedsForNode.mpr (has_of_findNodeForSeed h)
  · intro a
    exact ⟨seedsWithDirection_subset .inbound a, seedsWithDirection_subset .outbound a⟩

end ZzP2p.Protocols.NodeRegistry
