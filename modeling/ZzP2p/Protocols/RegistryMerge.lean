import ZzP2p.Lib.Merging
import ZzP2p.Protocols.NodeRegistry
import ZzP2p.Rust.NetParser

/-! What the operations of the registry add to it. The content of a registry is the set of its nodes
and the directions under each node and socket; no operation takes anything away. -/

namespace ZzP2p.Protocols.NodeRegistry

open Rust Lib.Merging

structure PeerInfo where
  addr : String
  nodeId : Option String
deriving DecidableEq

structure ConnectionInfo where
  inbound : List PeerInfo
  outbound : List PeerInfo
deriving DecidableEq

def syncInbound (reg : NodeRegistry) (peer : PeerInfo) : NodeRegistry :=
  match peer.nodeId with
  | some nid => match reg.nodes.lookup nid with
    | some e => ⟨reg.nodes.insert nid { e with isConnected := true }⟩
    | none => ⟨reg.nodes.insert nid ⟨nid, ∅, true⟩⟩
  | none => reg

def syncOutbound (reg : NodeRegistry) (peer : PeerInfo) : NodeRegistry :=
  match peer.nodeId, SocketAddr.parse peer.addr with
  | some nid, some addr => match reg.nodes.lookup nid with
    | some e => ⟨reg.nodes.insert nid
        ⟨e.address, e.seeds.insert addr (insert .outbound ((e.seeds.lookup addr).getD ∅)), true⟩⟩
    | none => ⟨reg.nodes.insert nid ⟨nid, AList.singleton addr {.outbound}, true⟩⟩
  | _, _ => reg

def syncFromConnectionInfo (reg : NodeRegistry) (info : ConnectionInfo) : NodeRegistry :=
  info.outbound.foldl syncOutbound (info.inbound.foldl syncInbound reg)

inductive Call
  | register (address : String) (seed : SocketAddr)
  | registerWithDirection (address : String) (seed : SocketAddr) (direction : ConnectionDirection)
  | tryConnect (address : String)
  | syncFromConnectionInfo (info : ConnectionInfo)
deriving DecidableEq

def call (reg : NodeRegistry) : Call → NodeRegistry
  | .register a s => reg.register a s
  | .registerWithDirection a s d => reg.registerWithDirection a s d
  | .tryConnect a => (reg.tryConnect a).2
  | .syncFromConnectionInfo info => reg.syncFromConnectionInfo info

inductive Operation
  | call (c : Call)
  | addSeed (address : String) (seed : SocketAddr)
  | markConnected (address : String) (connected : Bool)
  | disconnect (address : String)
deriving DecidableEq

def operate (reg : NodeRegistry) : Operation → NodeRegistry
  | .call c => reg.call c
  | .addSeed a s => (reg.addSeed a s).2
  | .markConnected a connected => reg.markConnected a connected
  | .disconnect a => reg.disconnect a

inductive Fact
  | node (address : String)
  | seed (address : String) (seed : SocketAddr)
  | direction (address : String) (seed : SocketAddr) (direction : ConnectionDirection)

def Holds (reg : NodeRegistry) : Fact → Prop
  | .node a => reg.isRegistered a = true
  | .seed a s => (reg.directions a s).isSome
  | .direction a s d => d ∈ (reg.directions a s).getD ∅

def content (reg : NodeRegistry) : Set Fact := {f | reg.Holds f}

def seedFacts (a : String) (s : SocketAddr) (d : ConnectionDirection) : Set Fact :=
  {.node a, .seed a s, .direction a s d}

def inboundFacts (peer : PeerInfo) : Set Fact := {f | ∃ nid ∈ peer.nodeId, f = .node nid}

def outboundFacts (peer : PeerInfo) : Set Fact :=
  {f | ∃ nid ∈ peer.nodeId, ∃ addr ∈ SocketAddr.parse peer.addr, f ∈ seedFacts nid addr .outbound}

variable {reg : NodeRegistry} {a b : String} {s t : SocketAddr} {d : ConnectionDirection}
  {seeds : AList (fun _ : SocketAddr => Finset ConnectionDirection)} {connected : Bool} {address : String}

lemma directions_insert (e : NodeEntry) :
    (⟨reg.nodes.insert a e⟩ : NodeRegistry).directions b t =
      if b = a then e.seeds.lookup t else reg.directions b t := by
  by_cases hb : b = a
  · subst hb
    simp [directions, AList.lookup_insert]
  · simp [directions, AList.lookup_insert_ne hb, hb]

lemma isRegistered_insert (e : NodeEntry) :
    (⟨reg.nodes.insert a e⟩ : NodeRegistry).isRegistered b = true ↔ b = a ∨ reg.isRegistered b = true := by
  simp [isRegistered]

lemma content_keepSeeds (he : ∀ t, seeds.lookup t = reg.directions a t) :
    (⟨reg.nodes.insert a ⟨address, seeds, connected⟩⟩ : NodeRegistry).content = reg.content ⊔ {.node a} := by
  have hd : ∀ b t, (⟨reg.nodes.insert a ⟨address, seeds, connected⟩⟩ : NodeRegistry).directions b t =
      reg.directions b t := by
    intro b t
    rw [directions_insert]
    split
    · next hb => rw [he, hb]
    · rfl
  ext f
  cases f with
  | node b => simp [content, Holds, isRegistered_insert]
  | seed b t => simp [content, Holds, hd]
  | direction b t d => simp [content, Holds, hd]

lemma content_addSeed (he : ∀ t, seeds.lookup t =
      if t = s then some (insert d ((reg.directions a s).getD ∅)) else reg.directions a t) :
    (⟨reg.nodes.insert a ⟨address, seeds, connected⟩⟩ : NodeRegistry).content =
      reg.content ⊔ seedFacts a s d := by
  have hd : ∀ b t, (⟨reg.nodes.insert a ⟨address, seeds, connected⟩⟩ : NodeRegistry).directions b t =
      if b = a ∧ t = s then some (insert d ((reg.directions a s).getD ∅)) else reg.directions b t := by
    intro b t
    rw [directions_insert]
    by_cases hb : b = a
    · simp [hb, he]
    · simp [hb]
  ext f
  cases f with
  | node b => simp [content, Holds, isRegistered_insert, seedFacts]
  | seed b t =>
    by_cases hbt : b = a ∧ t = s
    · simp [content, Holds, hd, seedFacts, hbt]
    · simp [content, Holds, hd, seedFacts, hbt]
  | direction b t d' =>
    by_cases hbt : b = a ∧ t = s
    · obtain ⟨rfl, rfl⟩ := hbt
      simp [content, Holds, hd, seedFacts]
    · have hne : ¬ (b = a ∧ t = s ∧ d' = d) := fun h => hbt ⟨h.1, h.2.1⟩
      simp [content, Holds, hd, seedFacts, hbt, hne]

lemma directions_of_lookup {e : NodeEntry} (h : reg.nodes.lookup a = some e) (t : SocketAddr) :
    e.seeds.lookup t = reg.directions a t := by
  simp [directions, h]

lemma directions_of_none (h : reg.nodes.lookup a = none) (t : SocketAddr) :
    (∅ : AList (fun _ : SocketAddr => Finset ConnectionDirection)).lookup t = reg.directions a t := by
  simp [directions, h]

lemma lookup_insert_direction (he : ∀ t, seeds.lookup t = reg.directions a t) (t : SocketAddr) :
    (seeds.insert s (insert d ((seeds.lookup s).getD ∅))).lookup t =
      if t = s then some (insert d ((reg.directions a s).getD ∅)) else reg.directions a t := by
  by_cases ht : t = s
  · subst ht
    rw [AList.lookup_insert, he, if_pos rfl]
  · rw [AList.lookup_insert_ne ht, he, if_neg ht]

lemma content_registerWithDirection (reg : NodeRegistry) (a : String) (s : SocketAddr)
    (d : ConnectionDirection) :
    (reg.registerWithDirection a s d).content = reg.content ⊔ seedFacts a s d := by
  simp only [registerWithDirection]
  cases hl : reg.nodes.lookup a with
  | none => exact content_addSeed (lookup_insert_direction (directions_of_none hl))
  | some e => exact content_addSeed (lookup_insert_direction (directions_of_lookup hl))

lemma content_tryConnect (reg : NodeRegistry) (a : String) :
    (reg.tryConnect a).2.content = reg.content ⊔ {.node a} := by
  simp only [tryConnect]
  split
  · next e hl =>
    split
    · have ha : Fact.node a ∈ reg.content := by
        simpa [content, Holds, isRegistered] using AList.lookup_isSome.mp (by simp [hl])
      exact (sup_eq_left.mpr (Set.singleton_subset_iff.mpr ha)).symm
    · exact content_keepSeeds (directions_of_lookup hl)
  · next hl => exact content_keepSeeds (directions_of_none hl)

lemma content_syncInbound (reg : NodeRegistry) (peer : PeerInfo) :
    (reg.syncInbound peer).content = reg.content ⊔ inboundFacts peer := by
  simp only [syncInbound]
  cases hn : peer.nodeId with
  | none => simp [inboundFacts, hn]
  | some nid =>
    have hf : inboundFacts peer = {.node nid} := by simp [inboundFacts, hn]
    rw [hf]
    dsimp only
    split
    · next e hl => exact content_keepSeeds (directions_of_lookup hl)
    · next hl => exact content_keepSeeds (directions_of_none hl)

lemma content_syncOutbound (reg : NodeRegistry) (peer : PeerInfo) :
    (reg.syncOutbound peer).content = reg.content ⊔ outboundFacts peer := by
  simp only [syncOutbound]
  split
  · next nid addr hn hp =>
    have hf : outboundFacts peer = seedFacts nid addr .outbound := by simp [outboundFacts, hn, hp]
    rw [hf]
    split
    · next e hl => exact content_addSeed (lookup_insert_direction (directions_of_lookup hl))
    · next hl =>
      have hnone := directions_of_none hl
      exact content_addSeed (lookup_insert_direction hnone)
  · next hne =>
    have hf : outboundFacts peer = ∅ := by
      ext f
      simp only [outboundFacts, Set.mem_ofPred_eq, Set.mem_empty_iff_false, iff_false]
      rintro ⟨nid, hn, addr, hp, -⟩
      exact hne nid addr hn hp
    simp [hf]

def callCovers : Call → Set Fact → Prop
  | .register a s, x => seedFacts a s .unknown ≤ x
  | .registerWithDirection a s d, x => seedFacts a s d ≤ x
  | .tryConnect a, x => {.node a} ≤ x
  | .syncFromConnectionInfo info, x =>
    (∀ peer ∈ info.inbound, inboundFacts peer ≤ x) ∧ ∀ peer ∈ info.outbound, outboundFacts peer ≤ x

lemma call_merges : Merges content call callCovers := by
  intro reg c x
  cases c with
  | register a s => rw [call, register, content_registerWithDirection, sup_le_iff, callCovers]
  | registerWithDirection a s d => rw [call, content_registerWithDirection, sup_le_iff, callCovers]
  | tryConnect a => rw [call, content_tryConnect, sup_le_iff, callCovers]
  | syncFromConnectionInfo info =>
    rw [call, syncFromConnectionInfo, (Merges.of_sup content_syncOutbound).foldl_le_iff,
      (Merges.of_sup content_syncInbound).foldl_le_iff, callCovers, and_assoc]

lemma content_markConnected (reg : NodeRegistry) (a : String) (connected : Bool) :
    reg.content ≤ (reg.markConnected a connected).content := by
  simp only [markConnected]
  split
  · next e hl =>
    rw [content_keepSeeds (directions_of_lookup hl)]
    exact le_sup_left
  · exact le_rfl

lemma content_le_operate (reg : NodeRegistry) (o : Operation) : reg.content ≤ (reg.operate o).content := by
  cases o with
  | call c => exact call_merges.le_step reg c
  | addSeed a s =>
    simp only [operate, addSeed]
    split
    · exact call_merges.le_step reg (.register a s)
    · exact le_rfl
  | markConnected a connected => exact content_markConnected reg a connected
  | disconnect a => exact content_markConnected reg a false

lemma has_iff_mem_content {reg : NodeRegistry} : reg.Has a s ↔ Fact.seed a s ∈ reg.content := by
  simp only [Has, content, Holds, directions, Set.mem_ofPred_eq]
  cases reg.nodes.lookup a with
  | none => simp
  | some e => simp [AList.lookup_isSome]

lemma has_operates {reg : NodeRegistry} (h : reg.Has a s) (ops : List Operation) :
    (ops.foldl operate reg).Has a s := by
  induction ops generalizing reg with
  | nil => exact h
  | cons o ops ih =>
    apply ih
    rw [has_iff_mem_content] at h ⊢
    exact content_le_operate reg o h

lemma directions_eq_of_content {reg reg' : NodeRegistry} (h : reg.content = reg'.content) (a : String)
    (s : SocketAddr) : reg.directions a s = reg'.directions a s := by
  have hseed : (reg.directions a s).isSome ↔ (reg'.directions a s).isSome :=
    iff_of_eq (congrArg (fun x => Fact.seed a s ∈ x) h)
  have hdir : ∀ d, d ∈ (reg.directions a s).getD ∅ ↔ d ∈ (reg'.directions a s).getD ∅ :=
    fun d => iff_of_eq (congrArg (fun x => Fact.direction a s d ∈ x) h)
  cases h₁ : reg.directions a s with
  | none =>
    cases h₂ : reg'.directions a s with
    | none => rfl
    | some ds => simp [h₁, h₂] at hseed
  | some ds =>
    cases h₂ : reg'.directions a s with
    | none => simp [h₁, h₂] at hseed
    | some ds' =>
      simp only [h₁, h₂, Option.getD_some] at hdir
      rw [Finset.ext hdir]

theorem merge_order_independent (reg : NodeRegistry) :
    (∀ calls calls' : List Call, (∀ c, c ∈ calls ↔ c ∈ calls') →
      (∀ a, (calls.foldl call reg).isRegistered a = (calls'.foldl call reg).isRegistered a) ∧
      ∀ a s, (calls.foldl call reg).directions a s = (calls'.foldl call reg).directions a s) ∧
    ∀ o : Operation,
      (∀ a, reg.isRegistered a = true → (reg.operate o).isRegistered a = true) ∧
      ∀ a s ds, reg.directions a s = some ds → ∃ ds', (reg.operate o).directions a s = some ds' ∧ ds ⊆ ds' := by
  constructor
  · intro calls calls' h
    have hc := call_merges.foldl_congr reg h
    refine ⟨fun a => ?_, directions_eq_of_content hc⟩
    exact Bool.eq_iff_iff.mpr (iff_of_eq (congrArg (fun x => Fact.node a ∈ x) hc))
  · intro o
    have hle := content_le_operate reg o
    refine ⟨fun a ha => hle (show Fact.node a ∈ reg.content from ha), fun a s ds hds => ?_⟩
    have hseed : ((reg.operate o).directions a s).isSome :=
      hle (show Fact.seed a s ∈ reg.content by simp [content, Holds, hds])
    obtain ⟨ds', hds'⟩ := Option.isSome_iff_exists.mp hseed
    refine ⟨ds', hds', fun d hd => ?_⟩
    have hdir : d ∈ ((reg.operate o).directions a s).getD ∅ :=
      hle (show Fact.direction a s d ∈ reg.content by simpa [content, Holds, hds] using hd)
    simpa [hds'] using hdir

end ZzP2p.Protocols.NodeRegistry
