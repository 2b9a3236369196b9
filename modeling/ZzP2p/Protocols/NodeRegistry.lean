import Mathlib.Algebra.BigOperators.Group.Finset.Basic
import Mathlib.Data.List.AList
import ZzP2p.Rust.Net

/-! The registry of known nodes and of the socket addresses they are reached at. -/

namespace ZzP2p.Protocols

open Rust

inductive ConnectionDirection
  | inbound | outbound | unknown
deriving DecidableEq

structure NodeEntry where
  address : String
  seeds : AList (fun _ : SocketAddr => Finset ConnectionDirection)
  isConnected : Bool

structure NodeRegistry where
  nodes : AList (fun _ : String => NodeEntry)

namespace NodeRegistry

def empty : NodeRegistry := ⟨∅⟩

def registerWithDirection (reg : NodeRegistry) (address : String) (seed : SocketAddr)
    (direction : ConnectionDirection) : NodeRegistry :=
  let entry := (reg.nodes.lookup address).getD ⟨address, ∅, false⟩
  let directions := (entry.seeds.lookup seed).getD ∅
  ⟨reg.nodes.insert address
    { entry with seeds := entry.seeds.insert seed (insert direction directions) }⟩

def register (reg : NodeRegistry) (address : String) (seed : SocketAddr) : NodeRegistry :=
  reg.registerWithDirection address seed .unknown

def addSeed (reg : NodeRegistry) (address : String) (seed : SocketAddr) : Bool × NodeRegistry :=
  match reg.nodes.lookup address with
  | some entry => (decide (seed ∉ entry.seeds), reg.register address seed)
  | none => (false, reg)

def tryConnect (reg : NodeRegistry) (address : String) : Bool × NodeRegistry :=
  match reg.nodes.lookup address with
  | some entry =>
    if entry.isConnected then (false, reg)
    else (true, ⟨reg.nodes.insert address { entry with isConnected := true }⟩)
  | none => (true, ⟨reg.nodes.insert address ⟨address, ∅, true⟩⟩)

def isConnected (reg : NodeRegistry) (address : String) : Bool :=
  ((reg.nodes.lookup address).map (fun e => e.isConnected)).getD false

def isRegistered (reg : NodeRegistry) (address : String) : Bool := decide (address ∈ reg.nodes)

def markConnected (reg : NodeRegistry) (address : String) (connected : Bool) : NodeRegistry :=
  match reg.nodes.lookup address with
  | some entry => ⟨reg.nodes.insert address { entry with isConnected := connected }⟩
  | none => reg

def disconnect (reg : NodeRegistry) (address : String) : NodeRegistry :=
  reg.markConnected address false

def getAllSeeds (reg : NodeRegistry) : List (SocketAddr × String) :=
  reg.nodes.entries.flatMap (fun e => e.2.seeds.keys.map (fun s => (s, e.1)))

def findNodeForSeed (reg : NodeRegistry) (seed : SocketAddr) : Option String :=
  (reg.nodes.entries.find? (fun e => seed ∈ e.2.seeds)).map (fun e => e.1)

def getSeedsForNode (reg : NodeRegistry) (address : String) : List SocketAddr :=
  ((reg.nodes.lookup address).map (fun e => e.seeds.keys)).getD []

def seedsWithDirection (reg : NodeRegistry) (direction : ConnectionDirection) (address : String) :
    List SocketAddr :=
  ((reg.nodes.lookup address).map (fun e =>
    (e.seeds.entries.filter (fun s => direction ∈ s.2)).map (fun s => s.1))).getD []

def getInboundSeeds (reg : NodeRegistry) (address : String) : List SocketAddr :=
  reg.seedsWithDirection .inbound address

def getOutboundSeeds (reg : NodeRegistry) (address : String) : List SocketAddr :=
  reg.seedsWithDirection .outbound address

def countDirection : ConnectionDirection → ℕ × ℕ × ℕ
  | .inbound => (1, 0, 0)
  | .outbound => (0, 1, 0)
  | .unknown => (0, 0, 1)

def directionCounts (reg : NodeRegistry) : ℕ × ℕ × ℕ :=
  (reg.nodes.entries.map (fun e =>
    (e.2.seeds.entries.map (fun s => ∑ d ∈ s.2, countDirection d)).sum)).sum

def directions (reg : NodeRegistry) (address : String) (seed : SocketAddr) :
    Option (Finset ConnectionDirection) :=
  (reg.nodes.lookup address).bind (fun e => e.seeds.lookup seed)

def Has (reg : NodeRegistry) (address : String) (seed : SocketAddr) : Prop :=
  ∃ e, reg.nodes.lookup address = some e ∧ seed ∈ e.seeds

def pairs (reg : NodeRegistry) : Set (String × SocketAddr) := {p | reg.Has p.1 p.2}

variable {reg : NodeRegistry} {a b : String} {s t : SocketAddr}

@[simp] lemma not_has_empty : ¬ empty.Has a s := by
  rintro ⟨e, he, -⟩
  simp [empty] at he

lemma has_registerWithDirection {direction : ConnectionDirection} :
    (reg.registerWithDirection a s direction).Has b t ↔ (b = a ∧ t = s) ∨ reg.Has b t := by
  by_cases hb : b = a
  · subst hb
    cases he : reg.nodes.lookup b with
    | none => simp [Has, registerWithDirection, he, -AList.insert_empty]
    | some e => simp [Has, registerWithDirection, he]
  · simp [Has, registerWithDirection, AList.lookup_insert_ne hb, hb]

lemma has_register : (reg.register a s).Has b t ↔ (b = a ∧ t = s) ∨ reg.Has b t :=
  has_registerWithDirection

lemma isRegistered_register : (reg.register a s).isRegistered b = true ↔
    b = a ∨ reg.isRegistered b = true := by
  simp [isRegistered, register, registerWithDirection]

lemma has_tryConnect : (reg.tryConnect a).2.Has b t ↔ reg.Has b t := by
  simp only [tryConnect]
  by_cases hb : b = a
  · subst hb
    split
    · next e he =>
      split
      · rfl
      · simp [Has, he]
    · next he => simp [Has, he]
  · split
    · split
      · rfl
      · simp [Has, AList.lookup_insert_ne hb]
    · simp [Has, AList.lookup_insert_ne hb]

lemma mem_getAllSeeds : (s, a) ∈ reg.getAllSeeds ↔ reg.Has a s := by
  simp only [getAllSeeds, List.mem_flatMap, List.mem_map, Prod.mk.injEq, Has]
  constructor
  · rintro ⟨⟨a', e⟩, he, s', hs, rfl, rfl⟩
    exact ⟨e, AList.mem_lookup_iff.mpr he, AList.mem_keys.mp hs⟩
  · rintro ⟨e, he, hs⟩
    exact ⟨⟨a, e⟩, AList.mem_lookup_iff.mp he, s, AList.mem_keys.mpr hs, rfl, rfl⟩

lemma nodup_getAllSeeds (reg : NodeRegistry) : reg.getAllSeeds.Nodup := by
  refine List.nodup_flatMap.mpr ⟨fun e _ => ?_, ?_⟩
  · exact List.Nodup.map (fun s t h => (Prod.mk.inj h).1) e.2.seeds.keys_nodup
  · have hkeys := List.nodupKeys_iff_pairwise.mp reg.nodes.nodupKeys
    refine hkeys.imp (fun {e f} hne => ?_)
    intro p he hf
    obtain ⟨_, -, rfl⟩ := List.mem_map.mp he
    obtain ⟨_, -, h⟩ := List.mem_map.mp hf
    exact hne (Prod.mk.inj h).2.symm

lemma has_of_findNodeForSeed (h : reg.findNodeForSeed s = some a) : reg.Has a s := by
  obtain ⟨e, he, rfl⟩ := Option.map_eq_some_iff.mp h
  have hs : s ∈ e.2.seeds := by simpa using List.find?_some he
  exact ⟨e.2, AList.mem_lookup_iff.mpr (List.mem_of_find?_eq_some he), hs⟩

lemma findNodeForSeed_isSome (h : reg.Has a s) : ∃ b, reg.findNodeForSeed s = some b := by
  obtain ⟨e, he, hs⟩ := h
  have hsome : (reg.nodes.entries.find? (fun e => s ∈ e.2.seeds)).isSome := by
    rw [List.find?_isSome]
    exact ⟨⟨a, e⟩, AList.mem_lookup_iff.mp he, by simpa using hs⟩
  obtain ⟨e', he'⟩ := Option.isSome_iff_exists.mp hsome
  exact ⟨e'.1, by rw [findNodeForSeed, he', Option.map_some]⟩

end NodeRegistry

end ZzP2p.Protocols
