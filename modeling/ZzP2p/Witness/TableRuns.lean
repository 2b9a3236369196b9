import ZzP2p.Lib.Runs
import ZzP2p.Lib.Sha256
import ZzP2p.Protocols.HandlerPairs
import ZzP2p.Witness.WitnessTable

/-! The table of witnesses over the runs of a node. The registry never loses a seed, so a node that
once stood in a locked ring stands in every later one. -/

namespace ZzP2p.Witness

open Rust Lib Lib.Runs Lib.Upsert Protocols NodeRegistry

variable {sha256 : Bytes → Digest} {ring : List SeedRecord} {s : State} {tick : TickCommand} {h : Handling}

lemma has_registryAt {a : String} {socket : SocketAddr} (hh : s.registry.Has a socket) :
    (registryAt sha256 s tick h).Has a socket := by
  apply has_operates
  cases tick.seeds with
  | none => exact hh
  | some cmd =>
    have hpairs : (a, socket) ∈ (tickMerge sha256 s.registry cmd).pairs := by
      rw [pairs_tickMerge]
      exact Or.inl hh
    exact hpairs

lemma mem_nodes_getWitnessRing {a : String} :
    a ∈ nodes (getWitnessRing sha256 s tick h) ↔ ∃ socket, (registryAt sha256 s tick h).Has a socket := by
  have hperm := (h.order.perm (seedRecords h.firstSeen (registryAt sha256 s tick h))).map SeedRecord.nodeAddress
  rw [nodes, getWitnessRing, hperm.mem_iff]
  simp [seedRecords, mem_getAllSeeds]

structure Seeded (s : State) : Prop where
  nodup : (s.witnesses.map WitnessEntry.address).Nodup
  has : ∀ a ∈ s.witnesses.map WitnessEntry.address, ∃ socket, s.registry.Has a socket

lemma Seeded.subset_ring (hs : Seeded s) (a : String) (ha : a ∈ s.witnesses.map WitnessEntry.address) :
    a ∈ nodes (getWitnessRing sha256 s tick h) := by
  obtain ⟨socket, hsocket⟩ := hs.has a ha
  exact mem_nodes_getWitnessRing.mpr ⟨socket, has_registryAt hsocket⟩

lemma Seeded.tickHandler (hs : Seeded s) : Seeded (Witness.tickHandler sha256 s tick h).1 := by
  have hkeep : ∀ a ∈ s.witnesses.map WitnessEntry.address, ∃ socket,
      (registryAt sha256 s tick h).Has a socket := by
    intro a ha
    exact mem_nodes_getWitnessRing.mp (hs.subset_ring a ha)
  rcases tickHandler_cases sha256 s tick h with ⟨-, hc⟩ | ⟨-, n, hc⟩ | ⟨-, -, n, hc⟩
  · rw [hc]
    exact ⟨hs.nodup, hkeep⟩
  · rw [hc]
    exact ⟨hs.nodup, hkeep⟩
  · rw [hc]
    refine ⟨nodup_storeWitnesses _ _ hs.nodup, fun a ha => ?_⟩
    rcases (mem_addresses_storeWitnesses _ _ a).mp ha with ha | ha
    · exact mem_nodes_getWitnessRing.mp ha
    · exact hkeep a ha

lemma Seeded.step (hs : Seeded s) (e : Event) : Seeded (Witness.step sha256 s e) := by
  cases e with
  | tick tick h => exact hs.tickHandler
  | operate o =>
    refine ⟨hs.nodup, fun a ha => ?_⟩
    obtain ⟨socket, hsocket⟩ := hs.has a ha
    exact ⟨socket, has_operates hsocket [o]⟩

lemma Seeded.table_iff (hs : Seeded s) {e : Event} (hl : locked sha256 s e = some ring) :
    TableOf ring (Witness.step sha256 s e).witnesses ↔ RanksApart ring := by
  cases e with
  | operate o => cases hl
  | tick tick h =>
    simp only [locked, Witness.step] at hl ⊢
    rcases tickHandler_cases sha256 s tick h with ⟨-, hc⟩ | ⟨-, n, hc⟩ | ⟨-, -, n, hc⟩
    · rw [hc] at hl
      cases hl
    · rw [hc] at hl
      cases hl
    · rw [hc] at hl ⊢
      obtain rfl := Option.some.inj hl
      exact tableOf_lock_iff h.now hs.nodup hs.subset_ring

lemma seeded_start : Seeded start := ⟨List.nodup_nil, fun _ ha => absurd ha List.not_mem_nil⟩

theorem witness_table_exact (sha256 : Bytes → Digest) (run : List Event) :
    Guarded (step sha256) (fun s e => ∀ ring, locked sha256 s e = some ring → ring.length ≤ 2 ^ 32 →
      TableOf ring (step sha256 s e).witnesses) start run := by
  refine guarded_of_invariant (I := Seeded) (fun s e hs _ => hs.step e) ?_ seeded_start
    (guarded_const.mpr (fun e _ => trivial))
  intro s e hs _ ring hl hsmall
  exact (hs.table_iff hl).mpr (ranksApart_of_length hsmall)

def name (i : ℕ) : String := String.ofList (List.replicate i 'a')

lemma name_injective : Function.Injective name := by
  intro i j h
  have hlength := congrArg (fun t : String => t.toList.length) h
  simpa [name] using hlength

def manyNodes (n : ℕ) : List Operation :=
  (List.range n).map (fun i => .call (.register (name i) (.v4 ⟨1, 2, 3, 4⟩ 80)))

lemma getAllSeeds_register_new {reg : NodeRegistry} {a : String} {socket : SocketAddr} (ha : a ∉ reg.nodes) :
    (reg.register a socket).getAllSeeds = (socket, a) :: reg.getAllSeeds := by
  have hnone : reg.nodes.lookup a = none := AList.lookup_eq_none.mpr ha
  simp only [NodeRegistry.register, registerWithDirection, hnone, Option.getD_none, getAllSeeds,
    AList.entries_insert_of_notMem ha, List.flatMap_cons]
  rfl

lemma getAllSeeds_manyNodes (n : ℕ) :
    ((manyNodes n).foldl operate NodeRegistry.empty).getAllSeeds =
        ((List.range n).map (fun i => (SocketAddr.v4 ⟨1, 2, 3, 4⟩ 80, name i))).reverse ∧
      ∀ a ∈ ((manyNodes n).foldl operate NodeRegistry.empty).nodes, ∃ i < n, a = name i := by
  induction n with
  | zero =>
    refine ⟨rfl, fun a ha => ?_⟩
    exact absurd ha (AList.notMem_empty a)
  | succ n ih =>
    obtain ⟨hseeds, hnodes⟩ := ih
    have hsucc : manyNodes (n + 1) = manyNodes n ++ [.call (.register (name n) (.v4 ⟨1, 2, 3, 4⟩ 80))] := by
      simp [manyNodes, List.range_succ]
    have hnew : name n ∉ ((manyNodes n).foldl operate NodeRegistry.empty).nodes := by
      intro hmem
      obtain ⟨i, hi, he⟩ := hnodes _ hmem
      exact absurd (name_injective he) hi.ne'
    rw [hsucc, List.foldl_append, List.foldl_cons, List.foldl_nil, operate, call]
    constructor
    · rw [getAllSeeds_register_new hnew, hseeds]
      simp [List.range_succ]
    · intro a ha
      have hreg := isRegistered_register.mp (decide_eq_true ha)
      rcases hreg with rfl | hreg
      · exact ⟨n, Nat.lt_succ_self n, rfl⟩
      · obtain ⟨i, hi, he⟩ := hnodes a (of_decide_eq_true hreg)
        exact ⟨i, hi.trans (Nat.lt_succ_self n), he⟩

def growing (n : ℕ) : Handling := ⟨manyNodes n, ⟨List.reverse, List.reverse_perm⟩, 0, 0⟩

def settled : Handling := ⟨[], ⟨List.reverse, List.reverse_perm⟩, 0, 0⟩

def manyRing (n : ℕ) : List SeedRecord := (List.range n).map (fun i => ⟨"1.2.3.4:80", name i, 0⟩)

lemma reverse_seedRecords_manyNodes (n : ℕ) :
    (seedRecords 0 ((manyNodes n).foldl operate NodeRegistry.empty)).reverse = manyRing n := by
  have htext : (SocketAddr.v4 ⟨1, 2, 3, 4⟩ 80).display = "1.2.3.4:80" := by decide
  rw [seedRecords, (getAllSeeds_manyNodes n).1, List.map_reverse, List.reverse_reverse, List.map_map, manyRing]
  simp [Function.comp_def, htext]

lemma getWitnessRing_growing {s : State} (hs : s.registry = NodeRegistry.empty) (n : ℕ) (hash : Digest) :
    getWitnessRing sha256 s ⟨none, hash⟩ (growing n) = manyRing n := by
  rw [← reverse_seedRecords_manyNodes n, ← hs]
  rfl

lemma getWitnessRing_settled {s : State} {n : ℕ}
    (hs : s.registry = (manyNodes n).foldl operate NodeRegistry.empty) (hash : Digest) :
    getWitnessRing sha256 s ⟨none, hash⟩ settled = manyRing n := by
  rw [← reverse_seedRecords_manyNodes n, ← hs]
  rfl

theorem witness_table_exact_two : ∃ s : State, ∃ tick : TickCommand,
    locked Sha256.digest s (.tick tick settled) = some (manyRing 2) ∧
      TableOf (manyRing 2) (step Sha256.digest s (.tick tick settled)).witnesses := by
  set tick : TickCommand := ⟨none, computeWitnessRingHash Sha256.digest (manyRing 2)⟩ with htick
  obtain ⟨-, hsecond, -⟩ := witness_table_exact Sha256.digest [.tick tick (growing 2), .tick tick settled]
  set s₁ := step Sha256.digest start (.tick tick (growing 2)) with hs₁
  have hfirst : s₁ = ⟨(manyNodes 2).foldl operate NodeRegistry.empty, some 1, some tick.ringHash, [], []⟩ := by
    refine congrArg Prod.fst (tickHandler_first ?_ rfl)
    rw [htick, getWitnessRing_growing rfl]
  have hring : getWitnessRing Sha256.digest s₁ tick settled = manyRing 2 := by
    rw [htick, getWitnessRing_settled]
    rw [hfirst]
  have hlock : locked Sha256.digest s₁ (.tick tick settled) = some (manyRing 2) := by
    rw [locked, tickHandler_second, hring]
    · rw [hring]
    · rw [hfirst]
    · rw [hfirst]
  have hsmall : (manyRing 2).length ≤ 2 ^ 32 := by
    rw [manyRing, List.length_map, List.length_range]
    norm_num
  exact ⟨s₁, tick, hlock, hsecond _ hlock hsmall⟩

end ZzP2p.Witness
