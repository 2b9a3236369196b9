import ZzP2p.Lib.Sha256
import ZzP2p.Protocols.Seeds

/-! The four places that merge a received list of seeds into the registry, and the pairs of node
and socket address that each of them adds. -/

namespace ZzP2p.Protocols

open Rust Lib NodeRegistry

variable (sha256 : Bytes → Digest)

def registerSeed (reg : NodeRegistry) (seed : SeedRecord) : NodeRegistry :=
  (SocketAddr.parse seed.address).elim reg (fun addr => reg.register seed.nodeAddress addr)

def registerSeeds (reg : NodeRegistry) (seeds : List SeedRecord) : NodeRegistry :=
  seeds.foldl registerSeed reg

def handshakeMerge (reg : NodeRegistry) (cmd : SeedsCommand) : NodeRegistry :=
  if cmd.verify sha256 then registerSeeds reg cmd.seeds else reg

def ackMerge (reg : NodeRegistry) (cmd : SeedsCommand) : NodeRegistry :=
  if cmd.verify sha256 then registerSeeds reg cmd.seeds else reg

lemma ackMerge_eq (reg : NodeRegistry) (cmd : SeedsCommand) :
    ackMerge sha256 reg cmd = handshakeMerge sha256 reg cmd := rfl

abbrev Dial := String × SocketAddr

def gossipSeed (localAddr : String) (s : NodeRegistry × List Dial) (seed : SeedRecord) :
    NodeRegistry × List Dial :=
  let reg := if s.1.isRegistered seed.nodeAddress then s.1 else registerSeed s.1 seed
  if reg.isConnected seed.nodeAddress ∨ seed.nodeAddress = localAddr ∨
      seed.nodeAddress < localAddr then (reg, s.2)
  else (reg, s.2 ++ (SocketAddr.parse seed.address).toList.map (fun addr => (seed.nodeAddress, addr)))

def gossipMerge (localAddr : String) (reg : NodeRegistry) (cmd : SeedsCommand) :
    NodeRegistry × List Dial :=
  if cmd.verify sha256 then cmd.seeds.foldl (gossipSeed localAddr) (reg, []) else (reg, [])

def syncWitnessRing (reg : NodeRegistry) (seeds : List SeedRecord) : NodeRegistry :=
  let localAddrs := reg.getAllSeeds.map (fun p => p.1.display)
  seeds.foldl (fun reg seed => if seed.address ∈ localAddrs then reg else registerSeed reg seed) reg

def tickMerge (reg : NodeRegistry) (cmd : SeedsCommand) : NodeRegistry :=
  if cmd.verify sha256 then syncWitnessRing reg cmd.seeds else reg

def parsedPairs (seeds : List SeedRecord) : Set (String × SocketAddr) :=
  {p | ∃ seed ∈ seeds, seed.nodeAddress = p.1 ∧ SocketAddr.parse seed.address = some p.2}

def firstParsed (seeds : List SeedRecord) (node : String) : Option SocketAddr :=
  seeds.findSome? (fun seed => if seed.nodeAddress = node then SocketAddr.parse seed.address else none)

def knownText (reg : NodeRegistry) (text : String) : Prop :=
  ∃ node socket, reg.Has node socket ∧ socket.display = text

variable {reg : NodeRegistry}

lemma pairs_registerSeed (seed : SeedRecord) :
    (registerSeed reg seed).pairs = reg.pairs ∪ parsedPairs [seed] := by
  ext ⟨node, socket⟩
  simp only [registerSeed, parsedPairs, pairs, Set.mem_union, Set.mem_ofPred_eq, List.mem_singleton,
    exists_eq_left]
  cases hp : SocketAddr.parse seed.address with
  | none => simp
  | some addr =>
    rw [Option.elim_some, has_register, or_comm]
    simp [eq_comm]

lemma parsedPairs_cons (seed : SeedRecord) (seeds : List SeedRecord) :
    parsedPairs (seed :: seeds) = parsedPairs [seed] ∪ parsedPairs seeds := by
  ext p
  simp [parsedPairs]

lemma pairs_registerSeeds (seeds : List SeedRecord) (reg : NodeRegistry) :
    (registerSeeds reg seeds).pairs = reg.pairs ∪ parsedPairs seeds := by
  induction seeds generalizing reg with
  | nil => simp [registerSeeds, parsedPairs]
  | cons seed seeds ih =>
    have hrest := ih (registerSeed reg seed)
    rw [pairs_registerSeed, Set.union_assoc, ← parsedPairs_cons] at hrest
    exact hrest

def gossipPairs (reg : NodeRegistry) (seeds : List SeedRecord) : Set (String × SocketAddr) :=
  {p | reg.isRegistered p.1 = false ∧ firstParsed seeds p.1 = some p.2}

def tickPairs (reg : NodeRegistry) (seeds : List SeedRecord) : Set (String × SocketAddr) :=
  {p | ∃ seed ∈ seeds, seed.nodeAddress = p.1 ∧ SocketAddr.parse seed.address = some p.2 ∧
    ¬ knownText reg seed.address}

lemma gossipSeed_fst (localAddr : String) (s : NodeRegistry × List Dial) (seed : SeedRecord) :
    (gossipSeed localAddr s seed).1 =
      if s.1.isRegistered seed.nodeAddress then s.1 else registerSeed s.1 seed := by
  simp only [gossipSeed]
  split_ifs <;> rfl

lemma firstParsed_cons (seed : SeedRecord) (seeds : List SeedRecord) (node : String) :
    firstParsed (seed :: seeds) node =
      if seed.nodeAddress = node then (SocketAddr.parse seed.address).or (firstParsed seeds node)
      else firstParsed seeds node := by
  simp only [firstParsed, List.findSome?_cons]
  by_cases hn : seed.nodeAddress = node
  · simp only [hn, if_true]
    cases SocketAddr.parse seed.address <;> rfl
  · simp [hn]

lemma gossipPairs_cons_of_registered {seed : SeedRecord} (seeds : List SeedRecord)
    (h : reg.isRegistered seed.nodeAddress = true) :
    gossipPairs reg (seed :: seeds) = gossipPairs reg seeds := by
  ext ⟨node, socket⟩
  simp only [gossipPairs, Set.mem_ofPred_eq, firstParsed_cons]
  by_cases hn : seed.nodeAddress = node
  · simp [← hn, h]
  · simp [hn]

lemma gossipPairs_cons_of_parsed {seed : SeedRecord} (seeds : List SeedRecord) {addr : SocketAddr}
    (h : reg.isRegistered seed.nodeAddress = false)
    (hp : SocketAddr.parse seed.address = some addr) :
    gossipPairs reg (seed :: seeds) =
      parsedPairs [seed] ∪ gossipPairs (reg.register seed.nodeAddress addr) seeds := by
  have hreg : ∀ node, (reg.register seed.nodeAddress addr).isRegistered node = false ↔
      node ≠ seed.nodeAddress ∧ reg.isRegistered node = false := by
    intro node
    rw [← Bool.not_eq_true, isRegistered_register, not_or, Bool.not_eq_true]
  ext ⟨node, socket⟩
  simp only [gossipPairs, parsedPairs, Set.mem_ofPred_eq, Set.mem_union, firstParsed_cons, hreg,
    List.mem_singleton, exists_eq_left, hp]
  by_cases hn : seed.nodeAddress = node
  · simp [← hn, h]
  · simp [hn, Ne.symm hn]

lemma gossipPairs_cons_of_unparsed {seed : SeedRecord} (seeds : List SeedRecord)
    (hp : SocketAddr.parse seed.address = none) :
    gossipPairs reg (seed :: seeds) = gossipPairs reg seeds := by
  ext ⟨node, socket⟩
  simp [gossipPairs, firstParsed_cons, hp]

lemma pairs_gossip (localAddr : String) (seeds : List SeedRecord) (s : NodeRegistry × List Dial) :
    (seeds.foldl (gossipSeed localAddr) s).1.pairs = s.1.pairs ∪ gossipPairs s.1 seeds := by
  induction seeds generalizing s with
  | nil =>
    have he : gossipPairs s.1 [] = ∅ := by
      ext p
      simp [gossipPairs, firstParsed]
    rw [he, Set.union_empty]
    rfl
  | cons seed seeds ih =>
    rw [List.foldl_cons, ih, gossipSeed_fst]
    cases hr : s.1.isRegistered seed.nodeAddress with
    | true => rw [if_pos rfl, gossipPairs_cons_of_registered seeds hr]
    | false =>
      rw [if_neg Bool.false_ne_true, pairs_registerSeed]
      cases hp : SocketAddr.parse seed.address with
      | none =>
        have hs : registerSeed s.1 seed = s.1 := by simp [registerSeed, hp]
        have he : parsedPairs [seed] = ∅ := by
          ext p
          simp [parsedPairs, hp]
        rw [hs, he, Set.union_empty, gossipPairs_cons_of_unparsed seeds hp]
      | some addr =>
        have hs : registerSeed s.1 seed = s.1.register seed.nodeAddress addr := by
          simp [registerSeed, hp]
        rw [hs, gossipPairs_cons_of_parsed seeds hr hp, Set.union_assoc]

lemma pairs_syncWitnessRing (seeds : List SeedRecord) :
    (syncWitnessRing reg seeds).pairs = reg.pairs ∪ tickPairs reg seeds := by
  have hfold : ∀ (localAddrs : List String) (seeds : List SeedRecord) (r : NodeRegistry),
      (seeds.foldl (fun reg seed => if seed.address ∈ localAddrs then reg
        else registerSeed reg seed) r).pairs =
      r.pairs ∪ parsedPairs (seeds.filter (fun seed => seed.address ∉ localAddrs)) := by
    intro localAddrs seeds
    induction seeds with
    | nil => simp [parsedPairs]
    | cons seed seeds ih =>
      intro r
      rw [List.foldl_cons, ih]
      by_cases hm : seed.address ∈ localAddrs
      · simp [hm]
      · simp only [hm, if_false, not_false_eq_true, decide_true, List.filter_cons_of_pos,
          pairs_registerSeed, Set.union_assoc, ← parsedPairs_cons]
  rw [syncWitnessRing, hfold]
  congr 1
  ext ⟨node, socket⟩
  have hknown : ∀ text, text ∈ reg.getAllSeeds.map (fun p => p.1.display) ↔ knownText reg text := by
    intro text
    simp only [List.mem_map, Prod.exists, mem_getAllSeeds, knownText]
    exact exists_comm
  simp only [parsedPairs, tickPairs, Set.mem_ofPred_eq, List.mem_filter, hknown, decide_not,
    Bool.not_eq_true', decide_eq_false_iff_not]
  exact exists_congr (fun seed => by tauto)

theorem seed_merge_pairs (localAddr : String) (reg : NodeRegistry) (cmd : SeedsCommand)
    (hv : cmd.verify sha256 = true) :
    (handshakeMerge sha256 reg cmd).pairs = reg.pairs ∪ parsedPairs cmd.seeds ∧
    (ackMerge sha256 reg cmd).pairs = reg.pairs ∪ parsedPairs cmd.seeds ∧
    (gossipMerge sha256 localAddr reg cmd).1.pairs = reg.pairs ∪ gossipPairs reg cmd.seeds ∧
    (tickMerge sha256 reg cmd).pairs = reg.pairs ∪ tickPairs reg cmd.seeds := by
  simp only [handshakeMerge, ackMerge, gossipMerge, tickMerge, hv, if_true]
  exact ⟨pairs_registerSeeds _ _, pairs_registerSeeds _ _, pairs_gossip _ _ _,
    pairs_syncWitnessRing _⟩

def knownNode : NodeRegistry := NodeRegistry.empty.register "n" (.v4 ⟨1, 2, 3, 4⟩ 80)

def seedsOf (address node : String) : SeedsCommand := .new Sha256.digest [⟨address, node, 7⟩]

theorem seed_merge_second_socket :
    (handshakeMerge Sha256.digest knownNode (seedsOf "5.6.7.8:80" "n")).pairs =
        knownNode.pairs ∪ parsedPairs (seedsOf "5.6.7.8:80" "n").seeds ∧
      (gossipMerge Sha256.digest "l" knownNode (seedsOf "5.6.7.8:80" "n")).1.pairs =
        knownNode.pairs ∪ gossipPairs knownNode (seedsOf "5.6.7.8:80" "n").seeds := by
  obtain ⟨hh, -, hg, -⟩ := seed_merge_pairs Sha256.digest "l" knownNode (seedsOf "5.6.7.8:80" "n")
    (SeedsCommand.verify_new _ _)
  exact ⟨hh, hg⟩

lemma mem_pairs_knownNode (p : String × SocketAddr) :
    p ∈ knownNode.pairs ↔ p = ("n", .v4 ⟨1, 2, 3, 4⟩ 80) := by
  obtain ⟨node, socket⟩ := p
  simp only [knownNode, pairs, Set.mem_ofPred_eq, has_register, not_has_empty, or_false,
    Prod.mk.injEq]

lemma mem_handshakeMerge {sha256 : Bytes → Digest} {cmd : SeedsCommand} (hv : cmd.verify sha256 = true)
    {p : String × SocketAddr} (hp : p ∈ parsedPairs cmd.seeds) :
    p ∈ (handshakeMerge sha256 reg cmd).pairs := by
  rw [handshakeMerge, if_pos hv, pairs_registerSeeds]
  exact Or.inr hp

theorem seed_merges_differ :
    ¬ (∀ (sha256 : Bytes → Digest) (localAddr : String) (reg : NodeRegistry) (cmd : SeedsCommand),
      cmd.verify sha256 = true → (gossipMerge sha256 localAddr reg cmd).1.pairs =
        (handshakeMerge sha256 reg cmd).pairs) ∧
    ¬ (∀ (sha256 : Bytes → Digest) (reg : NodeRegistry) (cmd : SeedsCommand),
      cmd.verify sha256 = true →
        (tickMerge sha256 reg cmd).pairs = (handshakeMerge sha256 reg cmd).pairs) := by
  constructor
  · intro h
    have hv : (seedsOf "5.6.7.8:80" "n").verify Sha256.digest = true := SeedsCommand.verify_new _ _
    have hp : ("n", SocketAddr.v4 ⟨5, 6, 7, 8⟩ 80) ∈ parsedPairs (seedsOf "5.6.7.8:80" "n").seeds :=
      ⟨⟨"5.6.7.8:80", "n", 7⟩, List.mem_singleton_self _, rfl, by decide⟩
    have hm : _ ∈ (handshakeMerge Sha256.digest knownNode _).pairs := mem_handshakeMerge hv hp
    rw [← h Sha256.digest "l" knownNode _ hv, gossipMerge, if_pos hv, pairs_gossip] at hm
    rcases hm with hm | ⟨hm, -⟩
    · exact absurd ((mem_pairs_knownNode _).mp hm) (by decide)
    · exact absurd hm (by decide)
  · intro h
    have hv : (seedsOf "1.2.3.4:80" "m").verify Sha256.digest = true := SeedsCommand.verify_new _ _
    have hp : ("m", SocketAddr.v4 ⟨1, 2, 3, 4⟩ 80) ∈ parsedPairs (seedsOf "1.2.3.4:80" "m").seeds :=
      ⟨⟨"1.2.3.4:80", "m", 7⟩, List.mem_singleton_self _, rfl, by decide⟩
    have hm : _ ∈ (handshakeMerge Sha256.digest knownNode _).pairs := mem_handshakeMerge hv hp
    rw [← h Sha256.digest knownNode _ hv, tickMerge, if_pos hv, pairs_syncWitnessRing] at hm
    rcases hm with hm | ⟨seed, hseed, -, -, hk⟩
    · exact absurd ((mem_pairs_knownNode _).mp hm) (by decide)
    · obtain rfl := List.mem_singleton.mp hseed
      refine hk ⟨"n", .v4 ⟨1, 2, 3, 4⟩ 80, ?_, by decide⟩
      exact (mem_pairs_knownNode _).mpr rfl

end ZzP2p.Protocols
