import Mathlib.Data.List.Lex
import ZzP2p.Protocols.Connected
import ZzP2p.Protocols.SeedSync

/-! The connections that a node starts on its own: at startup to the peers it has on record, to the
nodes of a gossiped or acknowledged list, to those of a tick, and in a cycle of seed
synchronisation. -/

namespace ZzP2p

namespace Rust.SocketAddr

/-- the fields in the order in which addresses are compared, the variant first -/
def ordKey : SocketAddr → List ℕ
  | .v4 ip port => [0, ip.a.toNat, ip.b.toNat, ip.c.toNat, ip.d.toNat, port.toNat]
  | .v6 ip port flowinfo scopeId =>
    1 :: ip.segments.map UInt16.toNat ++ [port.toNat, flowinfo.toNat, scopeId.toNat]

instance : LT SocketAddr := ⟨fun s t => s.ordKey < t.ordKey⟩

instance : LE SocketAddr := ⟨fun s t => s.ordKey ≤ t.ordKey⟩

instance (s t : SocketAddr) : Decidable (s < t) := inferInstanceAs (Decidable (s.ordKey < t.ordKey))

instance (s t : SocketAddr) : Decidable (s ≤ t) := inferInstanceAs (Decidable (s.ordKey ≤ t.ordKey))

protected lemma not_le {s t : SocketAddr} : ¬ s ≤ t ↔ t < s := not_le (a := s.ordKey) (b := t.ordKey)

end Rust.SocketAddr

namespace Protocols

open Rust NodeRegistry

variable (sha256 : Bytes → Digest) (localAddr : String)

def connect (bind : SocketAddr) (inner : List SocketAddr) : List SocketAddr :=
  inner.filter (fun endpoint => ¬ endpoint ≤ bind)

def gossipDials (sender : String) (peer : SocketAddr) (cmd : OnlineCommand) (reg : NodeRegistry) :
    List Dial :=
  let reg := reg.register sender (SocketAddr.new peer.ip cmd.port)
  cmd.seeds.elim [] (fun seeds => (gossipMerge sha256 localAddr reg seeds).2)

def ackDial (reg : NodeRegistry) (seed : SeedRecord) : List Dial :=
  if reg.isConnected seed.nodeAddress ∨ seed.nodeAddress = localAddr ∨ seed.nodeAddress < localAddr then []
  else (SocketAddr.parse seed.address).toList.map (fun addr => (seed.nodeAddress, addr))

def onlineackDials (peer : SocketAddr) (ack : OnlineAckCommand) (reg : NodeRegistry) : List Dial :=
  let reg := onlineackHandler sha256 peer ack reg
  ack.seeds.elim [] (fun cmd =>
    if cmd.verify sha256 then cmd.seeds.flatMap (ackDial localAddr reg) else [])

def tickDial (reg : NodeRegistry) (seed : SeedRecord) : List Dial :=
  if reg.isConnected seed.nodeAddress then []
  else (SocketAddr.parse seed.address).toList.map (fun addr => (seed.nodeAddress, addr))

def tickDials (reg : NodeRegistry) (cmd : SeedsCommand) : List Dial :=
  if cmd.verify sha256 then cmd.seeds.flatMap (tickDial (syncWitnessRing reg cmd.seeds)) else []

/-- one round of the cycle: a peer with an open connection is not dialed again -/
def syncDials (existing peerAddrs : List SocketAddr) : List SocketAddr :=
  peerAddrs.filter (fun addr => addr ∉ existing)

def Passes (reg : NodeRegistry) (node : String) : Prop :=
  reg.isConnected node = false ∧ node ≠ localAddr ∧ ¬ node < localAddr

instance (reg : NodeRegistry) (node : String) : Decidable (Passes localAddr reg node) :=
  inferInstanceAs (Decidable (_ ∧ _))

variable {sha256 localAddr} {reg : NodeRegistry} {d : Dial}

lemma passes_iff {node : String} : Passes localAddr reg node ↔
    ¬ (reg.isConnected node = true ∨ node = localAddr ∨ node < localAddr) := by
  rw [not_or, not_or, Bool.not_eq_true]
  rfl

lemma mem_parsed {seed : SeedRecord} :
    d ∈ (SocketAddr.parse seed.address).toList.map (fun addr => (seed.nodeAddress, addr)) ↔
      seed.nodeAddress = d.1 ∧ SocketAddr.parse seed.address = some d.2 := by
  obtain ⟨node, socket⟩ := d
  simp only [List.mem_map, Option.mem_toList, Prod.mk.injEq]
  constructor
  · rintro ⟨addr, hp, rfl, rfl⟩
    exact ⟨rfl, hp⟩
  · rintro ⟨rfl, hp⟩
    exact ⟨socket, hp, rfl, rfl⟩

lemma mem_connect {bind endpoint : SocketAddr} {inner : List SocketAddr} :
    endpoint ∈ connect bind inner ↔ endpoint ∈ inner ∧ bind < endpoint := by
  simp only [connect, List.mem_filter, decide_eq_true_eq, SocketAddr.not_le]

lemma mem_ackDial {seed : SeedRecord} : d ∈ ackDial localAddr reg seed ↔
    Passes localAddr reg d.1 ∧ d ∈ parsedPairs [seed] := by
  have hpairs : d ∈ parsedPairs [seed] ↔ seed.nodeAddress = d.1 ∧ SocketAddr.parse seed.address = some d.2 := by
    simp [parsedPairs]
  rw [ackDial, hpairs]
  split
  · next h =>
    simp only [List.not_mem_nil, false_iff, not_and]
    rintro hp hn -
    exact passes_iff.mp hp (hn ▸ h)
  · next h =>
    rw [mem_parsed]
    refine ⟨fun hd => ⟨?_, hd⟩, fun hd => hd.2⟩
    exact hd.1 ▸ passes_iff.mpr h

lemma gossipSeed_snd (s : NodeRegistry × List Dial) (seed : SeedRecord) :
    (gossipSeed localAddr s seed).2 = s.2 ++ ackDial localAddr (gossipSeed localAddr s seed).1 seed := by
  rw [gossipSeed_fst]
  simp only [gossipSeed, ackDial]
  split
  · split <;> simp
  · split <;> simp

lemma Passes.congr {reg' : NodeRegistry} {node : String} (h : reg'.isConnected node = reg.isConnected node) :
    Passes localAddr reg' node ↔ Passes localAddr reg node := by
  simp only [Passes, h]

lemma mem_gossipFold {s : NodeRegistry × List Dial} {seeds : List SeedRecord} :
    d ∈ (seeds.foldl (gossipSeed localAddr) s).2 ↔
      d ∈ s.2 ∨ Passes localAddr s.1 d.1 ∧ d ∈ parsedPairs seeds := by
  induction seeds generalizing s with
  | nil => simp [parsedPairs]
  | cons seed seeds ih =>
    have hflag : Passes localAddr (gossipSeed localAddr s seed).1 d.1 ↔ Passes localAddr s.1 d.1 :=
      Passes.congr isConnected_gossipSeed
    rw [List.foldl_cons, ih, gossipSeed_snd, List.mem_append, mem_ackDial, hflag, parsedPairs_cons seed seeds,
      Set.mem_union, and_or_left, or_assoc]

lemma mem_gossipDials {sender : String} {peer : SocketAddr} {cmd : OnlineCommand} :
    d ∈ gossipDials sha256 localAddr sender peer cmd reg ↔ Passes localAddr reg d.1 ∧
      ∃ seeds ∈ cmd.seeds, seeds.verify sha256 = true ∧ d ∈ parsedPairs seeds.seeds := by
  rw [gossipDials]
  cases cmd.seeds with
  | none => simp
  | some seeds =>
    simp only [Option.elim_some, Option.mem_some_iff, exists_eq_left', gossipMerge]
    split
    · next hv =>
      rw [mem_gossipFold, Passes.congr isConnected_register]
      simp [hv]
    · next hv => simp [hv]

lemma mem_onlineackDials {peer : SocketAddr} {ack : OnlineAckCommand} :
    d ∈ onlineackDials sha256 localAddr peer ack reg ↔ d.1 ≠ ack.address ∧ Passes localAddr reg d.1 ∧
      ∃ seeds ∈ ack.seeds, seeds.verify sha256 = true ∧ d ∈ parsedPairs seeds.seeds := by
  have hpasses : Passes localAddr (onlineackHandler sha256 peer ack reg) d.1 ↔
      d.1 ≠ ack.address ∧ Passes localAddr reg d.1 := by
    simp only [Passes, ← Bool.not_eq_true, isConnected_onlineackHandler, not_or, and_assoc]
  have hpairs : ∀ seeds : List SeedRecord, (∃ seed ∈ seeds, d ∈ parsedPairs [seed]) ↔ d ∈ parsedPairs seeds := by
    simp [parsedPairs]
  rw [onlineackDials, ← and_assoc, ← hpasses]
  cases ack.seeds with
  | none => simp
  | some seeds =>
    simp only [Option.elim_some, Option.mem_some_iff, exists_eq_left']
    split
    · next hv =>
      rw [← hpairs]
      simp only [List.mem_flatMap, mem_ackDial, hv, true_and]
      constructor
      · rintro ⟨seed, hs, hp, hd⟩
        exact ⟨hp, seed, hs, hd⟩
      · rintro ⟨hp, seed, hs, hd⟩
        exact ⟨seed, hs, hp, hd⟩
    · next hv => simp [hv]

lemma isConnected_syncWitnessRing {seeds : List SeedRecord} {b : String} :
    (syncWitnessRing reg seeds).isConnected b = reg.isConnected b := by
  refine isConnected_foldl (fun r seed => ?_) seeds reg
  split
  · rfl
  · exact isConnected_registerSeed

lemma mem_tickDials {cmd : SeedsCommand} : d ∈ tickDials sha256 reg cmd ↔
    cmd.verify sha256 = true ∧ reg.isConnected d.1 = false ∧ d ∈ parsedPairs cmd.seeds := by
  have hdial : ∀ seed, d ∈ tickDial (syncWitnessRing reg cmd.seeds) seed ↔ reg.isConnected d.1 = false ∧
      seed.nodeAddress = d.1 ∧ SocketAddr.parse seed.address = some d.2 := by
    intro seed
    rw [tickDial, isConnected_syncWitnessRing]
    split
    · next hc =>
      simp only [List.not_mem_nil, false_iff, not_and]
      rintro hn he -
      rw [← he, hc] at hn
      cases hn
    · next hc =>
      rw [mem_parsed]
      refine ⟨fun hd => ⟨?_, hd⟩, fun hd => hd.2⟩
      rw [← hd.1, Bool.eq_false_iff]
      exact hc
  rw [tickDials]
  split
  · next hv =>
    simp only [List.mem_flatMap, hdial, hv, true_and, parsedPairs, Set.mem_ofPred_eq]
    constructor
    · rintro ⟨seed, hs, hc, hd⟩
      exact ⟨hc, seed, hs, hd⟩
    · rintro ⟨hc, seed, hs, hd⟩
      exact ⟨seed, hs, hc, hd⟩
  · next hv => simp [hv]

end Protocols

end ZzP2p
