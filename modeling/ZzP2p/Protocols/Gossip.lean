import ZzP2p.Protocols.Online

/-! What a node does with a gossiped list of seeds: a node that takes new nodes from the list sends its
own list on. -/

namespace ZzP2p.Protocols.Gossip

open Rust NodeRegistry

variable {ι : Type}

structure Message (ι : Type) where
  dest : ι
  sender : String
  peer : SocketAddr
  port : UInt16
  seeds : Option SeedsCommand

variable (sha256 : Bytes → Digest) (address : ι → String)

def registerSender (reg : NodeRegistry) (m : Message ι) : NodeRegistry :=
  reg.register m.sender (SocketAddr.new m.peer.ip m.port)

def receive (m : Message ι) (reg : NodeRegistry) : NodeRegistry :=
  gossipHandler sha256 (address m.dest) m.sender m.peer ⟨[], m.port, m.seeds⟩ reg

def learned (m : Message ι) (reg : NodeRegistry) : Bool :=
  (registerSender reg m).getAllSeeds.length < (receive sha256 address m reg).getAllSeeds.length

def broadcastSeedsToPeers (i : ι) (peers : List (ι × SocketAddr)) (seeds : SeedsCommand) :
    List (Message ι) :=
  peers.map (fun p => ⟨p.1, address i, p.2, 0, some seeds⟩)

def Message.addresses (m : Message ι) : List String :=
  m.sender :: m.seeds.elim [] (fun seeds => seeds.seeds.map SeedRecord.nodeAddress)

variable {sha256 address} {reg : NodeRegistry}

lemma isRegistered_registerSeed {seed : SeedRecord} {a : String} :
    (registerSeed reg seed).isRegistered a = true ↔ reg.isRegistered a = true ∨
      a = seed.nodeAddress ∧ (SocketAddr.parse seed.address).isSome := by
  rw [registerSeed]
  cases SocketAddr.parse seed.address with
  | none => simp
  | some addr => simp [isRegistered_register, or_comm]

lemma isRegistered_gossipSeed {localAddr a : String} {s : NodeRegistry × List Dial} {seed : SeedRecord} :
    (gossipSeed localAddr s seed).1.isRegistered a = true ↔ s.1.isRegistered a = true ∨
      a = seed.nodeAddress ∧ (SocketAddr.parse seed.address).isSome := by
  rw [gossipSeed_fst]
  split
  · next hr =>
    refine ⟨Or.inl, ?_⟩
    rintro (h | ⟨rfl, -⟩)
    · exact h
    · exact hr
  · exact isRegistered_registerSeed

lemma isRegistered_gossip {localAddr a : String} {s : NodeRegistry × List Dial} {seeds : List SeedRecord} :
    (seeds.foldl (gossipSeed localAddr) s).1.isRegistered a = true ↔ s.1.isRegistered a = true ∨
      ∃ seed ∈ seeds, a = seed.nodeAddress ∧ (SocketAddr.parse seed.address).isSome := by
  induction seeds generalizing s with
  | nil => simp
  | cons seed seeds ih => rw [List.foldl_cons, ih, isRegistered_gossipSeed, List.exists_mem_cons_iff, or_assoc]

lemma gossip_eq_of_known {localAddr : String} {s : NodeRegistry × List Dial} {seeds : List SeedRecord}
    (h : ∀ a, (seeds.foldl (gossipSeed localAddr) s).1.isRegistered a = true → s.1.isRegistered a = true) :
    (seeds.foldl (gossipSeed localAddr) s).1 = s.1 := by
  induction seeds generalizing s with
  | nil => rfl
  | cons seed seeds ih =>
    have hseed : (gossipSeed localAddr s seed).1 = s.1 := by
      rw [gossipSeed_fst]
      split
      · rfl
      · next hr =>
        cases hp : SocketAddr.parse seed.address with
        | none => simp [registerSeed, hp]
        | some addr =>
          have hnew := h seed.nodeAddress
            (isRegistered_gossip.mpr (Or.inr ⟨seed, List.mem_cons_self, rfl, by simp [hp]⟩))
          exact absurd hnew hr
    rw [List.foldl_cons, ih, hseed]
    rw [hseed]
    exact h

lemma receive_of_seeds {m : Message ι} {cmd : SeedsCommand} (h : m.seeds = some cmd) :
    receive sha256 address m reg = (gossipMerge sha256 (address m.dest) (registerSender reg m) cmd).1 := by
  simp only [receive, gossipHandler, h]
  rfl

lemma receive_of_none {m : Message ι} (h : m.seeds = none) :
    receive sha256 address m reg = registerSender reg m := by
  simp only [receive, gossipHandler, h]
  rfl

lemma isRegistered_registerSender {m : Message ι} {a : String} :
    (registerSender reg m).isRegistered a = true ↔ a = m.sender ∨ reg.isRegistered a = true :=
  isRegistered_register

lemma isRegistered_gossipMerge {localAddr a : String} {cmd : SeedsCommand} :
    (gossipMerge sha256 localAddr reg cmd).1.isRegistered a = true ↔ reg.isRegistered a = true ∨
      cmd.verify sha256 = true ∧
        ∃ seed ∈ cmd.seeds, a = seed.nodeAddress ∧ (SocketAddr.parse seed.address).isSome := by
  rw [gossipMerge]
  split
  · next hv => rw [isRegistered_gossip, hv, eq_self, true_and]
  · next hv => simp [hv]

lemma isRegistered_receive_of_isRegistered {m : Message ι} {a : String} (h : reg.isRegistered a = true) :
    (receive sha256 address m reg).isRegistered a = true := by
  have hs := (isRegistered_registerSender (m := m)).mpr (Or.inr h)
  cases hm : m.seeds with
  | none => rwa [receive_of_none hm]
  | some cmd =>
    rw [receive_of_seeds hm]
    exact isRegistered_gossipMerge.mpr (Or.inl hs)

lemma mem_addresses_of_seed {m : Message ι} {cmd : SeedsCommand} {seed : SeedRecord} (h : m.seeds = some cmd)
    (hs : seed ∈ cmd.seeds) : seed.nodeAddress ∈ m.addresses := by
  simp only [Message.addresses, h, Option.elim_some]
  exact List.mem_cons_of_mem _ (List.mem_map_of_mem hs)

lemma isRegistered_receive {m : Message ι} {a : String}
    (h : (receive sha256 address m reg).isRegistered a = true) :
    reg.isRegistered a = true ∨ a ∈ m.addresses := by
  have hsender : (registerSender reg m).isRegistered a = true → reg.isRegistered a = true ∨ a ∈ m.addresses := by
    intro h
    rcases isRegistered_registerSender.mp h with rfl | h
    · exact Or.inr List.mem_cons_self
    · exact Or.inl h
  cases hm : m.seeds with
  | none =>
    rw [receive_of_none hm] at h
    exact hsender h
  | some cmd =>
    rw [receive_of_seeds hm] at h
    rcases isRegistered_gossipMerge.mp h with h | ⟨-, seed, hs, rfl, -⟩
    · exact hsender h
    · exact Or.inr (mem_addresses_of_seed hm hs)

lemma exists_new_of_learned {m : Message ι} (h : learned sha256 address m reg = true) :
    ∃ a ∈ m.addresses, reg.isRegistered a = false ∧
      (receive sha256 address m reg).isRegistered a = true := by
  have hgrow := of_decide_eq_true h
  by_contra hnone
  have hknown : ∀ a, (receive sha256 address m reg).isRegistered a = true →
      (registerSender reg m).isRegistered a = true := by
    intro a ha
    rcases isRegistered_receive ha with hr | hmem
    · exact isRegistered_registerSender.mpr (Or.inr hr)
    · by_contra hnew
      rw [isRegistered_registerSender, not_or, Bool.not_eq_true] at hnew
      exact hnone ⟨a, hmem, hnew.2, ha⟩
  have hsame : receive sha256 address m reg = registerSender reg m := by
    cases hm : m.seeds with
    | none => exact receive_of_none hm
    | some cmd =>
      rw [receive_of_seeds hm] at hknown ⊢
      rw [gossipMerge] at hknown ⊢
      split
      · next hv =>
        rw [if_pos hv] at hknown
        exact gossip_eq_of_known hknown
      · rfl
  rw [hsame] at hgrow
  exact lt_irrefl _ hgrow

lemma nodeAddress_seedsFromRegistry {now : Clock} {seed : SeedRecord}
    (h : seed ∈ (seedsFromRegistry sha256 now reg).seeds) : reg.isRegistered seed.nodeAddress = true := by
  obtain ⟨⟨socket, node⟩, hp, rfl⟩ := List.mem_map.mp (SeedsCommand.mem_of_mem_dedup h)
  obtain ⟨entry, he, -⟩ := mem_getAllSeeds.mp hp
  exact decide_eq_true (AList.lookup_isSome.mp (by simp [he]))

lemma addresses_broadcast {i : ι} {peers : List (ι × SocketAddr)} {now : Clock} {m : Message ι} {a : String}
    (hm : m ∈ broadcastSeedsToPeers address i peers (seedsFromRegistry sha256 now reg))
    (ha : a ∈ m.addresses) : a = address i ∨ reg.isRegistered a = true := by
  obtain ⟨p, -, rfl⟩ := List.mem_map.mp hm
  rcases List.mem_cons.mp ha with rfl | ha
  · exact Or.inl rfl
  · obtain ⟨seed, hs, rfl⟩ := List.mem_map.mp ha
    exact Or.inr (nodeAddress_seedsFromRegistry hs)

end ZzP2p.Protocols.Gossip
