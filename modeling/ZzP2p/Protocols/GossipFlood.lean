import ZzP2p.Lib.Potential
import ZzP2p.Protocols.Gossip

/-! Flooding of seed lists over a network. Deliveries happen in any order, and the peers a node is
connected to may differ from one delivery to the next. -/

namespace ZzP2p.Protocols.Gossip

open Rust Lib.Potential NodeRegistry

variable {ι : Type} {sha256 : Bytes → Digest} {address : ι → String}

structure Network (ι : Type) where
  registry : ι → NodeRegistry
  flight : List (Message ι)

/-- `peers` are the connections of the receiver, each with the address its other end sees -/
structure Delivery (ι : Type) where
  index : ℕ
  peers : List (ι × SocketAddr)
  now : Clock

section Network

variable [Fintype ι]

variable (address) in
def Network.addresses (s : Network ι) : Finset String :=
  Finset.univ.image address ∪ Finset.univ.biUnion (fun i => (s.registry i).nodes.keys.toFinset) ∪
    (s.flight.flatMap Message.addresses).toFinset

variable (address) in
def Network.unknown (s : Network ι) (i : ι) : Finset String :=
  (s.addresses address).filter (fun a => (s.registry i).isRegistered a = false)

lemma mem_addresses {s : Network ι} {a : String} : a ∈ s.addresses address ↔ (∃ i, address i = a) ∨
    (∃ i, (s.registry i).isRegistered a = true) ∨ ∃ m ∈ s.flight, a ∈ m.addresses := by
  simp [Network.addresses, isRegistered, AList.mem_keys]

end Network

section Deliver

variable (sha256 address) [DecidableEq ι]

def broadcaster (s : Network ι) (e : Delivery ι) : Option ι :=
  s.flight[e.index]?.bind (fun m =>
    if learned sha256 address m (s.registry m.dest) then some m.dest else none)

def deliver (s : Network ι) (e : Delivery ι) : Option (Network ι) :=
  s.flight[e.index]?.map (fun m =>
    let reg := receive sha256 address m (s.registry m.dest)
    let sent := if learned sha256 address m (s.registry m.dest)
      then broadcastSeedsToPeers address m.dest e.peers (seedsFromRegistry sha256 e.now reg) else []
    ⟨Function.update s.registry m.dest reg, s.flight.eraseIdx e.index ++ sent⟩)

def broadcasts (i : ι) (s : Network ι) (es : List (Delivery ι)) : ℕ :=
  total (deliver sha256 address)
    (fun s e => if broadcaster sha256 address s e = some i then 1 else 0) s es

end Deliver

variable [DecidableEq ι] {s t : Network ι} {e : Delivery ι}

lemma deliver_cases (h : deliver sha256 address s e = some t) :
    ∃ m ∈ s.flight, t.registry = Function.update s.registry m.dest
        (receive sha256 address m (s.registry m.dest)) ∧
      ((learned sha256 address m (s.registry m.dest) = false ∧
          broadcaster sha256 address s e = none ∧ t.flight = s.flight.eraseIdx e.index ∧
          t.flight.length < s.flight.length) ∨
        (learned sha256 address m (s.registry m.dest) = true ∧
          broadcaster sha256 address s e = some m.dest ∧
          t.flight = s.flight.eraseIdx e.index ++ broadcastSeedsToPeers address m.dest e.peers
            (seedsFromRegistry sha256 e.now (t.registry m.dest)))) := by
  obtain ⟨m, hm, rfl⟩ := Option.map_eq_some_iff.mp h
  refine ⟨m, List.mem_of_getElem? hm, rfl, ?_⟩
  cases hl : learned sha256 address m (s.registry m.dest) with
  | false =>
    left
    obtain ⟨hlt, -⟩ := List.getElem?_eq_some_iff.mp hm
    refine ⟨rfl, by simp [broadcaster, hm, hl], by simp, ?_⟩
    simp only [Bool.false_eq_true, if_false, List.append_nil, List.length_eraseIdx, hlt, if_true]
    omega
  | true =>
    right
    refine ⟨rfl, by simp [broadcaster, hm, hl], by simp⟩

lemma isRegistered_deliver (h : deliver sha256 address s e = some t) {i : ι} {a : String}
    (ha : (s.registry i).isRegistered a = true) : (t.registry i).isRegistered a = true := by
  obtain ⟨m, -, hreg, -⟩ := deliver_cases h
  rw [hreg]
  by_cases hi : i = m.dest
  · subst hi
    rw [Function.update_self]
    exact isRegistered_receive_of_isRegistered ha
  · rwa [Function.update_of_ne hi]

variable [Fintype ι]

lemma addresses_deliver (h : deliver sha256 address s e = some t) :
    t.addresses address ⊆ s.addresses address := by
  obtain ⟨m, hm, hreg, hflight⟩ := deliver_cases h
  have hregistered : ∀ i a, (t.registry i).isRegistered a = true → a ∈ s.addresses address := by
    intro i a ha
    rw [hreg] at ha
    by_cases hi : i = m.dest
    · subst hi
      rw [Function.update_self] at ha
      rcases isRegistered_receive ha with ha | ha
      · exact mem_addresses.mpr (Or.inr (Or.inl ⟨_, ha⟩))
      · exact mem_addresses.mpr (Or.inr (Or.inr ⟨m, hm, ha⟩))
    · rw [Function.update_of_ne hi] at ha
      exact mem_addresses.mpr (Or.inr (Or.inl ⟨i, ha⟩))
  have hold : ∀ m' ∈ s.flight.eraseIdx e.index, ∀ a ∈ m'.addresses, a ∈ s.addresses address :=
    fun m' hm' a ha => mem_addresses.mpr (Or.inr (Or.inr ⟨m', List.mem_of_mem_eraseIdx hm', ha⟩))
  intro a ha
  rcases mem_addresses.mp ha with hi | ⟨i, ha⟩ | ⟨m', hm', ha⟩
  · exact mem_addresses.mpr (Or.inl hi)
  · exact hregistered i a ha
  · rcases hflight with ⟨-, -, hf, -⟩ | ⟨-, -, hf⟩
    · rw [hf] at hm'
      exact hold m' hm' a ha
    · rw [hf] at hm'
      rcases List.mem_append.mp hm' with hm' | hm'
      · exact hold m' hm' a ha
      · rcases addresses_broadcast hm' ha with rfl | ha
        · exact mem_addresses.mpr (Or.inl ⟨_, rfl⟩)
        · exact hregistered _ a ha

lemma unknown_deliver (h : deliver sha256 address s e = some t) (i : ι) :
    t.unknown address i ⊆ s.unknown address i := by
  intro a ha
  obtain ⟨hmem, hnew⟩ := Finset.mem_filter.mp ha
  refine Finset.mem_filter.mpr ⟨addresses_deliver h hmem, ?_⟩
  by_contra hold
  rw [isRegistered_deliver h (Bool.eq_true_of_not_eq_false hold)] at hnew
  exact Bool.noConfusion hnew

lemma unknown_broadcaster (h : deliver sha256 address s e = some t) {i : ι}
    (hb : broadcaster sha256 address s e = some i) :
    (t.unknown address i).card < (s.unknown address i).card := by
  obtain ⟨m, hm, hreg, ⟨-, hnone, -⟩ | ⟨hl, hsome, -⟩⟩ := deliver_cases h
  · rw [hb] at hnone
    exact absurd hnone (by simp)
  · obtain rfl : m.dest = i := by simpa [hb] using hsome.symm
    obtain ⟨a, ha, hold, hnew⟩ := exists_new_of_learned hl
    apply Finset.card_lt_card
    refine (Finset.ssubset_iff_of_subset (unknown_deliver h _)).mpr ⟨a, ?_, ?_⟩
    · exact Finset.mem_filter.mpr ⟨mem_addresses.mpr (Or.inr (Or.inr ⟨m, hm, ha⟩)), hold⟩
    · intro ha'
      have hfalse := (Finset.mem_filter.mp ha').2
      rw [hreg, Function.update_self, hnew] at hfalse
      exact Bool.noConfusion hfalse

lemma deliver_measure (h : deliver sha256 address s e = some t) :
    ∑ i, (t.unknown address i).card < ∑ i, (s.unknown address i).card ∨
      ∑ i, (t.unknown address i).card ≤ ∑ i, (s.unknown address i).card ∧
        t.flight.length < s.flight.length := by
  have hle : ∀ i, (t.unknown address i).card ≤ (s.unknown address i).card :=
    fun i => Finset.card_le_card (unknown_deliver h i)
  obtain ⟨m, -, -, ⟨-, -, -, hlen⟩ | ⟨-, hb, -⟩⟩ := deliver_cases h
  · exact Or.inr ⟨Finset.sum_le_sum (fun i _ => hle i), hlen⟩
  · left
    exact Finset.sum_lt_sum (fun i _ => hle i) ⟨m.dest, Finset.mem_univ _, unknown_broadcaster h hb⟩

lemma broadcast_paid (h : deliver sha256 address s e = some t) (i : ι) :
    (if broadcaster sha256 address s e = some i then 1 else 0) + (t.unknown address i).card ≤
      (s.unknown address i).card := by
  split
  · next hb =>
    have hlt := unknown_broadcaster h hb
    omega
  · rw [Nat.zero_add]
    exact Finset.card_le_card (unknown_deliver h i)

theorem gossip_terminates (sha256 : Bytes → Digest) (address : ι → String) :
    (∀ (run : ℕ → Network ι) (delivery : ℕ → Delivery ι),
      ¬ ∀ n, deliver sha256 address (run n) (delivery n) = some (run (n + 1))) ∧
    ∀ (s : Network ι) (i : ι) (es : List (Delivery ι)),
      broadcasts sha256 address i s es ≤ (s.unknown address i).card := by
  constructor
  · have hstep : ∀ s e t, deliver sha256 address s e = some t → _ := fun s e t h => deliver_measure h
    exact not_forall_step _ _ hstep
  · intro s i es
    have hpay : ∀ s e t, deliver sha256 address s e = some t → _ := fun s e t h => broadcast_paid h i
    rw [broadcasts]
    exact total_le _ hpay s es

end ZzP2p.Protocols.Gossip
