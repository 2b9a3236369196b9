import Mathlib.Data.String.Basic
import ZzP2p.Lib.Sha256
import ZzP2p.Protocols.Dialing

/-! Which of two nodes may start a connection to the other. At startup a node compares its bind
address with the endpoint on record; on gossip and on an acknowledgement it compares the addresses
of the two accounts. -/

namespace ZzP2p.Protocols.Tiebreak

open Rust Lib NodeRegistry

structure Node where
  address : String
  bind : SocketAddr
  registry : NodeRegistry

structure Endpoint where
  text : String
  socket : SocketAddr
  parse_eq : SocketAddr.parse text = some socket
  port_ne : socket.port ≠ 0
  specified : socket.ip.isUnspecified = false

inductive Initiation
  | startup (inner : List SocketAddr)
  | gossip (sender : String) (peer : SocketAddr) (cmd : OnlineCommand)
  | ack (peer : SocketAddr) (ack : OnlineAckCommand)

variable (sha256 : Bytes → Digest)

def Initiates (me : Node) (other : String) (endpoint : SocketAddr) : Initiation → Prop
  | .startup inner => endpoint ∈ connect me.bind inner
  | .gossip sender peer cmd =>
    (other, endpoint) ∈ gossipDials sha256 me.address sender peer cmd me.registry
  | .ack peer ack => (other, endpoint) ∈ onlineackDials sha256 me.address peer ack me.registry

def AtMostOneDials (a b : Node) (toB toA : Endpoint) : Prop :=
  ∀ i j, ¬ (Initiates sha256 a b.address toB.socket i ∧ Initiates sha256 b a.address toA.socket j)

/-- The node with the larger account address must not start by its bind address, unless the other
has it connected and does not start by its own. -/
def Yields (lower higher : Node) (toHigher toLower : Endpoint) : Prop :=
  ¬ higher.bind < toLower.socket ∨
    lower.registry.isConnected higher.address = true ∧ ¬ lower.bind < toHigher.socket

variable {sha256} {me : Node} {other : String} {endpoint : Endpoint}

lemma mem_parsedPairs_single : (other, endpoint.socket) ∈
    parsedPairs (SeedsCommand.new sha256 [⟨endpoint.text, other, 0⟩]).seeds := by
  refine ⟨⟨endpoint.text, other, 0⟩, ?_, rfl, endpoint.parse_eq⟩
  simp [SeedsCommand.new, SeedsCommand.dedup]

lemma exists_initiates_iff : (∃ i, Initiates sha256 me other endpoint.socket i) ↔
    me.bind < endpoint.socket ∨ Passes me.address me.registry other := by
  constructor
  · rintro ⟨i, hi⟩
    cases i with
    | startup inner => exact Or.inl (mem_connect.mp hi).2
    | gossip sender peer cmd => exact Or.inr (mem_gossipDials.mp hi).1
    | ack peer ack => exact Or.inr (mem_onlineackDials.mp hi).2.1
  · rintro (hlt | hp)
    · exact ⟨.startup [endpoint.socket], mem_connect.mpr ⟨List.mem_singleton_self _, hlt⟩⟩
    · refine ⟨.gossip other endpoint.socket ⟨[], 0, some (.new sha256 [⟨endpoint.text, other, 0⟩])⟩, ?_⟩
      exact mem_gossipDials.mpr
        ⟨hp, _, rfl, SeedsCommand.verify_new _ _, mem_parsedPairs_single⟩

lemma atMostOneDials_iff {a b : Node} {toB toA : Endpoint} : AtMostOneDials sha256 a b toB toA ↔
    ¬ ((a.bind < toB.socket ∨ Passes a.address a.registry b.address) ∧
      (b.bind < toA.socket ∨ Passes b.address b.registry a.address)) := by
  have ha : (∃ i, Initiates sha256 a b.address toB.socket i) ↔ _ := exists_initiates_iff
  have hb : (∃ i, Initiates sha256 b a.address toA.socket i) ↔ _ := exists_initiates_iff
  rw [← ha, ← hb]
  constructor
  · rintro h ⟨⟨i, hi⟩, j, hj⟩
    exact h i j ⟨hi, hj⟩
  · intro h i j hij
    exact h ⟨⟨i, hij.1⟩, j, hij.2⟩

lemma AtMostOneDials.comm {a b : Node} {toB toA : Endpoint} :
    AtMostOneDials sha256 a b toB toA ↔ AtMostOneDials sha256 b a toA toB := by
  rw [atMostOneDials_iff, atMostOneDials_iff, and_comm]

lemma atMostOneDials_iff_yields {a b : Node} {toB toA : Endpoint} (h : a.address < b.address) :
    AtMostOneDials sha256 a b toB toA ↔ Yields a b toB toA := by
  have hlower : Passes a.address a.registry b.address ↔ a.registry.isConnected b.address = false := by
    refine ⟨fun hp => hp.1, fun hc => ⟨hc, h.ne', ?_⟩⟩
    exact String.lt_asymm h
  have hhigher : ¬ Passes b.address b.registry a.address := fun hp => hp.2.2 h
  rw [atMostOneDials_iff, hlower, Yields]
  simp only [hhigher, or_false, ← Bool.not_eq_true]
  tauto

theorem tiebreak_at_most_one_dials_iff (sha256 : Bytes → Digest) (a b : Node) (toB toA : Endpoint)
    (h : a.address ≠ b.address) : AtMostOneDials sha256 a b toB toA ↔
      if a.address < b.address then Yields a b toB toA else Yields b a toA toB := by
  split
  · next hlt => exact atMostOneDials_iff_yields hlt
  · next hge =>
    have hlt : b.address < a.address := lt_of_le_of_ne (not_lt.mp hge) h.symm
    rw [AtMostOneDials.comm]
    exact atMostOneDials_iff_yields hlt

def first : Endpoint := ⟨"10.0.0.1:80", .v4 ⟨10, 0, 0, 1⟩ 80, by decide, by decide, by decide⟩

def second : Endpoint := ⟨"10.0.0.2:80", .v4 ⟨10, 0, 0, 2⟩ 80, by decide, by decide, by decide⟩

theorem tiebreak_lower_address_lower_bind :
    AtMostOneDials Sha256.digest ⟨"a", first.socket, .empty⟩ ⟨"b", second.socket, .empty⟩ second first := by
  refine (tiebreak_at_most_one_dials_iff _ _ _ _ _ (by decide)).mpr ?_
  rw [if_pos (by decide)]
  exact Or.inl (by decide)

theorem tiebreak_both_dial :
    ¬ ∀ (a b : Node) (toB toA : Endpoint), a.address ≠ b.address →
      AtMostOneDials Sha256.digest a b toB toA := by
  intro h
  have hone := h ⟨"b", first.socket, .empty⟩ ⟨"a", second.socket, .empty⟩ second first (by decide)
  refine hone (.startup [second.socket]) (.gossip "b" first.socket
    ⟨[], 80, some (.new Sha256.digest [⟨first.text, "b", 0⟩])⟩) ⟨?_, ?_⟩
  · exact mem_connect.mpr ⟨List.mem_singleton_self _, by decide⟩
  · refine mem_gossipDials.mpr ⟨by decide, _, rfl, SeedsCommand.verify_new _ _, ?_⟩
    exact mem_parsedPairs_single

end ZzP2p.Protocols.Tiebreak
