import ZzP2p.IoStorage
import ZzP2p.Rust.NetParser

/-! Connecting to a peer by its address, and what is left in the two registries when that fails. -/

namespace ZzP2p.ConnectTo

open Rust Record IoStorage

structure Node (storage : Storage) where
  inner : NodeRegistry
  external : NodeRegistry
  files : storage.State

structure Readings where
  lookedUp : ℤ
  created : ℤ
  now : ℤ
  nowAgain : ℤ

def Readings.call (t : Readings) (endpoint : SocketAddr) (success : Bool) : Call :=
  ⟨endpoint, success, t.lookedUp, t.created, t.now, t.nowAgain⟩

section

variable {storage : Storage} {Identity : Type} (serde : (k : Kind) → Serde (k.Value Identity))
  (ios : IOStorage storage Identity)

def saveRegistries (node : Node storage) : Node storage :=
  let files := ios.save serde .nodeRecords node.inner STORAGE_INNER_SERVER node.files
  { node with files := ios.save serde .nodeRecords node.external STORAGE_EXTERNAL_SERVER files }

def connectTo (connect : SocketAddr → Except String Unit) (t t' : Readings) (peerAddr : String)
    (node : Node storage) : Except String Unit × Node storage :=
  match SocketAddr.parse peerAddr with
  | none => (.error "invalid socket address syntax", node)
  | some endpoint =>
    let node := { node with
      inner := node.inner.upsert (t.call endpoint true)
      external := node.external.upsert (t'.call endpoint true) }
    match connect endpoint with
    | .error e => (.error e, node)
    | .ok () => (.ok (), saveRegistries serde ios node)

end

def SameRecords (before after : NodeRegistry) : Prop := ∀ r, r ∈ after.nodes ↔ r ∈ before.nodes

def SameActivity (r r' : NodeRecord) : Prop :=
  r'.endpoint = r.endpoint ∧ r'.tries.1 = r.tries.1 ∧ r'.lastSeen = r.lastSeen ∧ r'.periods = r.periods ∧
    r'.isAvailable = r.isAvailable

/-- The records are those from before, but a failure may be counted for the endpoint. -/
structure NoTrace (endpoint : Option SocketAddr) (before after : NodeRegistry) : Prop where
  records : SameRecords before after ∨
    ∃ c : Call, endpoint = some c.endpoint ∧ c.success = false ∧ SameRecords (before.upsert c) after
  unraised : ∀ r' ∈ after.nodes, (∃ r ∈ before.nodes, SameActivity r r') ∨
    r'.endpoint ∉ before.nodes.map NodeRecord.endpoint ∧ r'.tries.1 = 0 ∧ r'.periods = []

variable {reg : NodeRegistry} {c : Call} {endpoint : Option SocketAddr}

lemma noTrace_self (endpoint : Option SocketAddr) (reg : NodeRegistry) : NoTrace endpoint reg reg :=
  ⟨Or.inl (fun _ => Iff.rfl), fun r hr => Or.inl ⟨r, hr, rfl, rfl, rfl, rfl, rfl⟩⟩

-- a success shows in the count of its record, also when the endpoint is new
lemma not_noTrace_upsert (h : c.success = true) : ¬ NoTrace endpoint reg (reg.upsert c) := by
  intro ht
  have hcount : ((found reg c).updateStatus c.success c.now c.nowAgain).tries.1 =
      (found reg c).tries.1 + 1 := by
    rw [h]
    rfl
  have hsucc : (found reg c).tries.1 + 1 ≠ (found reg c).tries.1 := by simp
  have hunraised := ht.unraised _ (mem_upsert.mpr (Or.inr rfl))
  rw [endpoint_updateStatus, endpoint_found, hcount] at hunraised
  rcases found_cases reg c with ⟨hmem, hfound⟩ | ⟨hnew, hfound⟩
  · rcases hunraised with ⟨r, hr, hendpoint, htries, -⟩ | ⟨habsent, -⟩
    · rw [endpoint_updateStatus] at hendpoint
      have hsame : found reg c = r := List.inj_on_of_nodup_map reg.nodup hmem hr hendpoint
      rw [hcount, ← hsame] at htries
      exact hsucc htries
    · exact habsent (List.mem_map.mpr ⟨_, hmem, hfound⟩)
  · rcases hunraised with ⟨r, hr, hendpoint, -⟩ | ⟨-, hzero, -⟩
    · rw [endpoint_updateStatus, endpoint_found] at hendpoint
      exact hnew (List.mem_map.mpr ⟨r, hr, hendpoint.symm⟩)
    · rw [hfound] at hzero
      change (0 : UInt64) + 1 = 0 at hzero
      exact absurd hzero (by decide)

section

variable {storage : Storage} {Identity : Type} (serde : (k : Kind) → Serde (k.Value Identity))
  (ios : IOStorage storage Identity) (connect : SocketAddr → Except String Unit) (t t' : Readings)
  {peerAddr : String} (node : Node storage)

lemma connectTo_unparsed (h : SocketAddr.parse peerAddr = none) :
    connectTo serde ios connect t t' peerAddr node = (.error "invalid socket address syntax", node) := by
  simp only [connectTo, h]

lemma connectTo_failed {addr : SocketAddr} {e : String} (h : SocketAddr.parse peerAddr = some addr)
    (he : connect addr = .error e) :
    connectTo serde ios connect t t' peerAddr node = (.error e,
      { node with
        inner := node.inner.upsert (t.call addr true)
        external := node.external.upsert (t'.call addr true) }) := by
  simp only [connectTo, h, he]

lemma connectTo_connected {addr : SocketAddr} (h : SocketAddr.parse peerAddr = some addr)
    (hok : connect addr = .ok ()) : (connectTo serde ios connect t t' peerAddr node).1 = .ok () := by
  simp only [connectTo, h, hok]

/-- The registries count a success before the connection is tried, and keep it when that fails. -/
theorem failed_connect_no_trace_iff (peerAddr : String) :
    (∀ e after, connectTo serde ios connect t t' peerAddr node = (.error e, after) →
      NoTrace (SocketAddr.parse peerAddr) node.inner after.inner ∧
        NoTrace (SocketAddr.parse peerAddr) node.external after.external) ↔
      ∀ addr, SocketAddr.parse peerAddr = some addr → connect addr = .ok () := by
  cases hparse : SocketAddr.parse peerAddr with
  | none =>
    rw [connectTo_unparsed serde ios connect t t' node hparse]
    constructor
    · intro _ addr haddr
      cases haddr
    · rintro - e after h
      obtain ⟨-, rfl⟩ := Prod.mk.inj h
      exact ⟨noTrace_self _ _, noTrace_self _ _⟩
  | some addr =>
    cases hconnect : connect addr with
    | error e =>
      constructor
      · intro h
        have htrace := h e _ (connectTo_failed serde ios connect t t' node hparse hconnect)
        exact absurd htrace.1 (not_noTrace_upsert rfl)
      · intro h
        have hok := h addr rfl
        rw [hconnect] at hok
        cases hok
    | ok u =>
      have hok := connectTo_connected serde ios connect t t' node hparse hconnect
      constructor
      · intro _ addr' haddr
        obtain rfl := Option.some.inj haddr
        exact hconnect
      · intro _ e after h
        rw [h] at hok
        cases hok

end

def emptyNode : Node (disk true) := ⟨.empty, .empty, fun _ => none⟩

def refused (addr : SocketAddr) : Except String Unit := .error (addr.display ++ ": connection refused")

def atOne : Readings := ⟨1, 1, 1, 1⟩

theorem failed_connect_leaves_trace :
    let out := connectTo quoted (nodeFiles true) refused atOne atOne "1.2.3.4:80" emptyNode
    let r : NodeRecord := ⟨.v4 ⟨1, 2, 3, 4⟩ 80, [.http, .tcp], 1, 1, [(1, 1)], (1, 0), true⟩
    out.1 = .error "1.2.3.4:80: connection refused" ∧
      out.2.inner.nodes = [r] ∧ out.2.external.nodes = [r] ∧
      ¬ NoTrace (SocketAddr.parse "1.2.3.4:80") emptyNode.inner out.2.inner ∧
      ¬ NoTrace (SocketAddr.parse "1.2.3.4:80") emptyNode.external out.2.external := by
  have hparse : SocketAddr.parse "1.2.3.4:80" = some (.v4 ⟨1, 2, 3, 4⟩ 80) := by decide
  have hout := connectTo_failed quoted (nodeFiles true) refused atOne atOne emptyNode hparse rfl
  rw [hout]
  refine ⟨?_, ?_, ?_, not_noTrace_upsert rfl, not_noTrace_upsert rfl⟩
  · decide
  · decide
  · decide

end ZzP2p.ConnectTo
