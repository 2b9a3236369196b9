import ZzP2p.Lib.Runs
import ZzP2p.Protocols.Connected
import ZzP2p.Protocols.RegistryMerge

/-! The connected flag of a node as a token: `try_connect` takes it, and only two operations give it
back. The map locks one entry at a time, so the step of an interleaving is the work on one entry. -/

namespace ZzP2p.Protocols.NodeRegistry

open Rust Lib Lib.Runs

inductive Access
  | registerWithDirection (address : String) (seed : SocketAddr) (direction : ConnectionDirection)
  | addSeed (address : String) (seed : SocketAddr)
  | tryConnect (address : String)
  | markConnected (address : String) (connected : Bool)
  | disconnect (address : String)
  | syncInbound (peer : PeerInfo)
  | syncOutbound (peer : PeerInfo)
deriving DecidableEq

def access (reg : NodeRegistry) : Access → NodeRegistry
  | .registerWithDirection a s d => reg.registerWithDirection a s d
  | .addSeed a s => (reg.addSeed a s).2
  | .tryConnect a => (reg.tryConnect a).2
  | .markConnected a connected => reg.markConnected a connected
  | .disconnect a => reg.disconnect a
  | .syncInbound peer => reg.syncInbound peer
  | .syncOutbound peer => reg.syncOutbound peer

def accesses : Operation → List Access
  | .call (.register a s) => [.registerWithDirection a s .unknown]
  | .call (.registerWithDirection a s d) => [.registerWithDirection a s d]
  | .call (.tryConnect a) => [.tryConnect a]
  | .call (.syncFromConnectionInfo info) => info.inbound.map .syncInbound ++ info.outbound.map .syncOutbound
  | .addSeed a s => [.addSeed a s]
  | .markConnected a connected => [.markConnected a connected]
  | .disconnect a => [.disconnect a]

lemma operate_eq_accesses (reg : NodeRegistry) (o : Operation) :
    reg.operate o = (accesses o).foldl access reg := by
  cases o with
  | call c =>
    cases c with
    | syncFromConnectionInfo info =>
      rw [accesses, List.foldl_append, List.foldl_map, List.foldl_map]
      rfl
    | _ => rfl
  | _ => rfl

def Releases (a : String) (x : Access) : Prop := x = .disconnect a ∨ x = .markConnected a false

variable {reg : NodeRegistry} {a b : String}

lemma tryConnect_fst : (reg.tryConnect a).1 = !reg.isConnected a := by
  rw [tryConnect]
  split
  · next e hl =>
    rw [isConnected_of_lookup hl]
    split
    · next hc => simp [hc]
    · next hc => simp [hc]
  · next hl => rw [isConnected_of_none hl]; rfl

lemma isConnected_insert_connected {e : NodeEntry} (he : e.isConnected = true)
    (h : reg.isConnected b = true) : (⟨reg.nodes.insert a e⟩ : NodeRegistry).isConnected b = true := by
  rw [isConnected_insert]
  split
  · exact he
  · exact h

lemma isConnected_syncInbound {peer : PeerInfo} (h : reg.isConnected b = true) :
    (reg.syncInbound peer).isConnected b = true := by
  rw [syncInbound]
  split
  · split
    · exact isConnected_insert_connected rfl h
    · exact isConnected_insert_connected rfl h
  · exact h

lemma isConnected_syncOutbound {peer : PeerInfo} (h : reg.isConnected b = true) :
    (reg.syncOutbound peer).isConnected b = true := by
  rw [syncOutbound]
  split
  · split
    · exact isConnected_insert_connected rfl h
    · exact isConnected_insert_connected rfl h
  · exact h

lemma isConnected_access {x : Access} (h : reg.isConnected a = true) (hx : ¬ Releases a x) :
    (reg.access x).isConnected a = true := by
  cases x with
  | registerWithDirection b s d => exact isConnected_registerWithDirection.trans h
  | addSeed b s => exact isConnected_addSeed.trans h
  | tryConnect b => exact isConnected_tryConnect.mpr (Or.inr h)
  | markConnected b connected =>
    rw [access, isConnected_markConnected]
    split
    · next hb =>
      cases connected with
      | true => rfl
      | false => exact absurd (Or.inr (by rw [hb.1])) hx
    · exact h
  | disconnect b =>
    apply isConnected_disconnect.mpr
    refine ⟨fun hb => hx (Or.inl (by rw [hb])), h⟩
  | syncInbound peer => exact isConnected_syncInbound h
  | syncOutbound peer => exact isConnected_syncOutbound h

lemma isConnected_accesses {xs : List Access} (h : reg.isConnected a = true)
    (hx : ∀ x ∈ xs, ¬ Releases a x) : (xs.foldl access reg).isConnected a = true := by
  have hstep : ∀ (reg : NodeRegistry) (x : Access), reg.isConnected a = true → ¬ Releases a x →
      (reg.access x).isConnected a = true := fun _ _ => isConnected_access
  exact guarded_invariant hstep h (guarded_const.mpr hx) _ (last_visited _ _)

/-- Of the accesses of a run, `before` come before the first call of the two and `between` after it. -/
theorem try_connect_token (reg : NodeRegistry) (a : String) (before between : List Access) :
    let first := before.foldl access reg
    let second := between.foldl access (first.tryConnect a).2
    ((first.tryConnect a).1 = true → (second.tryConnect a).1 = true → ∃ x ∈ between, Releases a x) ∧
      ((first.tryConnect a).1 = false → first.isConnected a = true) := by
  intro first second
  constructor
  · intro _ hsecond
    by_contra hnone
    have htaken : (first.tryConnect a).2.isConnected a = true := isConnected_tryConnect.mpr (Or.inl rfl)
    have hheld : second.isConnected a = true :=
      isConnected_accesses htaken (fun x hx hr => hnone ⟨x, hx, hr⟩)
    simp [tryConnect_fst, hheld] at hsecond
  · intro hfirst
    simpa [tryConnect_fst] using hfirst

end ZzP2p.Protocols.NodeRegistry
