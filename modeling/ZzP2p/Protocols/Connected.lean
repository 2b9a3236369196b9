import ZzP2p.Protocols.Online

/-! What the operations of the registry and the handlers of the handshake do to the connected flag. -/

namespace ZzP2p.Protocols

open Rust

namespace NodeRegistry

variable {reg : NodeRegistry} {a b : String}

lemma isConnected_insert (e : NodeEntry) :
    (⟨reg.nodes.insert a e⟩ : NodeRegistry).isConnected b =
      if b = a then e.isConnected else reg.isConnected b := by
  by_cases hb : b = a
  · subst hb
    simp [isConnected]
  · simp [isConnected, AList.lookup_insert_ne hb, hb]

lemma isConnected_of_lookup {e : NodeEntry} (h : reg.nodes.lookup a = some e) :
    reg.isConnected a = e.isConnected := by
  simp [isConnected, h]

lemma isConnected_of_none (h : reg.nodes.lookup a = none) : reg.isConnected a = false := by
  simp [isConnected, h]

@[simp] lemma isConnected_registerWithDirection {s : SocketAddr} {d : ConnectionDirection} :
    (reg.registerWithDirection a s d).isConnected b = reg.isConnected b := by
  rw [registerWithDirection, isConnected_insert]
  split
  · next hb =>
    subst hb
    cases hl : reg.nodes.lookup b with
    | none => exact (isConnected_of_none hl).symm
    | some e => exact (isConnected_of_lookup hl).symm
  · rfl

@[simp] lemma isConnected_register {s : SocketAddr} :
    (reg.register a s).isConnected b = reg.isConnected b :=
  isConnected_registerWithDirection

@[simp] lemma isConnected_addSeed {s : SocketAddr} : (reg.addSeed a s).2.isConnected b = reg.isConnected b := by
  rw [addSeed]
  split
  · exact isConnected_register
  · rfl

@[simp] lemma isConnected_tryConnect :
    (reg.tryConnect a).2.isConnected b = true ↔ b = a ∨ reg.isConnected b = true := by
  rw [tryConnect]
  split
  · next e hl =>
    split
    · next hc =>
      refine ⟨Or.inr, ?_⟩
      rintro (rfl | h)
      · rw [isConnected_of_lookup hl, hc]
      · exact h
    · rw [isConnected_insert]
      split <;> simp [*]
  · rw [isConnected_insert]
    split <;> simp [*]

lemma isConnected_markConnected {connected : Bool} : (reg.markConnected a connected).isConnected b =
    if b = a ∧ reg.isRegistered a = true then connected else reg.isConnected b := by
  rw [markConnected]
  split
  · next e hl =>
    have hr : reg.isRegistered a = true := decide_eq_true (AList.lookup_isSome.mp (by simp [hl]))
    simp only [isConnected_insert, hr, and_true]
  · next hl =>
    have hr : reg.isRegistered a = false := decide_eq_false (AList.lookup_eq_none.mp hl)
    simp [hr]

lemma isConnected_disconnect :
    (reg.disconnect a).isConnected b = true ↔ b ≠ a ∧ reg.isConnected b = true := by
  rw [disconnect, isConnected_markConnected]
  by_cases hb : b = a
  · subst hb
    by_cases hr : reg.isRegistered b = true
    · simp [hr]
    · have hn : reg.nodes.lookup b = none :=
        AList.lookup_eq_none.mpr (of_decide_eq_false (Bool.eq_false_of_not_eq_true hr))
      simp [hr, isConnected_of_none hn]
  · simp [hb]

end NodeRegistry

open NodeRegistry

variable {sha256 : Bytes → Digest} {reg : NodeRegistry} {b : String}

@[simp] lemma isConnected_registerSeed {seed : SeedRecord} :
    (registerSeed reg seed).isConnected b = reg.isConnected b := by
  rw [registerSeed]
  cases SocketAddr.parse seed.address with
  | none => rfl
  | some addr => exact isConnected_register

lemma isConnected_foldl {α : Type*} {f : NodeRegistry → α → NodeRegistry}
    (hf : ∀ reg x, (f reg x).isConnected b = reg.isConnected b) (l : List α) (reg : NodeRegistry) :
    (l.foldl f reg).isConnected b = reg.isConnected b := by
  induction l generalizing reg with
  | nil => rfl
  | cons x l ih => rw [List.foldl_cons, ih, hf]

lemma isConnected_registerSeeds {seeds : List SeedRecord} :
    (registerSeeds reg seeds).isConnected b = reg.isConnected b :=
  isConnected_foldl (fun _ _ => isConnected_registerSeed) seeds reg

lemma isConnected_handshakeMerge {cmd : SeedsCommand} :
    (handshakeMerge sha256 reg cmd).isConnected b = reg.isConnected b := by
  rw [handshakeMerge]
  split
  · exact isConnected_registerSeeds
  · rfl

lemma isConnected_gossipSeed {localAddr : String} {s : NodeRegistry × List Dial} {seed : SeedRecord} :
    (gossipSeed localAddr s seed).1.isConnected b = s.1.isConnected b := by
  rw [gossipSeed_fst]
  split
  · rfl
  · exact isConnected_registerSeed

lemma isConnected_gossipMerge {localAddr : String} {cmd : SeedsCommand} :
    (gossipMerge sha256 localAddr reg cmd).1.isConnected b = reg.isConnected b := by
  have hfold : ∀ (seeds : List SeedRecord) (s : NodeRegistry × List Dial),
      (seeds.foldl (gossipSeed localAddr) s).1.isConnected b = s.1.isConnected b := by
    intro seeds
    induction seeds with
    | nil => exact fun s => rfl
    | cons seed seeds ih => exact fun s => (ih _).trans isConnected_gossipSeed
  rw [gossipMerge]
  split
  · exact hfold _ _
  · rfl

lemma isConnected_onlineackHandler {peer : SocketAddr} {ack : OnlineAckCommand} :
    (onlineackHandler sha256 peer ack reg).isConnected b = true ↔
      b = ack.address ∨ reg.isConnected b = true := by
  have hstore : ∀ reg ip, (storeAnnounced ack.address peer reg ip).isConnected b = reg.isConnected b := by
    intro reg ip
    rw [storeAnnounced]
    cases announcedSeed peer ip with
    | none => rfl
    | some seed => exact isConnected_addSeed
  simp only [onlineackHandler]
  split
  · rw [ackMerge_eq, isConnected_handshakeMerge, isConnected_foldl hstore, isConnected_registerWithDirection,
      isConnected_tryConnect]
  · rw [isConnected_foldl hstore, isConnected_registerWithDirection, isConnected_tryConnect]

lemma isConnected_handshakeHandler {sender : String} {peer : SocketAddr} {cmd : OnlineCommand} :
    (handshakeHandler sha256 sender peer cmd reg).isConnected b = true ↔
      b = sender ∨ reg.isConnected b = true := by
  simp only [handshakeHandler]
  split
  · rw [isConnected_handshakeMerge, isConnected_registerWithDirection, isConnected_tryConnect]
  · rw [isConnected_registerWithDirection, isConnected_tryConnect]

lemma isConnected_gossipHandler {localAddr sender : String} {peer : SocketAddr} {cmd : OnlineCommand} :
    (gossipHandler sha256 localAddr sender peer cmd reg).isConnected b = reg.isConnected b := by
  simp only [gossipHandler]
  split
  · rw [isConnected_gossipMerge, isConnected_register]
  · rw [isConnected_register]

end ZzP2p.Protocols
