import ZzP2p.Lib.Runs
import ZzP2p.Lib.Sha256
import ZzP2p.Protocols.Connected

/-! The connected flag of the registry beside the connections that are really open. Every inbound
handshake that is answered gets a monitor, which clears the flag of the whole node once it no longer
finds its own socket. -/

namespace ZzP2p.Protocols

open Rust Lib NodeRegistry

namespace ConnectedFlag

structure Conn where
  id : ℕ
  node : String
  peer : SocketAddr
deriving DecidableEq

structure State where
  registry : NodeRegistry
  live : List Conn
  monitors : List Conn
  next : ℕ

/-- An inbound handshake that fails before its answer is sent opens a connection without a monitor. -/
inductive Event
  | onLine (sender : String) (peer : SocketAddr) (cmd : OnlineCommand) (answered : Bool)
  | onLineAck (peer : SocketAddr) (ack : OnlineAckCommand)
  | dialed (node : String)
  | register (node : String) (seed : SocketAddr)
  | close (id : ℕ)
  | monitor (id : ℕ)

def State.liveOn (s : State) (node : String) : Prop := ∃ c ∈ s.live, c.node = node

def State.pending (s : State) (node : String) : Prop := ∃ m ∈ s.monitors, m ∉ s.live ∧ m.node = node

def State.opened (s : State) (reg : NodeRegistry) (node : String) (peer : SocketAddr) (monitored : Bool) :
    State :=
  let c : Conn := ⟨s.next, node, peer⟩
  ⟨reg, s.live ++ [c], if monitored then s.monitors ++ [c] else s.monitors, s.next + 1⟩

def stale (s : State) (m : Conn) : Bool := m.peer ∉ s.live.map Conn.peer

def runMonitor (s : State) (m : Conn) : State :=
  if stale s m then { s with registry := s.registry.disconnect m.node, monitors := s.monitors.erase m } else s

variable (sha256 : Bytes → Digest) (localAddr : String)

def step (s : State) : Event → State
  | .onLine sender peer cmd answered =>
    let reg := onlineHandler sha256 localAddr sender peer cmd s.registry
    if cmd.sessionId = [] then { s with registry := reg } else s.opened reg sender peer answered
  | .onLineAck peer ack => s.opened (onlineackHandler sha256 peer ack s.registry) ack.address peer false
  | .dialed node => { s with registry := s.registry.markConnected node true }
  | .register node seed => { s with registry := s.registry.register node seed }
  | .close id => { s with live := s.live.filter (fun c => c.id ≠ id) }
  | .monitor id => (s.monitors.find? (fun m => m.id = id)).elim s (runMonitor s)

def start : State := ⟨.empty, [], [], 0⟩

def Settled (s : State) : Prop := ∀ m ∈ s.monitors, m ∈ s.live

def FlagAgrees (s : State) : Prop :=
  Settled s → ∀ a, s.registry.isConnected a = true ↔ s.liveOn a

def Orderly (s : State) : Event → Prop
  | .dialed node => s.registry.isRegistered node = true → s.liveOn node ∨ s.pending node
  | .close id => ∀ c ∈ s.live, c.id = id → c ∈ s.monitors ∨
      (∃ c' ∈ s.live, c'.id ≠ id ∧ c'.node = c.node) ∨ s.pending c.node
  | .monitor id => ∀ m ∈ s.monitors, m.id = id → stale s m = true → ¬ s.liveOn m.node
  | _ => True

def Agrees (s : State) : Prop :=
  ∀ a, (s.liveOn a → s.registry.isConnected a = true) ∧
    (s.registry.isConnected a = true → s.liveOn a ∨ s.pending a)

variable {sha256 localAddr} {s : State}

lemma Agrees.flagAgrees (h : Agrees s) : FlagAgrees s := by
  intro hs a
  refine ⟨fun ha => ?_, (h a).1⟩
  rcases (h a).2 ha with hl | ⟨m, hm, hn, -⟩
  · exact hl
  · exact absurd (hs m hm) hn

lemma Agrees.of_flags (h : Agrees s) {reg : NodeRegistry}
    (hreg : ∀ a, reg.isConnected a = s.registry.isConnected a) : Agrees { s with registry := reg } := by
  intro a
  rw [hreg]
  exact h a

lemma Agrees.opened (h : Agrees s) {reg : NodeRegistry} {node : String} {peer : SocketAddr}
    {monitored : Bool} (hreg : ∀ a, reg.isConnected a = true ↔ a = node ∨ s.registry.isConnected a = true) :
    Agrees (s.opened reg node peer monitored) := by
  have hlive : ∀ a, (s.opened reg node peer monitored).liveOn a ↔ s.liveOn a ∨ node = a := by
    intro a
    simp [State.liveOn, State.opened, or_and_right, exists_or]
  have hpending : ∀ a, a ≠ node → s.pending a → (s.opened reg node peer monitored).pending a := by
    rintro a ha ⟨m, hm, hn, rfl⟩
    refine ⟨m, ?_, ?_, rfl⟩
    · simp only [State.opened]
      split
      · exact List.mem_append_left _ hm
      · exact hm
    · simp only [State.opened, List.mem_append, List.mem_singleton, not_or]
      exact ⟨hn, fun he => ha (by rw [he])⟩
  intro a
  rw [hlive]
  have hflag : (s.opened reg node peer monitored).registry.isConnected a = true ↔ _ := hreg a
  rw [hflag]
  constructor
  · rintro (hl | rfl)
    · exact Or.inr ((h a).1 hl)
    · exact Or.inl rfl
  · intro hf
    by_cases ha : a = node
    · exact Or.inl (Or.inr ha.symm)
    · rcases (h a).2 (hf.resolve_left ha) with hl | hp
      · exact Or.inl (Or.inl hl)
      · exact Or.inr (hpending a ha hp)

lemma Agrees.dialed (h : Agrees s) {node : String} (hok : Orderly s (.dialed node)) :
    Agrees (step sha256 localAddr s (.dialed node)) := by
  intro a
  have hflag : (step sha256 localAddr s (.dialed node)).registry.isConnected a = _ :=
    isConnected_markConnected
  rw [hflag]
  split
  · next ha =>
    obtain ⟨rfl, hr⟩ := ha
    exact ⟨fun _ => rfl, fun _ => hok hr⟩
  · exact h a

lemma Agrees.close (h : Agrees s) {id : ℕ} (hok : Orderly s (.close id)) :
    Agrees (step sha256 localAddr s (.close id)) := by
  have hmem : ∀ c, c ∈ (step sha256 localAddr s (.close id)).live ↔ c ∈ s.live ∧ c.id ≠ id := by
    intro c
    simp [step]
  have hpending : ∀ a, s.pending a → (step sha256 localAddr s (.close id)).pending a := by
    rintro a ⟨m, hm, hn, rfl⟩
    exact ⟨m, hm, fun hl => hn ((hmem m).mp hl).1, rfl⟩
  intro a
  constructor
  · rintro ⟨c, hc, rfl⟩
    exact (h c.node).1 ⟨c, ((hmem c).mp hc).1, rfl⟩
  · intro hf
    rcases (h a).2 hf with ⟨c, hc, rfl⟩ | hp
    · by_cases hid : c.id = id
      · rcases hok c hc hid with hm | ⟨c', hc', hid', hn⟩ | hp
        · exact Or.inr ⟨c, hm, fun hl => ((hmem c).mp hl).2 hid, rfl⟩
        · exact Or.inl ⟨c', (hmem c').mpr ⟨hc', hid'⟩, hn⟩
        · exact Or.inr (hpending _ hp)
      · exact Or.inl ⟨c, (hmem c).mpr ⟨hc, hid⟩, rfl⟩
    · exact Or.inr (hpending a hp)

lemma Agrees.runMonitor (h : Agrees s) {m : Conn} (hok : stale s m = true → ¬ s.liveOn m.node) :
    Agrees (runMonitor s m) := by
  rw [ConnectedFlag.runMonitor]
  split
  · next hst =>
    intro a
    rw [isConnected_disconnect]
    constructor
    · intro hl
      refine ⟨?_, (h a).1 hl⟩
      rintro rfl
      exact hok hst hl
    · rintro ⟨ha, hf⟩
      rcases (h a).2 hf with hl | ⟨m', hm', hn, rfl⟩
      · exact Or.inl hl
      · refine Or.inr ⟨m', (List.mem_erase_of_ne ?_).mpr hm', hn, rfl⟩
        rintro rfl
        exact ha rfl
  · exact h

lemma Agrees.step (h : Agrees s) (e : Event) (hok : Orderly s e) : Agrees (step sha256 localAddr s e) := by
  cases e with
  | onLine sender peer cmd answered =>
    simp only [ConnectedFlag.step, onlineHandler]
    split
    · exact h.of_flags (fun a => isConnected_gossipHandler)
    · exact h.opened (fun a => isConnected_handshakeHandler)
  | onLineAck peer ack => exact h.opened (fun a => isConnected_onlineackHandler)
  | dialed node => exact h.dialed hok
  | register node seed => exact h.of_flags (fun a => isConnected_register)
  | close id => exact h.close hok
  | monitor id =>
    simp only [ConnectedFlag.step]
    cases hm : s.monitors.find? (fun m => m.id = id) with
    | none => exact h
    | some m =>
      have hid : m.id = id := by simpa using List.find?_some hm
      exact h.runMonitor (hok m (List.mem_of_find?_eq_some hm) hid)

theorem connected_flag_agrees (sha256 : Bytes → Digest) (localAddr : String) (events : List Event)
    (hok : Runs.Guarded (step sha256 localAddr) Orderly start events) :
    ∀ s ∈ Runs.visited (step sha256 localAddr) start events, FlagAgrees s := by
  have hstart : Agrees start := by
    intro a
    refine ⟨?_, ?_⟩
    · rintro ⟨c, hc, -⟩
      exact absurd hc List.not_mem_nil
    · intro hf
      simp [start, isConnected, empty] at hf
  intro s hs
  exact (Runs.guarded_invariant (fun s e h hok => h.step e hok) hstart hok s hs).flagAgrees

def peerSocket : SocketAddr := .v4 ⟨1, 2, 3, 4⟩ 80

def handshake : Event := .onLine "n" (.v4 ⟨1, 2, 3, 4⟩ 50000) ⟨[1], 80, none⟩ true

def outboundAck : Event := .onLineAck peerSocket ⟨"n", [], [], none⟩

theorem connected_flag_cleared :
    (([handshake, .close 0, .monitor 0].foldl (step Sha256.digest "l") start).registry.isConnected "n" = false) ∧
      FlagAgrees ([handshake, .close 0, .monitor 0].foldl (step Sha256.digest "l") start) := by
  refine ⟨by decide, connected_flag_agrees Sha256.digest "l" [handshake, .close 0, .monitor 0] ?_ _
    (Runs.last_visited _ _)⟩
  refine ⟨trivial, ?_, ?_, trivial⟩
  · intro c hc _
    exact Or.inl hc
  · rintro m - - - ⟨c, hc, -⟩
    exact List.not_mem_nil hc

theorem connected_flag_lost :
    ¬ ∀ events, ∀ s ∈ Runs.visited (step Sha256.digest "l") start events, FlagAgrees s := by
  intro h
  have hbad := h [outboundAck, handshake, .close 1, .monitor 1] _ (Runs.last_visited _ _)
    (fun m hm => absurd hm List.not_mem_nil) "n"
  have hflag := hbad.mpr ⟨⟨0, "n", peerSocket⟩, by decide, rfl⟩
  exact absurd hflag (by decide)

end ConnectedFlag

end ZzP2p.Protocols
