import ZzP2p.Protocols.SeedNetwork

/-! Which runs of the network keep every stored seed dialable. -/

namespace ZzP2p.Protocols.SeedNetwork

open Rust Lib Lib.Runs NodeRegistry

variable {sha256 : Bytes → Digest} {config : String → Config} {s : Network}

def OptSeedsDialable (seeds : Option SeedsCommand) : Prop :=
  ∀ cmd, seeds = some cmd → SeedsDialable cmd.seeds

def Message.Honest (m : Message) : Prop :=
  match m.body with
  | .onLine cmd => (cmd.sessionId = [] → cmd.port = 0) ∧
      (cmd.sessionId ≠ [] → cmd.port ≠ 0 ∧ m.toDialer = false) ∧ OptSeedsDialable cmd.seeds
  | .onLineAck ack => m.toDialer = true ∧ TextsDialable (ack.intranetIps ++ ack.wanIps) ∧
      OptSeedsDialable ack.seeds
  | .tick seeds => OptSeedsDialable seeds
  | .seedSyncRequest set => InfosDialable set.seeds
  | .seedSyncResponse set => InfosDialable set.seeds

def AllHonest (s : Network) : Prop := ∀ m ∈ s.flight, m.Honest

lemma AllHonest.post (h : AllHonest s) {m : Message} (hm : m.Honest) : AllHonest (s.post m) := by
  intro m' hm'
  rcases List.mem_append.mp hm' with hm' | hm'
  · exact h m' hm'
  · exact List.mem_singleton.mp hm' ▸ hm

lemma AllHonest.send (h : AllHonest s) {i : ℕ} {toDialer : Bool} {body : String → Body}
    (hb : ∀ c h, Message.Honest ⟨c, toDialer, body h⟩) : AllHonest (s.send i toDialer body) := by
  rw [Network.send]
  split
  · exact h.post (hb _ _)
  · exact h

lemma AllHonest.eraseIdx (h : AllHonest s) (i : ℕ) :
    AllHonest { s with flight := s.flight.eraseIdx i } :=
  fun m hm => h m (List.mem_of_mem_eraseIdx hm)

lemma send_table (i : ℕ) (toDialer : Bool) (body : String → Body) :
    (s.send i toDialer body).table = s.table := by
  rw [Network.send]
  split <;> rfl

lemma dialable_setTable_iff (h : SeedsAlwaysDialable s) (a : String) (t : PeerTable) :
    SeedsAlwaysDialable (s.setTable a t) ↔ AllDialable t.registry := by
  refine ⟨fun h' => by simpa [Network.setTable] using h' a, fun ht b => ?_⟩
  by_cases hb : b = a
  · simpa [Network.setTable, hb] using ht
  · simpa [Network.setTable, hb] using h b

lemma not_unspecified_of_loopback {ip : IpAddr} (h : ip.isLoopback = true) :
    ip.isUnspecified = false := by
  cases ip with
  | v4 ip =>
    have ha : ip.a = 127 := of_decide_eq_true h
    apply decide_eq_false
    rintro rfl
    exact absurd ha (by decide)
  | v6 ip =>
    have hs : ip.segments = [0, 0, 0, 0, 0, 0, 0, 1] := of_decide_eq_true h
    apply decide_eq_false
    rw [hs]
    decide

lemma allDialable_registerIps {a : String} {c : Config} {ips : List IpAddr} {reg : NodeRegistry}
    (hips : ∀ ip ∈ ips, ip.isUnspecified = false) :
    AllDialable (ips.foldl (fun reg ip => if ip = c.bind.ip ∨ ip.isLoopback then reg
      else reg.register a (SocketAddr.new ip c.bind.port)) reg) ↔ AllDialable reg := by
  induction ips generalizing reg with
  | nil => exact Iff.rfl
  | cons ip ips ih =>
    rw [List.foldl_cons, ih (fun i hi => hips i (List.mem_cons_of_mem ip hi))]
    split
    · exact Iff.rfl
    · have hd : Dialable (SocketAddr.new ip c.bind.port) :=
        ⟨by simpa using c.port_ne, by simpa using hips ip List.mem_cons_self⟩
      simp [allDialable_register, hd]

lemma allDialable_initRegistry_iff (a : String) (c : Config) :
    AllDialable (initRegistry a c) ↔ c.bind.ip.isUnspecified = false := by
  rw [initRegistry, allDialable_registerIps c.ips_specified]
  cases hl : c.bind.ip.isLoopback with
  | true =>
    rw [if_pos rfl]
    exact iff_of_true allDialable_empty (not_unspecified_of_loopback hl)
  | false =>
    rw [if_neg Bool.false_ne_true, allDialable_register]
    simp [allDialable_empty, Dialable, c.port_ne]

lemma optSeedsDialable_registry {reg : NodeRegistry} (h : AllDialable reg) (now : Clock) :
    OptSeedsDialable (some (seedsFromRegistry sha256 now reg)) := by
  intro cmd he
  obtain rfl := Option.some.inj he
  exact seedsDialable_of_registry h now

lemma ackOf_honest {c : Conn} {h : String} {now : Clock} {reg : NodeRegistry}
    (hr : AllDialable reg) :
    Message.Honest ⟨c, true, .onLineAck (ackOf sha256 config h now reg)⟩ := by
  refine ⟨rfl, ?_, optSeedsDialable_registry hr now⟩
  have ht := textsDialable_display (config h).ips_specified
  rwa [List.map_append] at ht

lemma takeSeedSet_dialable {t : PeerTable} {set : SeedSet} (h : AllDialable t.registry)
    (hs : InfosDialable set.seeds) : AllDialable (takeSeedSet sha256 t set).registry :=
  h.registerInfos hs

lemma receive_dialable_iff (h : SeedsAlwaysDialable s) {m : Message} (hm : m.Honest) (now : Clock) :
    SeedsAlwaysDialable (receive sha256 config s m now) ↔
      match m.body with
      | .onLine cmd => cmd.sessionId ≠ []
      | .onLineAck _ => m.conn.target.ip.isUnspecified = false
      | _ => True := by
  obtain ⟨c, toDialer, body⟩ := m
  cases body with
  | onLine cmd =>
    obtain ⟨hgossip, hshake, hs⟩ := hm
    by_cases hid : cmd.sessionId = []
    · simp only [receive, hid, if_true, dialable_setTable_iff h, onlineHandler]
      exact iff_of_false (not_allDialable_gossipHandler (hgossip hid)) (by simp)
    · obtain ⟨hport, rfl⟩ := hshake hid
      have hreg : AllDialable (handshakeHandler sha256 c.dialer c.source cmd
          (s.table c.acceptor).registry) :=
        allDialable_handshakeHandler (h c.acceptor) c.source_specified hport hs
      simp only [receive, hid, if_false, onlineHandler]
      exact iff_of_true ((dialable_setTable_iff h _ _).mpr hreg) hid
  | onLineAck ack =>
    obtain ⟨rfl, ht, hs⟩ := hm
    simp only [receive, dialable_setTable_iff h]
    exact allDialable_onlineackHandler_iff (h c.dialer) c.target_port ht hs
  | tick seeds =>
    refine iff_of_true ?_ trivial
    simp only [receive, dialable_setTable_iff h]
    cases seeds with
    | none => exact h _
    | some cmd => exact (h _).tickMerge (hm cmd rfl)
  | seedSyncRequest set =>
    exact iff_of_true ((dialable_setTable_iff h _ _).mpr (takeSeedSet_dialable (h _) hm)) trivial
  | seedSyncResponse set =>
    exact iff_of_true ((dialable_setTable_iff h _ _).mpr (takeSeedSet_dialable (h _) hm)) trivial

lemma receive_honest (h : SeedsAlwaysDialable s) (ha : AllHonest s) {m : Message} (hm : m.Honest)
    (now : Clock) : AllHonest (receive sha256 config s m now) := by
  obtain ⟨c, toDialer, body⟩ := m
  cases body with
  | onLine cmd =>
    obtain ⟨-, hshake, hs⟩ := hm
    simp only [receive]
    split
    · exact ha
    · next hid =>
      obtain ⟨hport, rfl⟩ := hshake hid
      have hreg : AllDialable (handshakeHandler sha256 c.dialer c.source cmd
          (s.table c.acceptor).registry) :=
        allDialable_handshakeHandler (h c.acceptor) c.source_specified hport hs
      apply AllHonest.post (fun m' hm' => ha m' hm')
      apply ackOf_honest
      rw [onlineHandler, if_neg hid]
      exact hreg
  | seedSyncRequest set =>
    apply AllHonest.post (fun m' hm' => ha m' hm')
    exact (infosDialable_of_registry (takeSeedSet_dialable (h _) hm)).filterLoopback
  | onLineAck ack => exact ha
  | tick seeds => exact ha
  | seedSyncResponse set => exact ha

lemma step_dialable_iff (h : SeedsAlwaysDialable s) (ha : AllHonest s) (e : Event) :
    SeedsAlwaysDialable (step sha256 config s e) ↔ Proper config s e := by
  cases e with
  | init a =>
    rw [step, dialable_setTable_iff h]
    exact allDialable_initRegistry_iff a (config a)
  | connect c => exact iff_of_true h trivial
  | online i sessionId withSeeds now =>
    refine iff_of_true ?_ trivial
    rw [step]
    split
    · exact h
    · rwa [SeedsAlwaysDialable, send_table]
  | broadcastSeeds i toDialer now =>
    refine iff_of_true ?_ trivial
    rwa [step, SeedsAlwaysDialable, send_table]
  | tick i toDialer now =>
    refine iff_of_true ?_ trivial
    rwa [step, SeedsAlwaysDialable, send_table]
  | seedSync i toDialer =>
    refine iff_of_true ?_ trivial
    rwa [step, SeedsAlwaysDialable, send_table]
  | deliver i now =>
    simp only [step, Proper]
    cases hi : s.flight[i]? with
    | none => exact iff_of_true h trivial
    | some m =>
      have herase : SeedsAlwaysDialable { s with flight := s.flight.eraseIdx i } := h
      rw [receive_dialable_iff herase (ha m (List.mem_of_getElem? hi))]
      obtain ⟨c, toDialer, body⟩ := m
      cases body <;> rfl

lemma tickSeeds_dialable {reg : NodeRegistry} (h : AllDialable reg) (now : Clock) :
    OptSeedsDialable (tickSeeds sha256 now reg) := by
  rw [tickSeeds]
  split
  · intro cmd he
    cases he
  · exact optSeedsDialable_registry h now

lemma step_honest (h : SeedsAlwaysDialable s) (ha : AllHonest s) (e : Event) :
    AllHonest (step sha256 config s e) := by
  cases e with
  | init a => exact ha
  | connect c => exact ha
  | online i sessionId withSeeds now =>
    rw [step]
    split
    · exact ha
    · next hid =>
      refine ha.send (fun c a => ⟨fun he => absurd he hid, fun _ => ⟨(config a).port_ne, rfl⟩, ?_⟩)
      cases withSeeds with
      | true => exact optSeedsDialable_registry (h a) now
      | false =>
        intro cmd he
        cases he
  | broadcastSeeds i toDialer now =>
    refine ha.send (fun c a => ⟨fun _ => rfl, fun he => absurd rfl he, ?_⟩)
    exact optSeedsDialable_registry (h a) now
  | tick i toDialer now => exact ha.send (fun c a => tickSeeds_dialable (h a) now)
  | seedSync i toDialer => exact ha.send (fun c a => infosDialable_of_registry (h a))
  | deliver i now =>
    rw [step]
    cases hi : s.flight[i]? with
    | none => exact ha
    | some m =>
      have herase : SeedsAlwaysDialable { s with flight := s.flight.eraseIdx i } := h
      exact receive_honest herase (ha.eraseIdx i) (ha m (List.mem_of_getElem? hi)) now

theorem seeds_dialable_iff (sha256 : Bytes → Digest) (config : String → Config) (run : List Event) :
    (∀ s ∈ visited (step sha256 config) start run, SeedsAlwaysDialable s) ↔
      Guarded (step sha256 config) (Proper config) start run := by
  apply guarded_iff (I := AllHonest)
  · exact fun s e ha h => step_dialable_iff h ha e
  · exact fun s e ha h _ => step_honest h ha e
  · intro m hm
    simp [start] at hm
  · exact fun _ => allDialable_empty

def lanConfig (bind : SocketAddr) (h : bind.port ≠ 0) : Config where
  bind := bind
  intranetIps := [.v4 ⟨192, 168, 0, 2⟩]
  wanIps := []
  cliSeeds := []
  port_ne := h
  ips_specified := by decide

theorem default_bind_not_dialable :
    ¬ ∀ (sha256 : Bytes → Digest) (config : String → Config) (run : List Event),
      SeedsAlwaysDialable (run.foldl (step sha256 config) start) := by
  intro h
  have hd := h Sha256.digest (fun _ => lanConfig (.v4 ⟨0, 0, 0, 0⟩ 9000) (by decide)) [.init "a"] "a"
  have hb := (allDialable_initRegistry_iff "a" _).mp hd
  exact absurd hb (by decide)

end ZzP2p.Protocols.SeedNetwork
