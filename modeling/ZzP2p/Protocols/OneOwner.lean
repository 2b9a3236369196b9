import ZzP2p.Protocols.SocketOwner

/-! The runs in which every registry knows one owner for each socket: the node that listens there. -/

namespace ZzP2p.Protocols.SocketOwner

open Rust Lib Lib.Runs NodeRegistry SeedNetwork

variable {sha256 : Bytes → Digest} {config : String → Config} {listening : Listening} {s : Network}
  {reg : NodeRegistry}

lemma Truthful.union {x y : Set (String × SocketAddr)} (hx : Truthful listening x) (hy : Truthful listening y) :
    Truthful listening (x ∪ y) := by
  rintro p (hp | hp)
  · exact hx p hp
  · exact hy p hp

lemma truthful_singleton {a : String} {socket : SocketAddr} (h : listening.owner socket = a) :
    Truthful listening {(a, socket)} := by
  rintro p rfl
  exact h

lemma Truthful.seedsFromRegistry (h : Truthful listening reg.pairs) (now : Clock) :
    TruthfulSeeds listening (some (seedsFromRegistry sha256 now reg)) := by
  rintro cmd hcmd p ⟨seed, hm, hn, hp⟩
  obtain rfl := Option.mem_some_iff.mp hcmd
  obtain ⟨⟨socket, node⟩, hq, rfl⟩ := List.mem_map.mp (SeedsCommand.mem_of_mem_dedup hm)
  rw [parse_display] at hp
  rw [← Option.some.inj hp, listening.canonical, ← hn]
  exact h (node, socket) (mem_getAllSeeds.mp hq)

lemma TruthfulSeeds.verifiedPairs {seeds : Option SeedsCommand} (h : TruthfulSeeds listening seeds) :
    Truthful listening (verifiedPairs sha256 parsedPairs seeds) := by
  rintro p ⟨cmd, hcmd, -, hp⟩
  exact h cmd hcmd p hp

lemma Inv.setTable (h : Inv config listening s) {a : String} {t : PeerTable}
    (ht : Truthful listening t.registry.pairs) : Inv config listening (s.setTable a t) := by
  refine ⟨fun b => ?_, h.conns, h.flight⟩
  by_cases hb : b = a
  · subst hb
    simpa [Network.setTable] using ht
  · simpa [Network.setTable, hb] using h.registry b

lemma Inv.post (h : Inv config listening s) {m : Message} (hm : TruthfulMessage config listening m) :
    Inv config listening (s.post m) := by
  refine ⟨h.registry, h.conns, fun m' hm' => ?_⟩
  rcases List.mem_append.mp hm' with hm' | hm'
  · exact h.flight m' hm'
  · exact List.mem_singleton.mp hm' ▸ hm

lemma Inv.connect (h : Inv config listening s) {c : Conn} (hc : Genuine config listening c) :
    Inv config listening { s with conns := s.conns ++ [c] } := by
  refine ⟨h.registry, fun c' hc' => ?_, h.flight⟩
  rcases List.mem_append.mp hc' with hc' | hc'
  · exact h.conns c' hc'
  · exact List.mem_singleton.mp hc' ▸ hc

lemma Inv.receive (h : Inv config listening s) {m : Message} (hm : TruthfulMessage config listening m)
    (now : Clock) : Inv config listening (SeedNetwork.receive sha256 config s m now) := by
  obtain ⟨c, toDialer, body⟩ := m
  obtain ⟨hc, hm⟩ := hm
  cases body with
  | onLine cmd =>
    obtain ⟨hid, rfl, hport, hseeds⟩ := hm
    have hreg : Truthful listening (handshakeHandler sha256 c.dialer c.source cmd
        (s.table c.acceptor).registry).pairs := by
      rw [pairs_handshakeHandler]
      refine ((h.registry c.acceptor).union (truthful_singleton ?_)).union hseeds.verifiedPairs
      rw [hport]
      exact hc.source
    have hack : TruthfulSeeds listening (some (seedsFromRegistry sha256 now _)) := hreg.seedsFromRegistry now
    have hips : (config c.acceptor).intranetIps.map IpAddr.display ++
        (config c.acceptor).wanIps.map IpAddr.display =
          ((config c.acceptor).intranetIps ++ (config c.acceptor).wanIps).map IpAddr.display :=
      List.map_append.symm
    simp only [SeedNetwork.receive, hid, if_false, onlineHandler]
    apply (h.setTable hreg).post
    exact ⟨hc, rfl, rfl, hips, hack⟩
  | onLineAck ack =>
    obtain ⟨rfl, haddr, hips, hseeds⟩ := hm
    refine h.setTable ?_
    rw [pairs_onlineackHandler, haddr, hips]
    refine (((h.registry c.dialer).union (truthful_singleton hc.target)).union ?_).union hseeds.verifiedPairs
    rintro ⟨a, socket⟩ ⟨ha, text, htext, hseed⟩
    obtain ⟨ip, hip, rfl⟩ := List.mem_map.mp htext
    rw [hc.announced ip hip socket hseed, ha]
  | tick seeds => exact hm.elim
  | seedSyncRequest set => exact hm.elim
  | seedSyncResponse set => exact hm.elim

lemma Inv.online (h : Inv config listening s) {i : ℕ} {sessionId : Bytes} {withSeeds : Bool} {now : Clock} :
    Inv config listening (SeedNetwork.step sha256 config s (.online i sessionId withSeeds now)) := by
  rw [SeedNetwork.step]
  split
  · exact h
  · next hid =>
    rw [Network.send]
    cases hi : s.conns[i]? with
    | none => exact h
    | some c =>
      apply h.post
      refine ⟨h.conns c (List.mem_of_getElem? hi), hid, rfl, rfl, ?_⟩
      cases withSeeds with
      | true => exact (h.registry c.dialer).seedsFromRegistry now
      | false => exact fun cmd hcmd => absurd hcmd (by simp)

lemma Inv.step (h : Inv config listening s) (e : Event) (hok : Honest config listening s e) :
    Inv config listening (step sha256 config s e) := by
  cases e with
  | init a =>
    apply h.setTable
    exact hok
  | cli c =>
    obtain ⟨hc, hown⟩ := hok
    refine Inv.connect (h.setTable ?_) hc
    rw [pairs_register]
    exact (h.registry c.dialer).union (truthful_singleton hown)
  | returnConnect c => exact h.connect hok
  | online i sessionId withSeeds now => exact h.online
  | deliver i now =>
    simp only [SocketOwner.step, SeedNetwork.step]
    cases hi : s.flight[i]? with
    | none => exact h
    | some m =>
      have herase : Inv config listening { s with flight := s.flight.eraseIdx i } :=
        ⟨h.registry, h.conns, fun m' hm' => h.flight m' (List.mem_of_mem_eraseIdx hm')⟩
      exact herase.receive (h.flight m (List.mem_of_getElem? hi)) now

lemma not_ownersAgree_cli {c : Conn} (h : listening.owner c.target ≠ c.dialer) :
    ¬ OwnersAgree listening (step sha256 config s (.cli c)) := by
  intro hagree
  obtain ⟨hone, -, hattr⟩ := hagree c.dialer
  have hhas : ((step sha256 config s (.cli c)).table c.dialer).registry.Has c.dialer c.target := by
    simp only [step, cliConnect, SeedNetwork.step, Network.setTable, Function.update_self]
    exact has_register.mpr (Or.inl ⟨rfl, rfl⟩)
  exact h (hattr c.target ((findNodeForSeed_eq_some_iff hone).mpr hhas))

theorem one_owner_per_socket (sha256 : Bytes → Digest) (config : String → Config) (listening : Listening)
    (run : List Event)
    (hok : Guarded (step sha256 config) (Honest config listening) start run) :
    ∀ s ∈ visited (step sha256 config) start run, OwnersAgree listening s ∧
      ∀ c, listening.owner c.target ≠ c.dialer → ¬ OwnersAgree listening (step sha256 config s (.cli c)) := by
  have hstart : Inv config listening start := by
    refine ⟨fun a p hp => absurd hp not_has_empty, fun c hc => ?_, fun m hm => ?_⟩
    · exact absurd hc List.not_mem_nil
    · exact absurd hm List.not_mem_nil
  intro s hs
  have hinv := guarded_invariant (fun s e h => h.step e) hstart hok s hs
  exact ⟨hinv.ownersAgree, fun c hc => not_ownersAgree_cli hc⟩

def pairListening : Listening where
  owner socket := if socket = .v4 ⟨10, 0, 0, 1⟩ 80 then "a" else "b"
  canonical socket := by cases socket <;> simp [SocketAddr.canonical]

lemma genuine_pairConn : Genuine pairConfig pairListening pairConn :=
  ⟨by decide, by decide, fun ip hip => absurd hip List.not_mem_nil⟩

lemma honest_init (h : String) (hh : h = "a" ∨ h = "b") (s : Network) :
    Honest pairConfig pairListening s (.init h) := by
  rintro ⟨node, socket⟩ hp
  have hmem : (socket, node) ∈ (initRegistry h (pairConfig h)).getAllSeeds := mem_getAllSeeds.mpr hp
  rcases hh with rfl | rfl
  · obtain ⟨rfl, rfl⟩ := Prod.mk.inj (List.mem_singleton.mp hmem)
    decide
  · obtain ⟨rfl, rfl⟩ := Prod.mk.inj (List.mem_singleton.mp hmem)
    decide

def returnRun : List Event :=
  [.init "a", .init "b", .returnConnect pairConn, .online 0 [1] true 0, .deliver 0 0, .deliver 0 0]

theorem one_owner_handshake :
    OwnersAgree pairListening (returnRun.foldl (step Sha256.digest pairConfig) start) ∧
      ¬ OwnersAgree pairListening
        ((returnRun ++ [Event.cli pairConn]).foldl (step Sha256.digest pairConfig) start) := by
  have h := one_owner_per_socket Sha256.digest pairConfig pairListening returnRun
    ⟨honest_init "a" (Or.inl rfl) _, honest_init "b" (Or.inr rfl) _, genuine_pairConn, trivial, trivial,
      trivial, trivial⟩ _ (last_visited _ _)
  rw [List.foldl_append]
  exact ⟨h.1, h.2 pairConn (by decide)⟩

theorem cli_gives_two_owners :
    ¬ ∀ (config : String → Config) (run : List Event) (h : String),
      OneOwner ((run.foldl (step Sha256.digest config) start).table h).registry := by
  intro hone
  have h := hone pairConfig [.init "a", .init "b", .cli pairConn, .online 0 [1] true 0, .deliver 0 0,
    .deliver 0 0] "a"
  set s := [.init "a", .init "b", .cli pairConn, .online 0 [1] true 0, .deliver 0 0].foldl
    (step Sha256.digest pairConfig) start with hs
  obtain ⟨ack, haddr, hflight⟩ : ∃ ack : OnlineAckCommand, ack.address = "b" ∧
      s.flight[0]? = some ⟨pairConn, true, .onLineAck ack⟩ := ⟨_, rfl, rfl⟩
  have hlast : ((step Sha256.digest pairConfig s (.deliver 0 0)).table "a").registry.pairs =
      (onlineackHandler Sha256.digest pairConn.target ack (s.table "a").registry).pairs := by
    simp only [step, SeedNetwork.step, hflight]
    rfl
  have hpairs := hlast.trans pairs_onlineackHandler
  have hself : ("a", pairConn.target) ∈ (s.table "a").registry.pairs := mem_getAllSeeds.mp (by decide)
  have ha : ("a", pairConn.target) ∈
      ((step Sha256.digest pairConfig s (.deliver 0 0)).table "a").registry.pairs := by
    rw [hpairs]
    exact Or.inl (Or.inl (Or.inl hself))
  have hb : ("b", pairConn.target) ∈
      ((step Sha256.digest pairConfig s (.deliver 0 0)).table "a").registry.pairs := by
    rw [hpairs, haddr]
    exact Or.inl (Or.inl (Or.inr rfl))
  exact absurd (h pairConn.target "a" "b" ha hb) (by decide)

end ZzP2p.Protocols.SocketOwner
