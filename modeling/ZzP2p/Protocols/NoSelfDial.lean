import ZzP2p.Protocols.SelfDial

/-! The runs in which no node dials itself. No address of a peer is a socket of the node that keeps it. -/

namespace ZzP2p.Protocols.SelfDial

open Rust Lib Lib.Runs NodeRegistry SeedNetwork

variable {sha256 : Bytes → Digest} {config : String → Config} {s : Network} {m : Message}

lemma PeersForeign.receive (h : PeersForeign s) {now : Clock} (hsafe : SafePeers sha256 (s.table m.dest) m) :
    PeersForeign (SeedNetwork.receive sha256 config s m now) := by
  intro a socket hs
  by_cases ha : a = m.dest
  · subst ha
    rw [own_receive, not_not]
    rcases peerAddrs_receive hsafe hs with hs | hf
    · exact ⟨h _ socket hs, hsafe.1 socket hs⟩
    · exact hf
  · rw [table_receive_of_ne ha] at hs
    rw [Own, table_receive_of_ne ha]
    exact h a socket hs

lemma PeersForeign.send (h : PeersForeign s) {i : ℕ} {toDialer : Bool} {body : String → Body} :
    PeersForeign (s.send i toDialer body) := by
  rw [Network.send]
  cases s.conns[i]? with
  | none => exact h
  | some c => exact fun a => h a

lemma PeersForeign.step (h : PeersForeign s) (e : Event) (hsafe : Safe sha256 config s e) :
    PeersForeign (step sha256 config s e) := by
  cases e with
  | round a existing => exact h
  | net e servers =>
    cases e with
    | init a =>
      intro b socket hs
      by_cases hb : b = a
      · subst hb
        simp only [SelfDial.step, SeedNetwork.step, Network.setTable, Own, Function.update_self] at hs ⊢
        exact hsafe socket hs
      · simp only [SelfDial.step, SeedNetwork.step, Network.setTable, Own, Function.update_of_ne hb] at hs ⊢
        exact h b socket hs
    | connect c => exact fun a => h a
    | online i sessionId withSeeds now =>
      simp only [SelfDial.step, SeedNetwork.step]
      split
      · exact h
      · exact h.send
    | broadcastSeeds i toDialer now => exact h.send
    | tick i toDialer now => exact h.send
    | seedSync i toDialer => exact h.send
    | deliver i now =>
      simp only [SelfDial.step, SeedNetwork.step]
      cases hi : s.flight[i]? with
      | none => exact h
      | some m =>
        have herase : PeersForeign { s with flight := s.flight.eraseIdx i } := fun a => h a
        exact herase.receive (hsafe m hi).2

lemma PeersForeign.noSelfDial (h : PeersForeign s) (e : Event) (hsafe : Safe sha256 config s e) :
    NoSelfDial sha256 config s e := by
  intro a ha
  cases e with
  | round b existing =>
    obtain ⟨socket, hs, rfl⟩ := List.mem_map.mp ha
    exact ⟨by simp, h b socket (List.mem_filter.mp hs).1⟩
  | net e servers =>
    cases e with
    | deliver i now =>
      simp only [attempts] at ha
      cases hi : s.flight[i]? with
      | none =>
        rw [hi] at ha
        exact absurd ha List.not_mem_nil
      | some m =>
        rw [hi] at ha
        obtain ⟨d, hd, rfl⟩ := List.mem_map.mp ha
        obtain ⟨hne, hf⟩ := dials_foreign (hsafe m hi).1 hd
        refine ⟨fun he => hne (Option.some.inj he), ?_⟩
        simp only [SelfDial.step, SeedNetwork.step, hi]
        exact fun hown => own_receive.mp hown hf
    | _ => exact absurd ha List.not_mem_nil

theorem no_self_dial (sha256 : Bytes → Digest) (config : String → Config) (run : List Event)
    (hsafe : Guarded (step sha256 config) (Safe sha256 config) start run) :
    Guarded (step sha256 config) (NoSelfDial sha256 config) start run := by
  refine guarded_of_invariant (I := PeersForeign) (fun s e h => h.step e) (fun s e h => h.noSelfDial e) ?_ hsafe
  intro a socket hs
  exact absurd hs List.not_mem_nil

def handshakeRun : List Event :=
  [.net (.init "a") [], .net (.init "b") [], .net (.connect pairConn) [], .net (.online 0 [1] false 0) [],
    .net (.deliver 0 0) []]

theorem no_self_dial_handshake :
    Guarded (step Sha256.digest pairConfig) (NoSelfDial Sha256.digest pairConfig) start handshakeRun := by
  apply no_self_dial
  refine ⟨?_, ?_, trivial, trivial, ?_, trivial⟩
  · exact fun socket hs => absurd hs List.not_mem_nil
  · exact fun socket hs => absurd hs List.not_mem_nil
  · intro m hm
    obtain rfl : (⟨pairConn, false, .onLine ⟨[1], 80, none⟩⟩ : Message) = m := Option.some.inj hm
    refine ⟨fun _ _ => ⟨by decide, ?_, ?_⟩, fun socket hs => absurd hs List.not_mem_nil, trivial⟩
    · exact fun hown => absurd (mem_getAllSeeds.mpr hown) (by decide)
    · rintro (hown | ⟨cmd, hcmd, -⟩)
      · exact absurd (congrArg Prod.fst hown) (by decide)
      · cases hcmd

def seededConfig (h : String) : Config :=
  if h = "a" then { hostConfig 1 with cliSeeds := [.v4 ⟨10, 0, 0, 2⟩ 80] } else hostConfig 2

/-- The request goes to the seed of the command line, whose answer is taken in. -/
def syncRun : List Event :=
  handshakeRun ++ [.net (.seedSync 0 false) [], .net (.deliver 1 0) [], .net (.deliver 1 0) []]

def synchronised : Network := syncRun.foldl (step Sha256.digest seededConfig) start

lemma own_synchronised : Own synchronised "a" (.v4 ⟨10, 0, 0, 1⟩ 80) := by
  rw [Own, ← mem_getAllSeeds]
  decide

lemma peer_synchronised : .v4 ⟨10, 0, 0, 1⟩ 80 ∈ (synchronised.table "a").peerAddrs := by
  decide

theorem seed_sync_dials_self :
    ¬ ∀ (config : String → Config) (run : List Event),
      Guarded (step Sha256.digest config) (NoSelfDial Sha256.digest config) start run := by
  intro h
  have hrun := h seededConfig (syncRun ++ [.round "a" [.v4 ⟨10, 0, 0, 2⟩ 80]])
  obtain ⟨-, -, -, -, -, -, -, -, hlast, -⟩ := hrun
  have hdial : .v4 ⟨10, 0, 0, 1⟩ 80 ∈ syncDials [.v4 ⟨10, 0, 0, 2⟩ 80] (synchronised.table "a").peerAddrs :=
    List.mem_filter.mpr ⟨peer_synchronised, by decide⟩
  exact (hlast _ (List.mem_map_of_mem hdial)).2 own_synchronised

end ZzP2p.Protocols.SelfDial
