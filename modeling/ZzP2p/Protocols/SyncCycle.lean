import ZzP2p.Lib.Sha256
import ZzP2p.Protocols.SeedSync

/-! The cycle of seed synchronisation: rounds with all peers until the hash of the registry stays the
same. What the peers and other tasks do to the registry during a round is left open, so that a round
is given by the registries the code finds in it. -/

namespace ZzP2p.Protocols.SyncCycle

open Rust Lib

def STABLE_ROUNDS_REQUIRED : ℕ := 2

/-- The registry is missing where the context holds no node. `last` is the registry that is read after
the comparison, for the result or for the log. -/
structure Round where
  inTime : Bool
  before : Option NodeRegistry
  after : Option NodeRegistry
  last : Option NodeRegistry

structure Progress where
  stableRounds : ℕ
  prevHash : Option Digest

inductive Exit
  | noPeers
  | nodeMissing
  | converged (round : ℕ)
  | timeout (rounds : ℕ)
deriving DecidableEq

structure Outcome where
  exit : Exit
  result : Except String SeedSet

def nodeMissing : Outcome := ⟨.nodeMissing, .error "Node not registered in GlobalContext"⟩

variable (sha256 : Bytes → Digest)

def seedSetOf (node : Option NodeRegistry) : SeedSet :=
  node.elim (SeedSet.new sha256 []) (deriveSeedSetFromRegistry sha256)

def playRound (p : Progress) (round : ℕ) (r : Round) : Except Outcome Progress :=
  match r.before, r.after with
  | some _, some reg =>
    let currentHash := (deriveSeedSetFromRegistry sha256 reg).hash
    if p.prevHash = some currentHash then
      let stableRounds := p.stableRounds + 1
      if STABLE_ROUNDS_REQUIRED ≤ stableRounds then
        match r.last with
        | some reg => .error ⟨.converged round, .ok (deriveSeedSetFromRegistry sha256 reg)⟩
        | none => .error nodeMissing
      else .ok ⟨stableRounds, p.prevHash⟩
    else
      match r.last with
      | some _ => .ok ⟨0, some currentHash⟩
      | none => .error nodeMissing
  | _, _ => .error nodeMissing

def playRounds (rounds : ℕ → Round) (finish : Option NodeRegistry) (effectiveMax round : ℕ) (p : Progress) :
    Outcome :=
  if (rounds (round + 1)).inTime ∧ round < effectiveMax then
    match playRound sha256 p (round + 1) (rounds (round + 1)) with
    | .error out => out
    | .ok p => playRounds rounds finish effectiveMax (round + 1) p
  else ⟨.timeout round, .ok (seedSetOf sha256 finish)⟩
termination_by effectiveMax - round

def effectiveMax (maxRounds : UInt32) : ℕ := if maxRounds = 0 then 10 else maxRounds.toNat

def runSeedSyncCycle (peerAddrs : List SocketAddr) (maxRounds : UInt32) (start : Option NodeRegistry)
    (rounds : ℕ → Round) (finish : Option NodeRegistry) : Outcome :=
  if peerAddrs = [] then ⟨.noPeers, .ok (seedSetOf sha256 start)⟩
  else playRounds sha256 rounds finish (effectiveMax maxRounds) 0 ⟨0, none⟩

/-- the hash was read for the third time in a row -/
def Steady (h : ℕ → Digest) (r : ℕ) : Prop := 3 ≤ r ∧ h (r - 2) = h (r - 1) ∧ h (r - 1) = h r

/-- what the loop knows after `k` rounds that did not end it -/
structure Tracks (h : ℕ → Digest) (k : ℕ) (p : Progress) : Prop where
  prevHash : p.prevHash = if k = 0 then none else some (h k)
  stable : p.stableRounds = if 2 ≤ k ∧ h (k - 1) = h k then 1 else 0
  unsteady : ∀ r ≤ k, ¬ Steady h r

def present (before after last : NodeRegistry) : Round := ⟨true, some before, some after, some last⟩

section Present

variable {sha256} {before after last : ℕ → NodeRegistry} {h : ℕ → Digest} {k m : ℕ} {p : Progress}

lemma playRound_present (reg reg' reg'' : NodeRegistry) (p : Progress) (k : ℕ) :
    playRound sha256 p k (present reg reg' reg'') =
      if p.prevHash = some (deriveSeedSetFromRegistry sha256 reg').hash then
        if 2 ≤ p.stableRounds + 1 then .error ⟨.converged k, .ok (deriveSeedSetFromRegistry sha256 reg'')⟩
        else .ok ⟨p.stableRounds + 1, p.prevHash⟩
      else .ok ⟨0, some (deriveSeedSetFromRegistry sha256 reg').hash⟩ := rfl

lemma Tracks.unsteady_succ (hp : Tracks h k p) (hk : ¬ Steady h (k + 1)) :
    ∀ r ≤ k + 1, ¬ Steady h r := by
  intro r hle
  rcases Nat.le_succ_iff.mp hle with hle | rfl
  · exact hp.unsteady r hle
  · exact hk

lemma Tracks.changed (hp : Tracks h k p) (hh : k = 0 ∨ h k ≠ h (k + 1)) :
    Tracks h (k + 1) ⟨0, some (h (k + 1))⟩ := by
  refine ⟨by simp, ?_, hp.unsteady_succ (fun hs => ?_)⟩
  · have hno : ¬ (2 ≤ k + 1 ∧ h (k + 1 - 1) = h (k + 1)) := by
      rintro ⟨hk, he⟩
      rcases hh with rfl | hh
      · omega
      · exact hh he
    rw [if_neg hno]
  · obtain ⟨hk, -, he⟩ := hs
    rcases hh with rfl | hh
    · omega
    · exact hh he

lemma Tracks.repeated (hp : Tracks h k p) (hz : k ≠ 0) (hh : h k = h (k + 1))
    (hs : ¬ (2 ≤ k ∧ h (k - 1) = h k)) : Tracks h (k + 1) ⟨1, some (h k)⟩ := by
  refine ⟨by simp [hh], ?_, hp.unsteady_succ (fun hst => hs ⟨?_, hst.2.1⟩)⟩
  · have hyes : 2 ≤ k + 1 ∧ h (k + 1 - 1) = h (k + 1) := ⟨by omega, hh⟩
    rw [if_pos hyes]
  · have hk := hst.1
    omega

lemma Tracks.step (hp : Tracks h k p) (reg : NodeRegistry) {reg' : NodeRegistry} (reg'' : NodeRegistry)
    (hr : (deriveSeedSetFromRegistry sha256 reg').hash = h (k + 1)) :
    (Steady h (k + 1) ∧ ∃ set, playRound sha256 p (k + 1) (present reg reg' reg'') =
      .error ⟨.converged (k + 1), .ok set⟩) ∨
    ∃ p', playRound sha256 p (k + 1) (present reg reg' reg'') = .ok p' ∧ Tracks h (k + 1) p' := by
  rw [playRound_present, hr, hp.prevHash]
  by_cases hz : k = 0
  · -- the first hash is only remembered
    right
    rw [if_pos hz]
    exact ⟨_, rfl, hp.changed (Or.inl hz)⟩
  · rw [if_neg hz]
    by_cases hh : h k = h (k + 1)
    · rw [if_pos (by rw [hh]), hp.stable]
      by_cases hs : 2 ≤ k ∧ h (k - 1) = h k
      · left
        rw [if_pos hs]
        exact ⟨⟨by omega, hs.2, hh⟩, _, rfl⟩
      · right
        rw [if_neg hs]
        exact ⟨_, rfl, hp.repeated hz hh hs⟩
    · right
      rw [if_neg (fun he => hh (Option.some.inj he))]
      exact ⟨_, rfl, hp.changed (Or.inr hh)⟩

/-- where the rounds end that begin after round `k` -/
structure EndsAt (h : ℕ → Digest) (m : ℕ) (out : Outcome) : Prop where
  exit : (∃ r, IsLeast {r | r ≤ m ∧ Steady h r} r ∧ out.exit = .converged r) ∨
    (∀ r ≤ m, ¬ Steady h r) ∧ out.exit = .timeout m
  ok : ∃ set, out.result = .ok set

lemma Tracks.playRounds (hp : Tracks h k p) (hk : k ≤ m) {finish : Option NodeRegistry}
    (hh : ∀ r, (deriveSeedSetFromRegistry sha256 (after r)).hash = h r) :
    EndsAt h m (playRounds sha256 (fun r => present (before r) (after r) (last r)) finish m k p) := by
  induction hn : m - k generalizing k p with
  | zero =>
    obtain rfl : k = m := by omega
    rw [SyncCycle.playRounds, if_neg (by simp)]
    exact ⟨Or.inr ⟨hp.unsteady, rfl⟩, _, rfl⟩
  | succ n ih =>
    rw [SyncCycle.playRounds, if_pos ⟨rfl, by omega⟩]
    rcases hp.step (before (k + 1)) (last (k + 1)) (hh (k + 1)) with ⟨hs, set, hr⟩ | ⟨p', hr, hp'⟩
    · rw [hr]
      refine ⟨Or.inl ⟨k + 1, ⟨⟨by omega, hs⟩, fun r hr => ?_⟩, rfl⟩, set, rfl⟩
      by_contra hlt
      exact hp.unsteady r (by omega) hr.2
    · rw [hr]
      exact ih hp' (by omega) (by omega)

lemma tracks_start (h : ℕ → Digest) : Tracks h 0 ⟨0, none⟩ := by
  refine ⟨rfl, rfl, fun r hr hs => ?_⟩
  exact absurd hs.1 (by omega)

lemma EndsAt.converged_iff {out : Outcome} (he : EndsAt h m out) (r : ℕ) :
    out.exit = .converged r ↔ IsLeast {r | r ≤ m ∧ Steady h r} r := by
  rcases he.exit with ⟨r', hleast, hexit⟩ | ⟨hnone, hexit⟩
  · rw [hexit, Exit.converged.injEq]
    constructor
    · rintro rfl
      exact hleast
    · exact fun hr => hleast.unique hr
  · rw [hexit]
    refine ⟨fun hc => Exit.noConfusion hc, fun hr => ?_⟩
    exact absurd hr.1.2 (hnone r hr.1.1)

end Present

theorem cycle_convergence (sha256 : Bytes → Digest) (peerAddrs : List SocketAddr) (hpeers : peerAddrs ≠ [])
    (maxRounds : UInt32) (start finish : Option NodeRegistry) (before after last : ℕ → NodeRegistry) :
    let h := fun r => (deriveSeedSetFromRegistry sha256 (after r)).hash
    let m := if maxRounds = 0 then 10 else maxRounds.toNat
    let out := runSeedSyncCycle sha256 peerAddrs maxRounds start
      (fun r => present (before r) (after r) (last r)) finish
    (∀ r, out.exit = .converged r ↔ IsLeast {r | r ≤ m ∧ Steady h r} r) ∧
      ((∀ r ≤ m, ¬ Steady h r) → out.exit = .timeout m) ∧ ∃ set, out.result = .ok set := by
  intro h m out
  have hout : out = playRounds sha256 (fun r => present (before r) (after r) (last r)) finish m 0
      ⟨0, none⟩ := if_neg hpeers
  have hends : EndsAt h m out := by
    rw [hout]
    exact (tracks_start h).playRounds (Nat.zero_le m) (fun _ => rfl)
  refine ⟨hends.converged_iff, fun hnone => ?_, hends.ok⟩
  rcases hends.exit with ⟨r, hr, -⟩ | ⟨-, hexit⟩
  · exact absurd hr.1.2 (hnone r hr.1.1)
  · exact hexit

theorem cycle_convergence_unchanged :
    (runSeedSyncCycle Sha256.digest [.v4 ⟨1, 2, 3, 4⟩ 80] 0 none
      (fun _ => present .empty .empty .empty) none).exit = .converged 3 := by
  have hc := cycle_convergence Sha256.digest [.v4 ⟨1, 2, 3, 4⟩ 80] (by simp) 0 none none
    (fun _ => .empty) (fun _ => .empty) (fun _ => .empty)
  refine (hc.1 3).mpr ⟨⟨by decide, le_rfl, rfl, rfl⟩, ?_⟩
  exact fun r hr => hr.2.1

end ZzP2p.Protocols.SyncCycle
