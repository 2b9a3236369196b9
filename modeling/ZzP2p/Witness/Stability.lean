import ZzP2p.Lib.Runs
import ZzP2p.Lib.Sha256
import ZzP2p.Witness.Ring

/-! How many ticks in a row have agreed when the ring is locked. A tick that disagrees leaves the
counter and the remembered hash as they are. -/

namespace ZzP2p.Witness

open Rust Lib Lib.Runs Protocols

/-- the hash that a handled tick carried beside the hash of the local ring -/
structure TickRecord where
  ringHash : Digest
  localHash : Digest

/-- `history` has the latest tick first. -/
structure Observed where
  state : State
  history : List TickRecord

variable (sha256 : Bytes → Digest)

def tickRecord (s : State) (tick : TickCommand) (h : Handling) : TickRecord :=
  ⟨tick.ringHash, computeWitnessRingHash sha256 (getWitnessRing sha256 s tick h)⟩

def observe (o : Observed) (e : Event) : Observed :=
  ⟨step sha256 o.state e, match e with
    | .tick tick h => tickRecord sha256 o.state tick h :: o.history
    | .operate _ => o.history⟩

def LocksAfterAgreement (o : Observed) (e : Event) : Prop :=
  (locked sha256 o.state e).isSome → ∃ localHash,
    (observe sha256 o e).history.take WITNESS_RING_STABLE_ROUNDS.toNat =
      List.replicate WITNESS_RING_STABLE_ROUNDS.toNat ⟨localHash, localHash⟩

/-- A tick that agrees on the remembered hash comes directly after a tick that agreed. -/
def Unbroken (o : Observed) : Event → Prop
  | .tick tick h =>
    let r := tickRecord sha256 o.state tick h
    r.ringHash = r.localHash → o.state.hash = some r.localHash →
      ∃ last ∈ o.history.head?, last.ringHash = last.localHash
  | .operate _ => True

def Remembers (o : Observed) : Prop :=
  ∀ last ∈ o.history.head?, last.ringHash = last.localHash → o.state.hash = some last.localHash

variable {sha256} {o : Observed}

lemma Remembers.observe (h : Remembers o) (e : Event) : Remembers (observe sha256 o e) := by
  cases e with
  | operate op => exact h
  | tick tick hd =>
    intro last hlast hagree
    obtain rfl := Option.some.inj hlast
    simp only [Witness.observe, step]
    rcases tickHandler_cases sha256 o.state tick hd with
      ⟨hne, -⟩ | ⟨-, n, hn⟩ | ⟨-, -, n, hn⟩
    · exact absurd hagree.symm hne
    · rw [hn]
      rfl
    · rw [hn]
      rfl

lemma Remembers.locksAfterAgreement (h : Remembers o) (e : Event) (hok : Unbroken sha256 o e) :
    LocksAfterAgreement sha256 o e := by
  intro hlock
  cases e with
  | operate op => exact absurd hlock (by simp [locked])
  | tick tick hd =>
    simp only [locked] at hlock
    rcases tickHandler_cases sha256 o.state tick hd with
      ⟨-, hn⟩ | ⟨-, n, hn⟩ | ⟨heq, hh, n, -⟩
    · exact absurd hlock (by simp [hn])
    · exact absurd hlock (by simp [hn])
    · obtain ⟨last, hlast, hagree⟩ := hok heq.symm hh
      have hlocal := Option.some.inj ((h last hlast hagree).symm.trans hh)
      obtain ⟨rest, hrest⟩ := List.head?_eq_some_iff.mp hlast
      refine ⟨tick.ringHash, ?_⟩
      have hr : tickRecord sha256 o.state tick hd = ⟨tick.ringHash, tick.ringHash⟩ := by
        rw [tickRecord, heq]
      have hl : last = ⟨tick.ringHash, tick.ringHash⟩ := by
        obtain ⟨ringHash, localHash⟩ := last
        simp only at hagree hlocal
        rw [hagree, hlocal, heq]
      simp only [Witness.observe, hr, hrest, hl]
      rfl

theorem locked_after_consecutive_agreement (sha256 : Bytes → Digest) (run : List Event)
    (hok : Guarded (observe sha256) (Unbroken sha256) ⟨start, []⟩ run) :
    Guarded (observe sha256) (LocksAfterAgreement sha256) ⟨start, []⟩ run := by
  refine guarded_of_invariant (I := Remembers) (fun o e h _ => h.observe e)
    (fun o e h hok => h.locksAfterAgreement e hok) ?_ hok
  intro last hlast
  cases hlast

def quiet : Handling := ⟨[], ⟨fun l => l, fun l => .refl l⟩, 0, 0⟩

def oneNode : NodeRegistry := NodeRegistry.empty.register "n" (.v4 ⟨1, 2, 3, 4⟩ 80)

def oneHash : Digest := computeWitnessRingHash Sha256.digest oneRing

def register : Event := .operate (.call (.register "n" (.v4 ⟨1, 2, 3, 4⟩ 80)))

def tickOf (hash : Digest) : Event := .tick ⟨none, hash⟩ quiet

lemma ring_oneNode {s : State} (h : s.registry = oneNode) (hash : Digest) :
    getWitnessRing Sha256.digest s ⟨none, hash⟩ quiet = oneRing := by
  have hring : seedRecords 0 oneNode = oneRing := by decide
  rw [← hring, ← h]
  rfl

lemma hash_oneNode {s : State} (h : s.registry = oneNode) (hash : Digest) :
    computeWitnessRingHash Sha256.digest (getWitnessRing Sha256.digest s ⟨none, hash⟩ quiet) = oneHash := by
  rw [ring_oneNode h, oneHash]

theorem locked_after_two_agreeing :
    Guarded (observe Sha256.digest) (LocksAfterAgreement Sha256.digest) ⟨start, []⟩
      [register, tickOf oneHash, tickOf oneHash] := by
  apply locked_after_consecutive_agreement
  refine ⟨trivial, ?_, ?_, trivial⟩
  · intro _ hh
    cases hh
  · intro _ _
    refine ⟨_, rfl, ?_⟩
    exact (hash_oneNode rfl oneHash).symm

theorem locked_across_disagreement :
    ¬ ∀ run, Guarded (observe Sha256.digest) (LocksAfterAgreement Sha256.digest) ⟨start, []⟩ run := by
  intro h
  have hne : oneHash ≠ Vector.replicate 32 0 := by decide +kernel
  obtain ⟨-, -, -, hlast, -⟩ := h [register, tickOf oneHash, tickOf (Vector.replicate 32 0), tickOf oneHash]
  set o₁ := observe Sha256.digest ⟨start, []⟩ register
  set o₂ := observe Sha256.digest o₁ (tickOf oneHash)
  set o₃ := observe Sha256.digest o₂ (tickOf (Vector.replicate 32 0))
  have hs₂ : o₂.state = ⟨oneNode, some 1, some oneHash, [], []⟩ :=
    congrArg Prod.fst (tickHandler_first (hash_oneNode rfl oneHash) rfl)
  have hs₃ : o₃.state = ⟨oneNode, some 1, some oneHash, [], []⟩ := by
    have hstep : o₃.state = (tickHandler Sha256.digest o₂.state ⟨none, Vector.replicate 32 0⟩ quiet).1 := rfl
    rw [hstep, hs₂, tickHandler_disagreeing (by rwa [hash_oneNode rfl])]
    rfl
  have hlock : (locked Sha256.digest o₃.state (tickOf oneHash)).isSome := by
    rw [hs₃, tickOf, locked, tickHandler_second (hash_oneNode rfl oneHash) rfl rfl, Option.isSome_some]
  obtain ⟨localHash, htake⟩ := hlast hlock
  obtain ⟨hfirst, hrest⟩ := List.cons.inj htake
  have hsecond := (List.cons.inj hrest).1
  exact hne ((congrArg TickRecord.ringHash hfirst).trans (congrArg TickRecord.ringHash hsecond).symm)

end ZzP2p.Witness
