import ZzP2p.Lib.Sha256
import ZzP2p.Protocols.Seeds

/-! What the hash of a seed list binds. A record enters it with its node address and its time, but
without the socket address it is there to announce. -/

namespace ZzP2p.Protocols.SeedsCommand

open Lib Rust

def hashInput (seeds : List SeedRecord) : Bytes :=
  let sorted := seeds.insertionSort (fun a b => a.nodeAddress ≤ b.nodeAddress)
  sorted.flatMap (fun seed => utf8 seed.nodeAddress ++ leBytes seed.firstSeen.toUInt64)

lemma hashOf_eq (sha256 : Bytes → Digest) (seeds : List SeedRecord) :
    hashOf sha256 seeds = sha256 (hashInput seeds) := rfl

/-- what is left of a record in the hashed bytes -/
def stamp (seed : SeedRecord) : String × Int64 := (seed.nodeAddress, seed.firstSeen)

def stamps (seeds : List SeedRecord) : List (String × Int64) :=
  (seeds.map stamp).insertionSort (fun a b => a.1 ≤ b.1)

def stampBytes (p : String × Int64) : Bytes := utf8 p.1 ++ leBytes p.2.toUInt64

lemma hashInput_stamps (seeds : List SeedRecord) : hashInput seeds = (stamps seeds).flatMap stampBytes := by
  have hsort := List.map_insertionSort (r := fun a b : SeedRecord => a.nodeAddress ≤ b.nodeAddress)
    (s := fun a b : String × Int64 => a.1 ≤ b.1) stamp seeds (fun _ _ _ _ => Iff.rfl)
  rw [stamps, ← hsort, List.flatMap_map]
  rfl

lemma stampBytes_inj {p q : String × Int64} (h : stampBytes p = stampBytes q)
    (hl : (utf8 p.1).length = (utf8 q.1).length) : p = q := by
  obtain ⟨hn, ht⟩ := List.append_inj h hl
  exact Prod.ext (utf8_injective hn) (int64_leBytes_injective ht)

/-- the places at which the hashed bytes of the records end, up to the fixed length of the times -/
def cuts (seeds : List SeedRecord) : List ℕ := (stamps seeds).map (fun p => (utf8 p.1).length)

lemma stamps_inj {ps qs : List (String × Int64)} (h : ps.flatMap stampBytes = qs.flatMap stampBytes)
    (hl : ps.map (fun p => (utf8 p.1).length) = qs.map (fun p => (utf8 p.1).length)) : ps = qs := by
  induction ps generalizing qs with
  | nil =>
    symm
    simpa using hl
  | cons p ps ih =>
    cases qs with
    | nil => simp at hl
    | cons q qs =>
      obtain ⟨hpq, hl⟩ := List.cons.inj hl
      simp only [List.flatMap_cons] at h
      obtain ⟨hb, h⟩ := List.append_inj h (by simpa [stampBytes] using hpq)
      rw [stampBytes_inj hb hpq, ih h hl]

lemma hashInput_eq_iff {seeds seeds' : List SeedRecord} (hl : cuts seeds' = cuts seeds) :
    hashInput seeds' = hashInput seeds ↔ stamps seeds' = stamps seeds := by
  rw [hashInput_stamps, hashInput_stamps]
  exact ⟨fun h => stamps_inj h hl, fun h => by rw [h]⟩

def Bound (c c' : SeedsCommand) : Prop :=
  c'.hash = c.hash → c'.seeds.length = c.seeds.length →
    (c'.seeds : Multiset SeedRecord) ≠ c.seeds → hashInput c'.seeds ≠ hashInput c.seeds

/-- the first record announces another socket -/
def redirect (c : SeedsCommand) : SeedsCommand where
  seeds := c.seeds.modifyHead (fun seed => { seed with address := seed.address ++ "0" })
  hash := c.hash

lemma hashInput_redirect (c : SeedsCommand) : hashInput (redirect c).seeds = hashInput c.seeds := by
  have hs : (redirect c).seeds.map stamp = c.seeds.map stamp := by
    cases hc : c.seeds with
    | nil => simp [redirect, hc]
    | cons seed seeds => simp [redirect, hc, stamp]
  rw [hashInput_stamps, hashInput_stamps, stamps, stamps, hs]

lemma redirect_ne {c : SeedsCommand} (hc : c.seeds ≠ []) :
    ((redirect c).seeds : Multiset SeedRecord) ≠ c.seeds := by
  obtain ⟨seed, seeds, he⟩ := List.exists_cons_of_ne_nil hc
  rw [redirect, he]
  intro h
  have hseed : { seed with address := seed.address ++ "0" } = seed :=
    (Multiset.cons_inj_left (seeds : Multiset SeedRecord)).mp h
  have hlen := congrArg (fun s : SeedRecord => s.address.length) hseed
  simp at hlen

theorem seeds_bound_iff (sha256 : Bytes → Digest) (c : SeedsCommand) (hv : c.verify sha256 = true) :
    ((∀ c', Bound c c') ↔ c.seeds = []) ∧
      (c.seeds ≠ [] → ∃ c', ¬ Bound c c' ∧ c'.verify sha256 = true) ∧
      ∀ c' : SeedsCommand, cuts c'.seeds = cuts c.seeds →
        (hashInput c'.seeds = hashInput c.seeds ↔ stamps c'.seeds = stamps c.seeds) := by
  have hredirect : c.seeds ≠ [] → ¬ Bound c (redirect c) := by
    intro hne hb
    have hlen : (redirect c).seeds.length = c.seeds.length := by simp [redirect]
    exact hb rfl hlen (redirect_ne hne) (hashInput_redirect c)
  refine ⟨⟨fun h => ?_, fun h c' _ hlen hms => ?_⟩, fun hne => ?_, fun c' => hashInput_eq_iff⟩
  · by_contra hne
    exact hredirect hne (h _)
  · rw [h, List.length_nil, List.length_eq_zero_iff] at hlen
    exact absurd (by rw [hlen, h]) hms
  · refine ⟨redirect c, hredirect hne, ?_⟩
    rw [verify, decide_eq_true_eq, hashOf_eq] at hv ⊢
    rw [hashInput_redirect, hv]
    rfl

def oneSeed : List SeedRecord := [⟨"10.0.0.1:7000", "node", 5⟩]

theorem seeds_bound_oneSeed :
    ∃ c', ¬ Bound (new Sha256.digest oneSeed) c' ∧ c'.verify Sha256.digest = true := by
  have hv := verify_new Sha256.digest oneSeed
  exact (seeds_bound_iff Sha256.digest (new Sha256.digest oneSeed) hv).2.1 (List.cons_ne_nil _ _)

theorem socket_is_not_bound :
    ¬ ∀ (sha256 : Bytes → Digest) (c c' : SeedsCommand), c.verify sha256 = true → Bound c c' := by
  intro h
  have hb := h Sha256.digest (new Sha256.digest oneSeed)
    ⟨[⟨"10.6.6.6:7000", "node", 5⟩], (new Sha256.digest oneSeed).hash⟩ (verify_new _ _)
  exact hb rfl rfl (fun he => absurd (Multiset.singleton_inj.mp he) (by decide)) rfl

end ZzP2p.Protocols.SeedsCommand
