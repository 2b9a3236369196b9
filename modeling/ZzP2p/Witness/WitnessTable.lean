import ZzP2p.Witness.Ring

/-! The table of witnesses that one lock of the ring leaves. A node's rank is the position of its last
record in the ring, cut to 32 bits. -/

namespace ZzP2p.Witness

open Lib.Upsert Protocols

/-- `i` is the position of the last record of the node `a` -/
def LastAt (ring : List SeedRecord) (a : String) (i : ℕ) : Prop :=
  (nodes ring)[i]? = some a ∧ ∀ j, i < j → (nodes ring)[j]? ≠ some a

structure TableOf (ring : List SeedRecord) (witnesses : List WitnessEntry) : Prop where
  one_each : (witnesses.map WitnessEntry.address).Nodup
  addresses : ∀ a, a ∈ witnesses.map WitnessEntry.address ↔ a ∈ nodes ring
  ranks_distinct : (witnesses.map WitnessEntry.rank).Nodup
  ranks_lt : ∀ w ∈ witnesses, w.rank.toNat < ring.length

def RanksApart (ring : List SeedRecord) : Prop :=
  ∀ a b i j, LastAt ring a i → LastAt ring b j → i % 2 ^ 32 = j % 2 ^ 32 → a = b

variable {ring : List SeedRecord} {witnesses : List WitnessEntry}

lemma LastAt.lt {a : String} {i : ℕ} (h : LastAt ring a i) : i < ring.length := by
  obtain ⟨hi, -⟩ := List.getElem?_eq_some_iff.mp h.1
  simpa [nodes] using hi

lemma lastAt_concat_self (ring : List SeedRecord) (seed : SeedRecord) :
    LastAt (ring ++ [seed]) seed.nodeAddress ring.length := by
  refine ⟨by simp [nodes], fun j hj => ?_⟩
  have hnone : (nodes (ring ++ [seed]))[j]? = none := by
    rw [List.getElem?_eq_none_iff]
    simp only [nodes, List.length_map, List.length_append, List.length_singleton]
    omega
  simp [hnone]

lemma LastAt.concat {a : String} {i : ℕ} (h : LastAt ring a i) {seed : SeedRecord}
    (hne : a ≠ seed.nodeAddress) : LastAt (ring ++ [seed]) a i := by
  have happend : nodes (ring ++ [seed]) = nodes ring ++ [seed.nodeAddress] := by simp [nodes]
  refine ⟨?_, fun j hj => ?_⟩
  · rw [happend, List.getElem?_append_left (List.getElem?_eq_some_iff.mp h.1).1, h.1]
  · rw [happend, List.getElem?_append]
    split
    · exact h.2 j hj
    · simp only [List.getElem?_singleton]
      split
      · exact fun he => hne (Option.some.inj he).symm
      · simp

lemma keepsKey_witness (now : UInt64) (seed : SeedRecord) (i : ℕ) :
    KeepsKey WitnessEntry.address seed.nodeAddress (fun _ => witnessOf now seed i) :=
  fun _ _ => rfl

lemma storeWitnesses_concat (now : UInt64) (ring : List SeedRecord) (seed : SeedRecord) :
    storeWitnesses now (ring ++ [seed]) witnesses =
      storeWitness now (storeWitnesses now ring witnesses) (seed, ring.length) := by
  simp [storeWitnesses, List.zipIdx_append]

lemma nodup_storeWitnesses (now : UInt64) (ring : List SeedRecord)
    (h : (witnesses.map WitnessEntry.address).Nodup) :
    ((storeWitnesses now ring witnesses).map WitnessEntry.address).Nodup := by
  induction ring using List.reverseRecOn with
  | nil => exact h
  | append_singleton ring seed ih =>
    rw [storeWitnesses_concat]
    exact nodup_upsert (keepsKey_witness now seed ring.length) ih

lemma mem_addresses_storeWitnesses (now : UInt64) (ring : List SeedRecord) (a : String) :
    a ∈ (storeWitnesses now ring witnesses).map WitnessEntry.address ↔
      a ∈ nodes ring ∨ a ∈ witnesses.map WitnessEntry.address := by
  induction ring using List.reverseRecOn with
  | nil => simp [storeWitnesses, nodes]
  | append_singleton ring seed ih =>
    have happend : a ∈ nodes (ring ++ [seed]) ↔ a = seed.nodeAddress ∨ a ∈ nodes ring := by
      simp [nodes, or_comm]
    rw [storeWitnesses_concat, storeWitness, mem_keys_upsert (keepsKey_witness now seed ring.length), ih,
      happend, or_assoc]

lemma rank_storeWitnesses (now : UInt64) (ring : List SeedRecord) (witnesses : List WitnessEntry) {a : String}
    (ha : a ∈ nodes ring) : ∃ w i, get WitnessEntry.address a (storeWitnesses now ring witnesses) = some w ∧
      LastAt ring a i ∧ w.rank = UInt32.ofNat i := by
  induction ring using List.reverseRecOn with
  | nil => simp [nodes] at ha
  | append_singleton ring seed ih =>
    rw [storeWitnesses_concat, storeWitness, get_upsert (keepsKey_witness now seed ring.length)]
    by_cases hseed : a = seed.nodeAddress
    · rw [if_pos hseed]
      exact ⟨_, ring.length, rfl, hseed ▸ lastAt_concat_self ring seed, rfl⟩
    · have hmem : a ∈ nodes ring := by simpa [nodes, hseed, Ne.symm hseed] using ha
      obtain ⟨w, i, hw, hi, hrank⟩ := ih hmem
      rw [if_neg hseed]
      exact ⟨w, i, hw, hi.concat hseed, hrank⟩

lemma LastAt.unique {a : String} {i j : ℕ} (hi : LastAt ring a i) (hj : LastAt ring a j) : i = j := by
  rcases lt_trichotomy i j with hlt | heq | hlt
  · exact absurd hj.1 (hi.2 j hlt)
  · exact heq
  · exact absurd hi.1 (hj.2 i hlt)

lemma LastAt.mem {a : String} {i : ℕ} (h : LastAt ring a i) : a ∈ nodes ring := List.mem_of_getElem? h.1

lemma ranksApart_of_length (h : ring.length ≤ 2 ^ 32) : RanksApart ring := by
  intro a b i j hi hj hmod
  have hij : i = j := by
    rwa [Nat.mod_eq_of_lt (hi.lt.trans_le h), Nat.mod_eq_of_lt (hj.lt.trans_le h)] at hmod
  subst hij
  exact Option.some.inj (hi.1.symm.trans hj.1)

section Lock

variable (now : UInt64) (hnodup : (witnesses.map WitnessEntry.address).Nodup)
  (hsub : ∀ a ∈ witnesses.map WitnessEntry.address, a ∈ nodes ring)

include hsub in
lemma addresses_lock (a : String) :
    a ∈ (storeWitnesses now ring witnesses).map WitnessEntry.address ↔ a ∈ nodes ring := by
  rw [mem_addresses_storeWitnesses]
  exact ⟨fun h => h.elim id (hsub a), Or.inl⟩

include hnodup hsub in
lemma entry_lock {w : WitnessEntry} (hw : w ∈ storeWitnesses now ring witnesses) :
    get WitnessEntry.address w.address (storeWitnesses now ring witnesses) = some w ∧
      ∃ i, LastAt ring w.address i ∧ w.rank = UInt32.ofNat i := by
  have hget := get_eq_some_of_mem (nodup_storeWitnesses now ring hnodup) hw
  have hmem := (addresses_lock now hsub w.address).mp (List.mem_map_of_mem hw)
  obtain ⟨w', i, hw', hi, hrank⟩ := rank_storeWitnesses now ring witnesses hmem
  obtain rfl := Option.some.inj (hw'.symm.trans hget)
  exact ⟨hget, i, hi, hrank⟩

include hnodup hsub in
lemma rank_injective_lock (h : RanksApart ring) {w w' : WitnessEntry}
    (hw : w ∈ storeWitnesses now ring witnesses) (hw' : w' ∈ storeWitnesses now ring witnesses)
    (hrank : w.rank = w'.rank) : w = w' := by
  obtain ⟨hget, i, hi, hri⟩ := entry_lock now hnodup hsub hw
  obtain ⟨hget', j, hj, hrj⟩ := entry_lock now hnodup hsub hw'
  have hmod : i % 2 ^ 32 = j % 2 ^ 32 := by
    rw [hri, hrj] at hrank
    simpa [← UInt32.toNat_inj] using hrank
  have haddr := h _ _ i j hi hj hmod
  rw [haddr, hget'] at hget
  exact (Option.some.inj hget).symm

include hnodup hsub in
lemma tableOf_lock_iff : TableOf ring (storeWitnesses now ring witnesses) ↔ RanksApart ring := by
  constructor
  · intro h a b i j hi hj hmod
    obtain ⟨w, i', hw, hi', hri⟩ := rank_storeWitnesses now ring witnesses hi.mem
    obtain ⟨w', j', hw', hj', hrj⟩ := rank_storeWitnesses now ring witnesses hj.mem
    obtain rfl := hi'.unique hi
    obtain rfl := hj'.unique hj
    have hrank : w.rank = w'.rank := by
      rw [hri, hrj, ← UInt32.toNat_inj]
      simpa using hmod
    have hsame : w = w' := List.inj_on_of_nodup_map h.ranks_distinct (List.mem_of_find?_eq_some hw)
      (List.mem_of_find?_eq_some hw') hrank
    have ha : w.address = a := by simpa using List.find?_some hw
    have hb : w'.address = b := by simpa using List.find?_some hw'
    rw [← ha, ← hb, hsame]
  · intro h
    refine ⟨nodup_storeWitnesses now ring hnodup, addresses_lock now hsub, ?_, ?_⟩
    · refine List.Nodup.map_on (fun w hw w' hw' he => rank_injective_lock now hnodup hsub h hw hw' he) ?_
      exact (nodup_storeWitnesses now ring hnodup).of_map _
    · intro w hw
      obtain ⟨-, i, hi, hrank⟩ := entry_lock now hnodup hsub hw
      rw [hrank, UInt32.toNat_ofNat']
      exact (Nat.mod_le _ _).trans_lt hi.lt

end Lock

end ZzP2p.Witness
