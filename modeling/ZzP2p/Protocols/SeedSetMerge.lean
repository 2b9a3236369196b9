import ZzP2p.Lib.Firsts
import ZzP2p.Witness.SeedDigest

/-! Merging two seed sets. The second list is taken in without repetitions, the first one as it is. -/

namespace ZzP2p.Protocols

open Rust Lib Witness

/-- a seed set with the fields that only merging and locking use -/
structure EpochSeedSet extends SeedSet where
  epoch : UInt64
  locked : Bool
  syncRound : UInt32

namespace EpochSeedSet

variable (sha256 : Bytes → Digest)

def withPreHash (seeds : List SeedInfo) (epoch : UInt64) (preHash : String) : EpochSeedSet :=
  { SeedSet.withPreHash sha256 seeds preHash with
    epoch := epoch
    locked := false
    syncRound := 0 }

def pushNew (s : List SeedInfo × Finset String) (seed : SeedInfo) : List SeedInfo × Finset String :=
  if SeedSet.isLoopback seed.ip then s
  else if seed.address ∈ s.2 then s
  else (s.1 ++ [seed], insert seed.address s.2)

def merge (set other : EpochSeedSet) : EpochSeedSet :=
  let merged := set.seeds.filter (fun s => !SeedSet.isLoopback s.ip)
  let seen := (merged.map SeedInfo.address).toFinset
  withPreHash sha256 (other.seeds.foldl pushNew (merged, seen)).1 (max set.epoch other.epoch) set.preHash

def outside (seeds : List SeedInfo) : List SeedInfo := seeds.filter (fun s => !SeedSet.isLoopback s.ip)

def addresses (seeds : List SeedInfo) : List String := (outside seeds).map SeedInfo.address

structure IsUnion (set other third : EpochSeedSet) : Prop where
  once : ((merge sha256 set other).seeds.map SeedInfo.address).Nodup
  exact : ∀ x, x ∈ (merge sha256 set other).seeds.map SeedInfo.address ↔
    ∃ s ∈ set.seeds ++ other.seeds, SeedSet.isLoopback s.ip = false ∧ s.address = x
  verified : (merge sha256 set other).verify sha256 = true
  comm : set.preHash = other.preHash → (merge sha256 set other).hash = (merge sha256 other set).hash
  assoc : set.preHash = other.preHash → other.preHash = third.preHash →
    (merge sha256 (merge sha256 set other) third).hash = (merge sha256 set (merge sha256 other third)).hash

variable {sha256} {set other third : EpochSeedSet}

lemma foldl_pushNew (seeds merged : List SeedInfo) (seen : Finset String) :
    (seeds.foldl pushNew (merged, seen)).1 = merged ++ firsts SeedInfo.address (outside seeds) seen := by
  induction seeds generalizing merged seen with
  | nil => simp [outside, firsts]
  | cons seed seeds ih =>
    rw [List.foldl_cons, pushNew]
    cases hl : SeedSet.isLoopback seed.ip with
    | true =>
      have hout : outside (seed :: seeds) = outside seeds := by simp [outside, hl]
      rw [if_pos rfl, ih, hout]
    | false =>
      have hout : outside (seed :: seeds) = seed :: outside seeds := by simp [outside, hl]
      rw [if_neg (by simp), hout, firsts]
      split
      · exact ih merged seen
      · rw [ih, List.append_assoc, List.singleton_append]

lemma merge_seeds : (merge sha256 set other).seeds =
    outside set.seeds ++ firsts SeedInfo.address (outside other.seeds) (addresses set.seeds).toFinset :=
  foldl_pushNew other.seeds _ _

lemma outside_append (xs ys : List SeedInfo) : outside (xs ++ ys) = outside xs ++ outside ys :=
  List.filter_append xs ys

lemma outside_of_subset {xs ys : List SeedInfo} (h : xs ⊆ outside ys) : outside xs = xs := by
  apply List.filter_eq_self.mpr
  intro s hs
  exact (List.mem_filter.mp (h hs)).2

lemma outside_merge : outside (merge sha256 set other).seeds = (merge sha256 set other).seeds := by
  rw [merge_seeds, outside_append, outside_of_subset (List.Subset.refl (outside set.seeds)),
    outside_of_subset firsts_subset]

lemma mem_addresses_merge {x : String} : x ∈ (merge sha256 set other).seeds.map SeedInfo.address ↔
    x ∈ addresses set.seeds ∨ x ∈ addresses other.seeds := by
  rw [merge_seeds, List.map_append, List.mem_append, mem_keys_firsts, List.mem_toFinset]
  have hset : x ∈ (outside set.seeds).map SeedInfo.address ↔ x ∈ addresses set.seeds := Iff.rfl
  have hother : x ∈ (outside other.seeds).map SeedInfo.address ↔ x ∈ addresses other.seeds := Iff.rfl
  rw [hset, hother]
  tauto

lemma nodup_addresses_merge_iff : ((merge sha256 set other).seeds.map SeedInfo.address).Nodup ↔
    (addresses set.seeds).Nodup := by
  rw [merge_seeds, List.map_append, List.nodup_append']
  refine ⟨fun h => h.1, fun h => ⟨h, nodup_keys_firsts, ?_⟩⟩
  intro x hx hnew
  exact (mem_keys_firsts.mp hnew).2 (List.mem_toFinset.mpr hx)

lemma merge_assoc_seeds : (merge sha256 (merge sha256 set other) third).seeds =
    (merge sha256 set (merge sha256 other third)).seeds := by
  have hkeys : (addresses (merge sha256 set other).seeds).toFinset =
      (addresses set.seeds).toFinset ∪ (addresses other.seeds).toFinset := by
    ext x
    rw [addresses, outside_merge, List.mem_toFinset, mem_addresses_merge, Finset.mem_union,
      List.mem_toFinset, List.mem_toFinset]
  rw [merge_seeds, outside_merge, hkeys, merge_seeds, merge_seeds, outside_merge, merge_seeds,
    firsts_append, List.append_assoc]
  have hlast : firsts SeedInfo.address (firsts SeedInfo.address (outside third.seeds)
      (addresses other.seeds).toFinset) ((addresses set.seeds).toFinset ∪ (addresses other.seeds).toFinset) =
      firsts SeedInfo.address (outside third.seeds)
        ((addresses set.seeds).toFinset ∪ (addresses other.seeds).toFinset) :=
    firsts_firsts Finset.subset_union_right
  rw [← hlast]
  rfl

lemma merge_hash : (merge sha256 set other).hash =
    sha256 (seedHashInput set.preHash (merge sha256 set other).seeds) := rfl

lemma length_address_pos (s : SeedInfo) : 0 < (utf8 s.address).length := by
  have hcolon : (utf8 ":").length = 1 := by decide
  rw [SeedInfo.address, hostPort, utf8_append, utf8_append, List.length_append, List.length_append, hcolon]
  omega

lemma length_sortedBytes (l : List String) :
    (sortedBytes l).length = (l.map (fun x => (utf8 x).length)).sum := by
  rw [sortedBytes, List.length_flatMap]
  exact ((List.perm_insertionSort _ l).map _).sum_eq

lemma perm_of_sum_eq {α : Type*} {l l' : List α} {weight : α → ℕ} (hl : l.Nodup) (hsub : l ⊆ l')
    (hpos : ∀ x ∈ l', 0 < weight x) (hsum : (l.map weight).sum = (l'.map weight).sum) : l'.Perm l := by
  obtain ⟨k, hk, hsublist⟩ := List.subperm_of_subset hl hsub
  obtain ⟨rest, hrest⟩ := hsublist.exists_perm_append
  have htotal := (hrest.map weight).sum_eq
  rw [List.map_append, List.sum_append, (hk.map weight).sum_eq, hsum, Nat.left_eq_add] at htotal
  cases rest with
  | nil => exact (List.append_nil k ▸ hrest).trans hk
  | cons x rest =>
    have hx := hpos x (hrest.mem_iff.mpr (by simp))
    rw [List.map_cons, List.sum_cons] at htotal
    omega

lemma comm_of_nodup (hset : (addresses set.seeds).Nodup) (hother : (addresses other.seeds).Nodup)
    (hpre : set.preHash = other.preHash) :
    (merge sha256 set other).hash = (merge sha256 other set).hash := by
  have hperm : ((merge sha256 set other).seeds.map SeedInfo.address).Perm
      ((merge sha256 other set).seeds.map SeedInfo.address) := by
    apply (List.perm_ext_iff_of_nodup (nodup_addresses_merge_iff.mpr hset)
      (nodup_addresses_merge_iff.mpr hother)).mpr
    intro x
    rw [mem_addresses_merge, mem_addresses_merge, or_comm]
  rw [merge_hash, merge_hash, seedHashInput, seedHashInput, sortedBytes, sortedBytes,
    insertionSort_congr hperm, hpre]

lemma nodup_of_comm (hset : (addresses set.seeds).Nodup) (hbytes : seedHashInput set.preHash
      (merge sha256 set other).seeds = seedHashInput set.preHash (merge sha256 other set).seeds) :
    (addresses other.seeds).Nodup := by
  have hnodup : ((merge sha256 set other).seeds.map SeedInfo.address).Nodup :=
    nodup_addresses_merge_iff.mpr hset
  have hlength := congrArg List.length (List.append_cancel_left hbytes)
  rw [length_sortedBytes, length_sortedBytes] at hlength
  have hperm := perm_of_sum_eq hnodup ?_ ?_ hlength
  · exact nodup_addresses_merge_iff.mp (hperm.nodup_iff.mpr hnodup)
  · intro x hx
    rw [mem_addresses_merge] at hx ⊢
    exact hx.symm
  · intro x hx
    obtain ⟨s, -, rfl⟩ := List.mem_map.mp hx
    exact length_address_pos s

theorem merge_union_iff (sha256 : Bytes → Digest) (set other third : EpochSeedSet)
    (hsha : NoCollision sha256 (seedHashInput set.preHash (merge sha256 set other).seeds)
      (seedHashInput other.preHash (merge sha256 other set).seeds)) :
    IsUnion sha256 set other third ↔ (addresses set.seeds).Nodup ∧
      (set.preHash = other.preHash → (addresses other.seeds).Nodup) := by
  constructor
  · intro h
    have hset := nodup_addresses_merge_iff.mp h.once
    refine ⟨hset, fun hpre => ?_⟩
    have hbytes := hsha (h.comm hpre)
    rw [← hpre] at hbytes
    exact nodup_of_comm hset hbytes
  · rintro ⟨hset, hother⟩
    refine ⟨nodup_addresses_merge_iff.mpr hset, fun x => ?_, decide_eq_true rfl,
      fun hpre => comm_of_nodup hset (hother hpre) hpre, fun _ _ => ?_⟩
    · rw [mem_addresses_merge]
      simp [addresses, outside, or_and_right, exists_or, and_assoc]
    · rw [merge_hash, merge_hash, merge_assoc_seeds]
      rfl

def seedSetOf (seeds : List SeedInfo) : EpochSeedSet := withPreHash Sha256.digest seeds 0 defaultPreHash

def oneOutside : EpochSeedSet := seedSetOf [⟨"1.2.3.4", 80, "n"⟩, ⟨"127.0.0.1", 80, "n"⟩]

def twoOutside : EpochSeedSet := seedSetOf [⟨"5.6.7.8", 80, "m"⟩, ⟨"1.2.3.4", 80, "m"⟩]

theorem merge_union_outside : IsUnion Sha256.digest oneOutside twoOutside oneOutside := by
  apply (merge_union_iff Sha256.digest oneOutside twoOutside oneOutside (fun _ => by decide +kernel)).mpr
  exact ⟨by decide +kernel, fun _ => by decide +kernel⟩

theorem repeated_seed_is_kept :
    ¬ ∀ (sha256 : Bytes → Digest) (set other third : EpochSeedSet), IsUnion sha256 set other third := by
  intro h
  have hu := h Sha256.digest (seedSetOf [⟨"1.2.3.4", 80, "n"⟩, ⟨"1.2.3.4", 80, "n"⟩]) (seedSetOf [])
    (seedSetOf [])
  exact absurd (nodup_addresses_merge_iff.mp hu.once) (by decide +kernel)

end EpochSeedSet

end ZzP2p.Protocols
