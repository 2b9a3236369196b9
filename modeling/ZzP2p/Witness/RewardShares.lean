import ZzP2p.Protocols.RegistryInvariant
import ZzP2p.Witness.Rewards

/-! What one lock of the ring pays. The reward is divided by the number of records of the ring, and each
record pays its node, so a node's share grows with the sockets it has registered. -/

namespace ZzP2p.Witness

open Lib.Upsert Protocols

def total (balances : List BalanceEntry) : ℕ := (balances.map (fun b => b.balance.toNat)).sum

variable {now r : UInt64} {balances : List BalanceEntry}

lemma perWitness_toNat {ring : List SeedRecord} (h : ring.length < 2 ^ 64) :
    (perWitness ring).toNat = 1000 / ring.length := by
  rw [perWitness]
  split
  · rw [UInt64.toNat_div, UInt64.toNat_ofNat_of_lt' h]
    rfl
  · next hz =>
    have hlen : ring.length = 0 := by omega
    rw [hlen]
    rfl

lemma count_mul_share_le (ring : List SeedRecord) (a : String) :
    (nodes ring).count a * (1000 / ring.length) ≤ 1000 := by
  have hcount : (nodes ring).count a ≤ ring.length := by
    simpa [nodes] using List.count_le_length (a := a) (l := nodes ring)
  calc (nodes ring).count a * (1000 / ring.length)
      ≤ ring.length * (1000 / ring.length) := Nat.mul_le_mul_right _ hcount
    _ ≤ 1000 := Nat.mul_div_le 1000 ring.length

lemma nodup_foldl_credit (ring : List SeedRecord) (h : (balances.map BalanceEntry.address).Nodup) :
    ((ring.foldl (credit now r) balances).map BalanceEntry.address).Nodup := by
  induction ring generalizing balances with
  | nil => exact h
  | cons seed ring ih => exact ih (nodup_upsert (keepsKey_creditEntry now r seed.nodeAddress) h)

lemma get_foldl_credit_of_notMem {a : String} (ring : List SeedRecord) (ha : a ∉ nodes ring) :
    get BalanceEntry.address a (ring.foldl (credit now r) balances) =
      get BalanceEntry.address a balances := by
  induction ring generalizing balances with
  | nil => rfl
  | cons seed ring ih =>
    obtain ⟨hseed, hring⟩ := List.ne_and_not_mem_of_not_mem_cons ha
    rw [List.foldl_cons, ih hring, credit, get_upsert (keepsKey_creditEntry now r _), if_neg hseed]

lemma balance_le_total {b : BalanceEntry} (hb : b ∈ balances) : b.balance.toNat ≤ total balances :=
  List.single_le_sum (fun _ _ => Nat.zero_le _) _ (List.mem_map_of_mem hb)

lemma balanceOf_le_total (balances : List BalanceEntry) (a : String) :
    balanceOf balances a ≤ total balances := by
  rw [balanceOf]
  cases hb : get BalanceEntry.address a balances with
  | none => exact Nat.zero_le _
  | some b => exact balance_le_total (List.mem_of_find?_eq_some hb)

lemma total_credit {seed : SeedRecord} (h : total balances + r.toNat < 2 ^ 64) :
    total (credit now r balances seed) = total balances + r.toNat := by
  apply sum_upsert
  · rfl
  · intro b hb _
    have hle := balance_le_total hb
    rw [creditEntry, UInt64.toNat_add, Nat.mod_eq_of_lt (by omega)]

lemma total_foldl_credit (ring : List SeedRecord) (h : total balances + ring.length * r.toNat < 2 ^ 64) :
    total (ring.foldl (credit now r) balances) = total balances + ring.length * r.toNat := by
  induction ring generalizing balances with
  | nil => simp
  | cons seed ring ih =>
    rw [List.length_cons, add_one_mul] at h ⊢
    have hstep : total (credit now r balances seed) = total balances + r.toNat := total_credit (by omega)
    rw [List.foldl_cons, ih (by omega), hstep]
    omega

theorem lock_accounting (s : State) (ring : List SeedRecord) (hash : Rust.Digest) (now : UInt64)
    (hring : ring.length < 2 ^ 64) (hdistinct : (s.balances.map BalanceEntry.address).Nodup)
    (hroom : total s.balances ≤ 2 ^ 64 - 1 - 1000) :
    let s' := lockWitnessRing s ring hash now
    (s'.balances.map BalanceEntry.address).Nodup ∧
      (∀ a, balanceOf s'.balances a =
        balanceOf s.balances a + (nodes ring).count a * (1000 / ring.length)) ∧
      (∀ a, a ∉ nodes ring →
        get BalanceEntry.address a s'.balances = get BalanceEntry.address a s.balances) ∧
      total s'.balances = total s.balances + ring.length * (1000 / ring.length) ∧
      ring.length * (1000 / ring.length) ≤ 1000 := by
  have hshare := perWitness_toNat hring
  have hpaid : ring.length * (1000 / ring.length) ≤ 1000 := Nat.mul_div_le 1000 ring.length
  refine ⟨nodup_foldl_credit ring hdistinct, fun a => ?_,
    fun a => get_foldl_credit_of_notMem ring, ?_, hpaid⟩
  · have hle := balanceOf_le_total s.balances a
    have hcount := count_mul_share_le ring a
    have hreward : (perWitness ring).toNat * (nodes ring).count a =
        (nodes ring).count a * (1000 / ring.length) := by rw [hshare, mul_comm]
    rw [← hreward] at hcount ⊢
    exact balanceOf_foldl_credit ring (by omega)
  · rw [← hshare] at hpaid ⊢
    exact total_foldl_credit ring (by omega)

def sharedRing : List SeedRecord :=
  [⟨"1.2.3.4:80", "n", 0⟩, ⟨"5.6.7.8:80", "m", 0⟩, ⟨"9.9.9.9:80", "n", 0⟩]

theorem lock_accounting_sharedRing :
    balanceOf (lockWitnessRing { start with balances := [⟨"n", 5, 0⟩, ⟨"o", 7, 0⟩] } sharedRing
      (Vector.replicate 32 0) 0).balances "n" = 671 := by
  have h := lock_accounting { start with balances := [⟨"n", 5, 0⟩, ⟨"o", 7, 0⟩] } sharedRing
    (Vector.replicate 32 0) 0 (by decide) (by decide) (by decide)
  rw [h.2.1]
  decide

section Shares

variable {reg : NodeRegistry} {order : Order} {firstSeen : Clock}

def received (before after : List BalanceEntry) (a : String) : UInt64 := amount after a - amount before a

lemma perm_nodes_ring : (nodes (getWitnessRingFromRegistry order firstSeen reg)).Perm
    (reg.getAllSeeds.map Prod.snd) := by
  have hmap : nodes (seedRecords firstSeen reg) = reg.getAllSeeds.map Prod.snd := by
    simp [nodes, seedRecords, Function.comp_def]
  rw [← hmap]
  exact (order.perm _).map _

lemma length_ring : (getWitnessRingFromRegistry order firstSeen reg).length = reg.getAllSeeds.length := by
  rw [getWitnessRingFromRegistry, (order.perm _).length_eq, seedRecords, List.length_map]

lemma count_nodes_ring (a : String) :
    (nodes (getWitnessRingFromRegistry order firstSeen reg)).count a = (reg.getSeedsForNode a).length := by
  have hperm : (reg.getAllSeeds.filter (fun p => p.2 = a)).Perm
      ((reg.getSeedsForNode a).map (fun s => (s, a))) := by
    apply (List.perm_ext_iff_of_nodup ((NodeRegistry.nodup_getAllSeeds reg).filter _) _).mpr
    · rintro ⟨s, b⟩
      simp only [List.mem_filter, NodeRegistry.mem_getAllSeeds, decide_eq_true_eq, List.mem_map,
        Prod.mk.injEq, NodeRegistry.mem_getSeedsForNode]
      constructor
      · rintro ⟨hs, rfl⟩
        exact ⟨s, hs, rfl, rfl⟩
      · rintro ⟨t, ht, rfl, rfl⟩
        exact ⟨ht, rfl⟩
    · apply List.Nodup.map (fun s t h => (Prod.mk.inj h).1)
      exact NodeRegistry.nodup_getSeedsForNode reg a
  have hlen := hperm.length_eq
  rw [List.length_map] at hlen
  rw [perm_nodes_ring.count_eq, ← hlen, List.count, List.countP_map, List.countP_eq_length_filter]
  congr 1

lemma received_lock (s : State) (ring : List SeedRecord) (hash : Rust.Digest) (now : UInt64) (a : String) :
    received s.balances (lockWitnessRing s ring hash now).balances a =
      perWitness ring * UInt64.ofNat ((nodes ring).count a) := by
  have hpaid : amount (lockWitnessRing s ring hash now).balances a =
    amount s.balances a + perWitness ring * UInt64.ofNat ((nodes ring).count a) := amount_foldl_credit ring
  rw [received, hpaid, UInt64.add_comm, UInt64.add_sub_cancel]

lemma received_eq_iff (s : State) {ring : List SeedRecord} (hring : ring.length < 2 ^ 64)
    (hash : Rust.Digest) (now : UInt64) (a : String) {n : ℕ} (hn : n ≤ 1000) :
    received s.balances (lockWitnessRing s ring hash now).balances a = UInt64.ofNat n ↔
      (nodes ring).count a * (1000 / ring.length) = n := by
  have hle := count_mul_share_le ring a
  rw [received_lock, ← UInt64.toNat_inj, UInt64.toNat_mul, UInt64.toNat_ofNat', UInt64.toNat_ofNat',
    Nat.mul_mod_mod, perWitness_toNat hring, mul_comm, Nat.mod_eq_of_lt (by omega),
    Nat.mod_eq_of_lt (by omega)]

/-- Shares in proportion to the counts are the same as equal shares exactly if the counts are equal and
nothing more is lost in rounding, or if nothing is paid at all. -/
lemma equal_shares_iff {W : Finset String} {count : String → ℕ} (hpos : ∀ a ∈ W, 0 < count a) :
    (∀ a ∈ W, count a * (1000 / ∑ a ∈ W, count a) = 1000 / W.card) ↔
      1000 < W.card ∨ ∃ c, (∀ a ∈ W, count a = c) ∧ c ∣ 1000 / W.card := by
  constructor
  · intro h
    refine or_iff_not_imp_left.mpr (fun hcard => ?_)
    rcases W.eq_empty_or_nonempty with rfl | ⟨b, hb⟩
    · exact ⟨1, by simp, one_dvd _⟩
    · have hshare : 0 < 1000 / W.card :=
        Nat.div_pos (Nat.not_lt.mp hcard) (Finset.card_pos.mpr ⟨b, hb⟩)
      refine ⟨count b, fun a ha => ?_, ?_⟩
      · have hb' := h b hb
        rw [← h a ha] at hb' hshare
        exact (Nat.eq_of_mul_eq_mul_right (Nat.pos_of_mul_pos_left hshare) hb').symm
      · exact ⟨_, (h b hb).symm⟩
  · rintro (hcard | ⟨c, hc, hdvd⟩) a ha
    · have hsum : W.card ≤ ∑ a ∈ W, count a := by
        simpa using Finset.card_nsmul_le_sum W count 1 hpos
      rw [Nat.div_eq_of_lt (hcard.trans_le hsum), Nat.div_eq_of_lt hcard, mul_zero]
    · rw [hc a ha, Finset.sum_congr rfl hc, Finset.sum_const, smul_eq_mul, ← Nat.div_div_eq_div_mul]
      exact Nat.mul_div_cancel' hdvd

theorem equal_rewards_iff (reg : NodeRegistry) (order : Order) (firstSeen : Clock)
    (hsize : reg.getAllSeeds.length < 2 ^ 64) (s : State) (hash : Rust.Digest) (now : UInt64) :
    let ring := getWitnessRingFromRegistry order firstSeen reg
    let witnesses := (nodes ring).toFinset
    (∀ a ∈ witnesses, received s.balances (lockWitnessRing s ring hash now).balances a =
        UInt64.ofNat (1000 / witnesses.card)) ↔
      1000 < witnesses.card ∨
        ∃ c, (∀ a ∈ witnesses, (reg.getSeedsForNode a).length = c) ∧ c ∣ 1000 / witnesses.card := by
  intro ring witnesses
  have hring : ring.length < 2 ^ 64 := by rwa [length_ring]
  have hlength : ring.length = ∑ a ∈ witnesses, (reg.getSeedsForNode a).length := by
    have hsum := List.sum_toFinset_count_eq_length (nodes ring)
    rw [nodes, List.length_map] at hsum
    rw [← hsum]
    exact Finset.sum_congr rfl (fun a _ => count_nodes_ring a)
  have hpos : ∀ a ∈ witnesses, 0 < (reg.getSeedsForNode a).length := by
    intro a ha
    have hcount : (nodes ring).count a = (reg.getSeedsForNode a).length := count_nodes_ring a
    rw [← hcount]
    exact List.count_pos_iff.mpr (List.mem_toFinset.mp ha)
  rw [← equal_shares_iff hpos, ← hlength]
  refine forall₂_congr (fun a ha => ?_)
  rw [received_eq_iff s hring hash now a (Nat.div_le_self 1000 _), count_nodes_ring]

def asListed : Order := ⟨id, fun _ => .refl _⟩

def threeSockets : NodeRegistry :=
  ((NodeRegistry.empty.register "n" (.v4 ⟨1, 2, 3, 4⟩ 80)).register "n" (.v4 ⟨5, 6, 7, 8⟩ 80)).register "m"
    (.v4 ⟨9, 9, 9, 9⟩ 80)

def fourSockets : NodeRegistry := threeSockets.register "m" (.v4 ⟨9, 9, 9, 10⟩ 80)

theorem equal_rewards_fourSockets :
    let after := lockWitnessRing start (getWitnessRingFromRegistry asListed 0 fourSockets)
      (Vector.replicate 32 0) 0
    received start.balances after.balances "n" = 500 ∧ received start.balances after.balances "m" = 500 := by
  have h := (equal_rewards_iff fourSockets asListed 0 (by decide) start (Vector.replicate 32 0) 0).mpr
    (Or.inr ⟨2, by decide, by decide⟩)
  exact ⟨h "n" (by decide), h "m" (by decide)⟩

theorem second_socket_doubles_reward :
    ¬ ∀ (reg : NodeRegistry) (order : Order) (firstSeen : Clock) (s : State) (hash : Rust.Digest)
      (now : UInt64), ∀ a ∈ (nodes (getWitnessRingFromRegistry order firstSeen reg)).toFinset,
      received s.balances
        (lockWitnessRing s (getWitnessRingFromRegistry order firstSeen reg) hash now).balances a =
        UInt64.ofNat (1000 / (nodes (getWitnessRingFromRegistry order firstSeen reg)).toFinset.card) := by
  intro h
  have hn := h threeSockets asListed 0 start (Vector.replicate 32 0) 0 "n" (by decide)
  revert hn
  decide

end Shares

end ZzP2p.Witness
