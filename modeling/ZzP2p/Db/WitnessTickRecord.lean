import ZzP2p.Lib.Table

/-! The tick records of the witnesses: one row for each epoch and address, found before it is changed,
with a counter of eight bits. -/

namespace ZzP2p.Db.WitnessTickRecord

open Lib

structure Columns where
  epoch : Int64
  address : String
  tickCount : UInt8
  updatedAt : Int64
deriving DecidableEq

abbrev TickTable := Table Columns

def incrementTick (now : Int64) (t : TickTable) (epoch : Int64) (address : String) : TickTable :=
  match t.find? (fun r => r.epoch == epoch && r.address == address) with
  | some existing => t.update existing.1 (fun r =>
      { r with
        tickCount := existing.2.tickCount + 1
        updatedAt := now })
  | none => t.insert ⟨epoch, address, 1, now⟩

/-- an order of the rows by descending count; the database is free in the order of equal counts -/
structure Descending where
  arrange : List Columns → List Columns
  perm : ∀ rows, (arrange rows).Perm rows
  sorted : ∀ rows, (arrange rows).Pairwise (fun q r => r.tickCount ≤ q.tickCount)

def ofEpoch (t : TickTable) (epoch : Int64) : List Columns := t.values.filter (fun r => r.epoch = epoch)

def getEpochRecords (order : Descending) (t : TickTable) (epoch : Int64) : List Columns :=
  order.arrange (ofEpoch t epoch)

def getMaxTickCount (order : Descending) (t : TickTable) (epoch : Int64) : UInt8 :=
  ((order.arrange (ofEpoch t epoch)).head?.map Columns.tickCount).getD 0

def getFullTimeAddresses (t : TickTable) (epoch : Int64) (threshold : UInt8) : List String :=
  ((ofEpoch t epoch).filter (fun r => threshold ≤ r.tickCount)).map Columns.address

structure Call where
  now : Int64
  epoch : Int64
  address : String
deriving DecidableEq

def call (t : TickTable) (c : Call) : TickTable := incrementTick c.now t c.epoch c.address

def ticks (calls : List Call) (epoch : Int64) (address : String) : ℕ :=
  calls.countP (fun c => c.epoch = epoch ∧ c.address = address)

structure CountsTicks (order : Descending) (calls : List Call) (t : TickTable) (epoch : Int64) : Prop where
  one_each : ((getEpochRecords order t epoch).map Columns.address).Nodup
  addresses : ∀ a, a ∈ (getEpochRecords order t epoch).map Columns.address ↔ 0 < ticks calls epoch a
  sorted : (getEpochRecords order t epoch).Pairwise (fun q r => r.tickCount ≤ q.tickCount)
  counts : ∀ r ∈ getEpochRecords order t epoch, r.tickCount.toNat = ticks calls epoch r.address
  max : (getMaxTickCount order t epoch).toNat =
    ((getEpochRecords order t epoch).map Columns.address).toFinset.sup (ticks calls epoch)
  full_once : ∀ threshold, (getFullTimeAddresses t epoch threshold).Nodup
  full : ∀ threshold a, a ∈ getFullTimeAddresses t epoch threshold ↔
    0 < ticks calls epoch a ∧ threshold.toNat ≤ ticks calls epoch a

def key (r : Columns) : Int64 × String := (r.epoch, r.address)

/-- what a run keeps: the counters hold the numbers of the calls modulo `2 ^ 8` -/
structure Inv (calls : List Call) (t : TickTable) : Prop where
  distinct : (t.values.map key).Nodup
  present : ∀ epoch a, (epoch, a) ∈ t.values.map key ↔ 0 < ticks calls epoch a
  count : ∀ r ∈ t.values, r.tickCount = UInt8.ofNat (ticks calls r.epoch r.address)

variable {calls : List Call} {t : TickTable} {c : Call} {order : Descending} {epoch : Int64}

lemma ticks_concat (calls : List Call) (c : Call) (epoch : Int64) (a : String) :
    ticks (calls ++ [c]) epoch a =
      ticks calls epoch a + if (c.epoch, c.address) = (epoch, a) then 1 else 0 := by
  rw [ticks, List.countP_append, ← ticks, List.countP_singleton]
  simp

lemma ticks_replicate (n : ℕ) (c : Call) : ticks (List.replicate n c) c.epoch c.address = n := by
  rw [ticks, List.countP_replicate]
  simp

lemma call_cases (t : TickTable) (c : Call) :
    ((∀ r ∈ t.values, key r ≠ (c.epoch, c.address)) ∧
      (call t c).values = t.values ++ [⟨c.epoch, c.address, 1, c.now⟩]) ∨
    ∃ l₁ r l₂, key r = (c.epoch, c.address) ∧ t.values = l₁ ++ r :: l₂ ∧
      (call t c).values = l₁ ++ { r with tickCount := r.tickCount + 1, updatedAt := c.now } :: l₂ := by
  cases hf : t.find? (fun r => r.epoch == c.epoch && r.address == c.address) with
  | none =>
    left
    refine ⟨fun r hr hk => ?_, by simp [call, incrementTick, hf]⟩
    have hno := Table.find?_eq_none hf r hr
    simp only [key, Prod.mk.injEq] at hk
    simp [hk] at hno
  | some existing =>
    right
    obtain ⟨hr, hk⟩ := Table.find?_eq_some hf
    obtain ⟨l₁, l₂, hl, hu⟩ := Table.update_split hr (fun r =>
      { r with tickCount := existing.2.tickCount + 1, updatedAt := c.now })
    refine ⟨l₁, existing.2, l₂, ?_, hl, ?_⟩
    · simpa [key] using hk
    · rw [call, incrementTick, hf]
      exact hu

lemma Inv.empty : Inv [] Table.empty := ⟨by simp, by simp [ticks], by simp⟩

lemma Inv.ticks_eq_zero (h : Inv calls t) {a : String} (hno : ∀ r ∈ t.values, key r ≠ (epoch, a)) :
    ticks calls epoch a = 0 := by
  by_contra hne
  obtain ⟨r, hr, hk⟩ := List.mem_map.mp ((h.present epoch a).mpr (Nat.pos_of_ne_zero hne))
  exact hno r hr hk

lemma Inv.count_of_ne (h : Inv calls t) {r : Columns} (hr : r ∈ t.values)
    (hk : key r ≠ (c.epoch, c.address)) :
    r.tickCount = UInt8.ofNat (ticks (calls ++ [c]) r.epoch r.address) := by
  rw [ticks_concat, if_neg (fun he => hk he.symm), Nat.add_zero]
  exact h.count r hr

lemma Inv.call_new (h : Inv calls t) (hno : ∀ r ∈ t.values, key r ≠ (c.epoch, c.address))
    (hv : (call t c).values = t.values ++ [⟨c.epoch, c.address, 1, c.now⟩]) :
    Inv (calls ++ [c]) (call t c) := by
  have hkeys : (call t c).values.map key = t.values.map key ++ [(c.epoch, c.address)] := by
    simp [hv, key]
  constructor
  · rw [hkeys, List.nodup_append_comm, List.singleton_append, List.nodup_cons]
    refine ⟨fun hmem => ?_, h.distinct⟩
    obtain ⟨r, hr, hk⟩ := List.mem_map.mp hmem
    exact hno r hr hk
  · intro epoch a
    rw [hkeys, List.mem_append, List.mem_singleton, h.present, ticks_concat]
    split
    case isTrue he => simp [he]
    case isFalse hne => simp [Ne.symm hne]
  · intro r hr
    rw [hv, List.mem_append, List.mem_singleton] at hr
    rcases hr with hr | rfl
    · exact h.count_of_ne hr (hno r hr)
    · rw [ticks_concat, if_pos rfl, h.ticks_eq_zero hno]
      rfl

lemma Inv.call_again (h : Inv calls t) {l₁ l₂ : List Columns} {r : Columns}
    (hk : key r = (c.epoch, c.address)) (ht : t.values = l₁ ++ r :: l₂)
    (hv : (call t c).values = l₁ ++ { r with tickCount := r.tickCount + 1, updatedAt := c.now } :: l₂) :
    Inv (calls ++ [c]) (call t c) := by
  have hkeys : (call t c).values.map key = t.values.map key := by
    simp [hv, ht, key]
  have hr : r ∈ t.values := by simp [ht]
  -- the keys of the other rows differ from the key of the row that is changed
  have hother : ∀ q, q ∈ l₁ ∨ q ∈ l₂ → key q ≠ (c.epoch, c.address) := by
    have hd := h.distinct
    rw [ht, List.map_append, List.map_cons, List.nodup_middle, List.nodup_cons, hk,
      ← List.map_append] at hd
    intro q hq he
    exact hd.1 (List.mem_map.mpr ⟨q, List.mem_append.mpr hq, he⟩)
  constructor
  · rw [hkeys]
    exact h.distinct
  · intro epoch a
    rw [hkeys, h.present, ticks_concat]
    split
    case isTrue he =>
      have hpos : 0 < ticks calls epoch a := (h.present epoch a).mp (he ▸ hk ▸ List.mem_map_of_mem hr)
      omega
    case isFalse => rw [Nat.add_zero]
  · intro q hq
    rw [hv, List.mem_append, List.mem_cons] at hq
    rcases hq with hq | rfl | hq
    · exact h.count_of_ne (by simp [ht, hq]) (hother q (.inl hq))
    · have hk' : (c.epoch, c.address) = (r.epoch, r.address) := hk.symm
      have hone : ticks (calls ++ [c]) r.epoch r.address = ticks calls r.epoch r.address + 1 := by
        rw [ticks_concat, if_pos hk']
      simp only [hone, UInt8.ofNat_add, ← h.count r hr]
      rfl
    · exact h.count_of_ne (by simp [ht, hq]) (hother q (.inr hq))

lemma Inv.call (h : Inv calls t) (c : Call) : Inv (calls ++ [c]) (call t c) := by
  rcases call_cases t c with ⟨hno, hv⟩ | ⟨l₁, r, l₂, hk, ht, hv⟩
  · exact h.call_new hno hv
  · exact h.call_again hk ht hv

lemma inv_run (calls : List Call) : Inv calls (calls.foldl WitnessTickRecord.call Table.empty) := by
  induction calls using List.reverseRecOn with
  | nil => exact Inv.empty
  | append_singleton calls c ih =>
    rw [List.foldl_concat]
    exact ih.call c

section reads

lemma mem_ofEpoch {r : Columns} : r ∈ ofEpoch t epoch ↔ r ∈ t.values ∧ r.epoch = epoch := by
  simp [ofEpoch]

lemma mem_getEpochRecords {r : Columns} :
    r ∈ getEpochRecords order t epoch ↔ r ∈ t.values ∧ r.epoch = epoch :=
  (order.perm _).mem_iff.trans mem_ofEpoch

lemma mem_addresses {a : String} :
    a ∈ (getEpochRecords order t epoch).map Columns.address ↔ (epoch, a) ∈ t.values.map key := by
  simp only [List.mem_map, mem_getEpochRecords, key, Prod.mk.injEq]
  constructor
  · rintro ⟨r, ⟨hr, he⟩, ha⟩
    exact ⟨r, hr, he, ha⟩
  · rintro ⟨r, hr, he, ha⟩
    exact ⟨r, ⟨hr, he⟩, ha⟩

lemma Inv.nodup_ofEpoch (h : Inv calls t) (epoch : Int64) :
    ((ofEpoch t epoch).map Columns.address).Nodup := by
  have hkeys : ((ofEpoch t epoch).map Columns.address).map (fun a => (epoch, a)) =
      (ofEpoch t epoch).map key := by
    rw [List.map_map]
    refine List.map_congr_left (fun r hr => ?_)
    rw [Function.comp_apply, key, (mem_ofEpoch.mp hr).2]
  have hd : ((ofEpoch t epoch).map key).Nodup :=
    h.distinct.sublist (List.filter_sublist.map key)
  rw [← hkeys] at hd
  exact hd.of_map

lemma Inv.toNat_tickCount (h : Inv calls t) (hlt : ∀ a, ticks calls epoch a < 256) {r : Columns}
    (hr : r ∈ t.values) (he : r.epoch = epoch) : r.tickCount.toNat = ticks calls epoch r.address := by
  rw [h.count r hr, he, UInt8.toNat_ofNat']
  exact Nat.mod_eq_of_lt (hlt r.address)

lemma Inv.toNat_getEpochRecords (h : Inv calls t) (hlt : ∀ a, ticks calls epoch a < 256) :
    ∀ r ∈ getEpochRecords order t epoch, r.tickCount.toNat = ticks calls epoch r.address := by
  intro r hr
  obtain ⟨hr, he⟩ := mem_getEpochRecords.mp hr
  exact h.toNat_tickCount hlt hr he

lemma head_count_eq_sup (f : String → ℕ) {rows : List Columns}
    (hsort : rows.Pairwise (fun q r => r.tickCount ≤ q.tickCount))
    (hf : ∀ r ∈ rows, r.tickCount.toNat = f r.address) :
    ((rows.head?.map Columns.tickCount).getD 0).toNat = (rows.map Columns.address).toFinset.sup f := by
  cases rows with
  | nil => rfl
  | cons q rows =>
    rw [List.pairwise_cons] at hsort
    have hq := hf q List.mem_cons_self
    refine le_antisymm ?_ (Finset.sup_le fun a ha => ?_)
    · simp only [List.head?_cons, Option.map_some, Option.getD_some, hq]
      exact Finset.le_sup (by simp)
    · obtain ⟨r, hr, rfl⟩ := List.mem_map.mp (List.mem_toFinset.mp ha)
      simp only [List.head?_cons, Option.map_some, Option.getD_some, ← hf r hr]
      rcases List.mem_cons.mp hr with rfl | hr
      · exact le_rfl
      · exact UInt8.le_iff_toNat_le.mp (hsort.1 r hr)

lemma Inv.mem_getFullTimeAddresses (h : Inv calls t) (hlt : ∀ a, ticks calls epoch a < 256)
    {threshold : UInt8} {a : String} : a ∈ getFullTimeAddresses t epoch threshold ↔
      0 < ticks calls epoch a ∧ threshold.toNat ≤ ticks calls epoch a := by
  simp only [getFullTimeAddresses, List.mem_map, List.mem_filter, mem_ofEpoch, decide_eq_true_eq,
    UInt8.le_iff_toNat_le, ← h.present]
  constructor
  · rintro ⟨r, ⟨⟨hr, he⟩, hle⟩, rfl⟩
    exact ⟨⟨r, hr, by rw [key, he]⟩, h.toNat_tickCount hlt hr he ▸ hle⟩
  · rintro ⟨⟨r, hr, hk⟩, hle⟩
    obtain ⟨he, rfl⟩ := Prod.mk.inj hk
    exact ⟨r, ⟨⟨hr, he⟩, (h.toNat_tickCount hlt hr he).symm ▸ hle⟩, rfl⟩

lemma Inv.countsTicks (h : Inv calls t) (hlt : ∀ a, ticks calls epoch a < 256) :
    CountsTicks order calls t epoch where
  one_each := ((order.perm _).map Columns.address).nodup_iff.mpr (h.nodup_ofEpoch epoch)
  addresses a := mem_addresses.trans (h.present epoch a)
  sorted := order.sorted _
  counts := h.toNat_getEpochRecords hlt
  max := head_count_eq_sup _ (order.sorted _) (h.toNat_getEpochRecords hlt)
  full_once _ := (h.nodup_ofEpoch epoch).sublist (List.filter_sublist.map Columns.address)
  full _ _ := h.mem_getFullTimeAddresses hlt

lemma CountsTicks.ticks_lt (h : CountsTicks order calls t epoch) (a : String) :
    ticks calls epoch a < 256 := by
  rcases Nat.eq_zero_or_pos (ticks calls epoch a) with hz | hpos
  · omega
  · obtain ⟨r, hr, rfl⟩ := List.mem_map.mp ((h.addresses a).mpr hpos)
    rw [← h.counts r hr]
    exact r.tickCount.toNat_lt

end reads

theorem tick_records_iff (order : Descending) (calls : List Call) (epoch : Int64) :
    CountsTicks order calls (calls.foldl call Table.empty) epoch ↔ ∀ a, ticks calls epoch a < 256 :=
  ⟨CountsTicks.ticks_lt, (inv_run calls).countsTicks⟩

def byCount : Descending where
  arrange := List.insertionSort (fun q r => r.tickCount ≤ q.tickCount)
  perm := List.perm_insertionSort _
  sorted := List.pairwise_insertionSort _

theorem count_wraps_around :
    let calls := List.replicate 256 (⟨0, 1, "n"⟩ : Call)
    let t := calls.foldl call Table.empty
    ticks calls 1 "n" = 256 ∧
    (∃ r ∈ getEpochRecords byCount t 1, r.address = "n" ∧ r.tickCount = 0) ∧
    ¬ CountsTicks byCount calls t 1 := by
  intro calls t
  have h : Inv calls t := inv_run calls
  have hticks : ticks calls 1 "n" = 256 := ticks_replicate 256 ⟨0, 1, "n"⟩
  refine ⟨hticks, ?_, fun hc => ?_⟩
  · obtain ⟨r, hr, hk⟩ := List.mem_map.mp ((h.present 1 "n").mpr (by omega))
    obtain ⟨he, ha⟩ := Prod.mk.inj hk
    refine ⟨r, mem_getEpochRecords.mpr ⟨hr, he⟩, ha, ?_⟩
    rw [h.count r hr, he, ha, hticks]
    rfl
  · have hlt := hc.ticks_lt "n"
    omega

end ZzP2p.Db.WitnessTickRecord
