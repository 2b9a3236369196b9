import ZzP2p.Rust.Net

/-! Records of the endpoints that were tried, with the periods in which they answered. A record is
taken out of a set keyed by its endpoint, changed and put back. Times are counted in nanoseconds. -/

namespace ZzP2p.Record

open Rust

inductive Protocol
  | http | tcp
deriving DecidableEq

structure NodeRecord where
  endpoint : SocketAddr
  protocols : List Protocol
  firstSeen : ℤ
  lastSeen : ℤ
  periods : List (ℤ × ℤ)
  tries : UInt64 × UInt64
  isAvailable : Bool
deriving DecidableEq

/-- The clock is read up to four times in a call. A reading that is not made stands between its
neighbours. -/
structure Call where
  endpoint : SocketAddr
  success : Bool
  lookedUp : ℤ
  created : ℤ
  now : ℤ
  nowAgain : ℤ
deriving DecidableEq

def Call.readings (c : Call) : List ℤ := [c.lookedUp, c.created, c.now, c.nowAgain]

def second : ℤ := 1000000000

def minute : ℤ := 60 * second

def numSeconds (d : ℤ) : ℤ := d.tdiv second

def numMinutes (d : ℤ) : ℤ := (numSeconds d).tdiv 60

namespace NodeRecord

def new (endpoint : SocketAddr) (now : ℤ) : NodeRecord where
  endpoint := endpoint
  protocols := [.http, .tcp]
  firstSeen := now
  lastSeen := now
  tries := (0, 0)
  periods := []
  isAvailable := true

def updatePeriods (periods : List (ℤ × ℤ)) (now : ℤ) : List (ℤ × ℤ) :=
  match periods.getLast? with
  | some last =>
    if numMinutes (now - last.2) < 60 then periods.dropLast ++ [(last.1, now)] else periods ++ [(now, now)]
  | none => periods ++ [(now, now)]

def updateStatus (r : NodeRecord) (success : Bool) (now nowAgain : ℤ) : NodeRecord :=
  let r := { r with lastSeen := if success then nowAgain else r.lastSeen }
  if success then
    { r with
      lastSeen := now
      tries := (r.tries.1 + 1, r.tries.2)
      isAvailable := true
      periods := updatePeriods r.periods now }
  else { r with tries := (r.tries.1, r.tries.2 + 1) }

end NodeRecord

/-- a set of records that are equal when their endpoints are -/
structure NodeRegistry where
  nodes : List NodeRecord
  nodup : (nodes.map NodeRecord.endpoint).Nodup

namespace NodeRegistry

def empty : NodeRegistry := ⟨[], List.nodup_nil⟩

def take (reg : NodeRegistry) (key : NodeRecord) : Option NodeRecord × NodeRegistry :=
  (reg.nodes.find? (fun r => r.endpoint = key.endpoint),
    ⟨reg.nodes.filter (fun r => r.endpoint ≠ key.endpoint), reg.nodup.sublist (List.filter_sublist.map _)⟩)

def insert (reg : NodeRegistry) (record : NodeRecord) : NodeRegistry :=
  if h : record.endpoint ∈ reg.nodes.map NodeRecord.endpoint then reg
  else ⟨reg.nodes ++ [record], by
    rw [List.map_append, List.map_singleton, ← List.concat_eq_append]
    exact reg.nodup.concat h⟩

def upsert (reg : NodeRegistry) (c : Call) : NodeRegistry :=
  let (taken, rest) := reg.take (.new c.endpoint c.lookedUp)
  let record := taken.getD (.new c.endpoint c.created)
  rest.insert (record.updateStatus c.success c.now c.nowAgain)

end NodeRegistry

open NodeRecord NodeRegistry

variable {r : NodeRecord} {reg : NodeRegistry} {c : Call} {own calls : List Call} {now : ℤ}

lemma tdiv_nonpos {a b : ℤ} (ha : a ≤ 0) (hb : 0 ≤ b) : a.tdiv b ≤ 0 := by
  have hneg := Int.tdiv_nonneg (neg_nonneg.mpr ha) hb
  rw [Int.neg_tdiv] at hneg
  omega

lemma numMinutes_lt_iff (d : ℤ) : numMinutes d < 60 ↔ d < 60 * minute := by
  rcases lt_or_ge d 0 with hneg | hpos
  · have hseconds : numSeconds d ≤ 0 := tdiv_nonpos hneg.le (by decide)
    have hminutes : numMinutes d ≤ 0 := tdiv_nonpos hseconds (by decide)
    rw [minute, second]
    omega
  · have hseconds : numSeconds d = d / second := Int.tdiv_eq_ediv_of_nonneg hpos
    have hnonneg : 0 ≤ d / second := Int.ediv_nonneg hpos (by decide)
    rw [numMinutes, hseconds, Int.tdiv_eq_ediv_of_nonneg hnonneg, minute, second]
    omega

/-- What a record says of the calls for its endpoint, in their order. -/
structure Summary (r : NodeRecord) (own : List Call) : Prop where
  tries : r.tries =
    (UInt64.ofNat (own.countP (fun c => c.success)), UInt64.ofNat (own.countP (fun c => !c.success)))
  ordered : ∀ p ∈ r.periods, p.1 ≤ p.2
  separated : r.periods.Pairwise (fun p q => p.2 + 60 * minute ≤ q.1)
  covered : ∀ c ∈ own, c.success → ∃ p ∈ r.periods, p.1 ≤ c.now ∧ c.now ≤ p.2
  ended : ∀ p ∈ r.periods, ∃ c ∈ own, p.2 = c.now
  last_seen : r.lastSeen = ((own.filter (fun c => c.success)).getLast?.map Call.now).getD r.firstSeen

lemma updatePeriods_cases (periods : List (ℤ × ℤ)) (now : ℤ) :
    (∃ init last, periods = init ++ [last] ∧ updatePeriods periods now = init ++ [(last.1, now)]) ∨
    ((∀ init last, periods = init ++ [last] → last.2 + 60 * minute ≤ now) ∧
      updatePeriods periods now = periods ++ [(now, now)]) := by
  rcases List.eq_nil_or_concat periods with rfl | ⟨init, last, rfl⟩
  · exact Or.inr ⟨by simp, rfl⟩
  · rw [List.concat_eq_append]
    by_cases hshort : numMinutes (now - last.2) < 60
    · exact Or.inl ⟨init, last, rfl, by simp [updatePeriods, hshort]⟩
    · refine Or.inr ⟨?_, by simp [updatePeriods, hshort]⟩
      intro init' last' he
      obtain ⟨-, hlast⟩ := List.append_inj' he rfl
      obtain rfl : last = last' := by simpa using hlast
      rw [numMinutes_lt_iff] at hshort
      omega

lemma updatePeriods_spec {periods : List (ℤ × ℤ)} (ho : ∀ p ∈ periods, p.1 ≤ p.2)
    (hs : periods.Pairwise (fun p q => p.2 + 60 * minute ≤ q.1)) (hnow : ∀ p ∈ periods, p.2 ≤ now) :
    ∃ init start, updatePeriods periods now = init ++ [(start, now)] ∧ start ≤ now ∧ init <+: periods ∧
      (∀ p ∈ init, p.2 + 60 * minute ≤ start) ∧ ∀ p ∈ periods, p ∈ init ∨ p.1 = start := by
  rcases updatePeriods_cases periods now with ⟨init, last, rfl, he⟩ | ⟨hfar, he⟩
  · have hlast : last.1 ≤ now := (ho last (by simp)).trans (hnow last (by simp))
    refine ⟨init, last.1, he, hlast, List.prefix_append _ _, ?_, ?_⟩
    · intro p hp
      exact (List.pairwise_append.mp hs).2.2 p hp last (List.mem_singleton_self _)
    · intro p hp
      rcases List.mem_append.mp hp with hp | hp
      · exact Or.inl hp
      · exact Or.inr (by rw [List.mem_singleton.mp hp])
  · refine ⟨periods, now, he, le_rfl, List.prefix_rfl, ?_, fun p hp => Or.inl hp⟩
    rcases List.eq_nil_or_concat periods with rfl | ⟨init, last, rfl⟩
    · simp
    · rw [List.concat_eq_append] at hs ho hfar ⊢
      have hend := hfar init last rfl
      intro p hp
      rcases List.mem_append.mp hp with hin | hin
      · have hstart := (List.pairwise_append.mp hs).2.2 p hin last (List.mem_singleton_self _)
        have hlast := ho last (by simp)
        rw [minute, second] at *
        omega
      · rw [List.mem_singleton.mp hin]
        exact hend

lemma summary_new (endpoint : SocketAddr) (created : ℤ) : Summary (.new endpoint created) [] :=
  ⟨rfl, by simp [NodeRecord.new], .nil, by simp, by simp [NodeRecord.new], rfl⟩

lemma Summary.failed (h : Summary r own) (hc : c.success = false) :
    Summary (r.updateStatus false c.now c.nowAgain) (own ++ [c]) where
  tries := by
    simp [updateStatus, h.tries, List.countP_append, hc]
  ordered := h.ordered
  separated := h.separated
  covered := by
    intro c' hc' hsuccess
    rcases List.mem_append.mp hc' with hin | hin
    · exact h.covered c' hin hsuccess
    · rw [List.mem_singleton.mp hin, hc] at hsuccess
      exact absurd hsuccess Bool.false_ne_true
  ended := by
    intro p hp
    obtain ⟨c', hc', he⟩ := h.ended p hp
    exact ⟨c', List.mem_append_left _ hc', he⟩
  last_seen := by
    rw [List.filter_append, List.filter_cons_of_neg (by simp [hc]), List.filter_nil, List.append_nil]
    exact h.last_seen

lemma Summary.succeeded (h : Summary r own) (hc : c.success = true) (hclock : ∀ c' ∈ own, c'.now ≤ c.now) :
    Summary (r.updateStatus true c.now c.nowAgain) (own ++ [c]) := by
  have hnow : ∀ p ∈ r.periods, p.2 ≤ c.now := by
    intro p hp
    obtain ⟨c', hc', he⟩ := h.ended p hp
    exact he ▸ hclock c' hc'
  -- whether it was made longer or pushed, the last period now ends at the call
  obtain ⟨init, start, he, hstart, hinit, hgap, hkept⟩ := updatePeriods_spec h.ordered h.separated hnow
  have hperiods : (r.updateStatus true c.now c.nowAgain).periods = init ++ [(start, c.now)] := he
  constructor
  · simp [updateStatus, h.tries, List.countP_append, hc]
  · rw [hperiods]
    intro p hp
    rcases List.mem_append.mp hp with hp | hp
    · exact h.ordered p (hinit.subset hp)
    · rw [List.mem_singleton.mp hp]
      exact hstart
  · rw [hperiods]
    refine List.pairwise_append.mpr ⟨h.separated.sublist hinit.sublist, List.pairwise_singleton _ _, ?_⟩
    intro p hp q hq
    rw [List.mem_singleton.mp hq]
    exact hgap p hp
  · rw [hperiods]
    intro c' hc' hsuccess
    rcases List.mem_append.mp hc' with hin | hin
    · obtain ⟨p, hp, hfrom, hto⟩ := h.covered c' hin hsuccess
      rcases hkept p hp with hp | hp
      · exact ⟨p, List.mem_append_left _ hp, hfrom, hto⟩
      · exact ⟨(start, c.now), by simp, hp ▸ hfrom, hclock c' hin⟩
    · rw [List.mem_singleton.mp hin]
      exact ⟨(start, c.now), by simp, hstart, le_rfl⟩
  · rw [hperiods]
    intro p hp
    rcases List.mem_append.mp hp with hp | hp
    · obtain ⟨c', hc', he⟩ := h.ended p (hinit.subset hp)
      exact ⟨c', List.mem_append_left _ hc', he⟩
    · exact ⟨c, by simp, by rw [List.mem_singleton.mp hp]⟩
  · rw [List.filter_append, List.filter_cons_of_pos (by simp [hc]), List.filter_nil, List.getLast?_concat]
    rfl

lemma Summary.update (h : Summary r own) (hclock : ∀ c' ∈ own, c'.now ≤ c.now) :
    Summary (r.updateStatus c.success c.now c.nowAgain) (own ++ [c]) := by
  cases hc : c.success with
  | false => exact h.failed hc
  | true => exact h.succeeded hc hclock

@[simp] lemma endpoint_updateStatus (success : Bool) (now nowAgain : ℤ) :
    (r.updateStatus success now nowAgain).endpoint = r.endpoint := by
  cases success <;> rfl

@[simp] lemma firstSeen_updateStatus (success : Bool) (now nowAgain : ℤ) :
    (r.updateStatus success now nowAgain).firstSeen = r.firstSeen := by
  cases success <;> rfl

def found (reg : NodeRegistry) (c : Call) : NodeRecord :=
  (reg.nodes.find? (fun r => r.endpoint = c.endpoint)).getD (.new c.endpoint c.created)

lemma found_cases (reg : NodeRegistry) (c : Call) :
    (found reg c ∈ reg.nodes ∧ (found reg c).endpoint = c.endpoint) ∨
    (c.endpoint ∉ reg.nodes.map NodeRecord.endpoint ∧ found reg c = .new c.endpoint c.created) := by
  rw [found]
  cases hf : reg.nodes.find? (fun r => r.endpoint = c.endpoint) with
  | some r => exact Or.inl ⟨List.mem_of_find?_eq_some hf, by simpa using List.find?_some hf⟩
  | none =>
    refine Or.inr ⟨?_, rfl⟩
    intro hmem
    obtain ⟨r, hr, he⟩ := List.mem_map.mp hmem
    exact List.find?_eq_none.mp hf r hr (by simpa using he)

lemma endpoint_found (reg : NodeRegistry) (c : Call) : (found reg c).endpoint = c.endpoint := by
  rcases found_cases reg c with ⟨-, h⟩ | ⟨-, h⟩
  · exact h
  · rw [h]
    rfl

lemma mem_take {key : NodeRecord} : r ∈ (reg.take key).2.nodes ↔ r ∈ reg.nodes ∧ r.endpoint ≠ key.endpoint := by
  simp [NodeRegistry.take]

lemma mem_upsert : r ∈ (reg.upsert c).nodes ↔
    (r ∈ reg.nodes ∧ r.endpoint ≠ c.endpoint) ∨
      r = (found reg c).updateStatus c.success c.now c.nowAgain := by
  have habsent : ((found reg c).updateStatus c.success c.now c.nowAgain).endpoint ∉
      (reg.take (.new c.endpoint c.lookedUp)).2.nodes.map NodeRecord.endpoint := by
    rw [endpoint_updateStatus, endpoint_found, List.mem_map]
    rintro ⟨r, hr, he⟩
    exact (mem_take.mp hr).2 he
  have hinsert : (reg.upsert c).nodes = (reg.take (.new c.endpoint c.lookedUp)).2.nodes ++
      [(found reg c).updateStatus c.success c.now c.nowAgain] := by
    change ((reg.take (.new c.endpoint c.lookedUp)).2.insert
      ((found reg c).updateStatus c.success c.now c.nowAgain)).nodes = _
    rw [NodeRegistry.insert, dif_neg habsent]
  rw [hinsert, List.mem_append, List.mem_singleton, mem_take]
  rfl

def ownCalls (endpoint : SocketAddr) (calls : List Call) : List Call :=
  calls.filter (fun c => c.endpoint = endpoint)

/-- one record for each endpoint that was used, made by its first call -/
structure Recorded (reg : NodeRegistry) (calls : List Call) : Prop where
  one_each : ∀ e, (reg.nodes.map NodeRecord.endpoint).count e = if e ∈ calls.map Call.endpoint then 1 else 0
  created : ∀ r ∈ reg.nodes, (ownCalls r.endpoint calls).head?.map Call.created = some r.firstSeen
  summary : ∀ r ∈ reg.nodes, Summary r (ownCalls r.endpoint calls)

lemma mem_endpoints_upsert {e : SocketAddr} : e ∈ (reg.upsert c).nodes.map NodeRecord.endpoint ↔
    e ∈ reg.nodes.map NodeRecord.endpoint ∨ e = c.endpoint := by
  simp only [List.mem_map, mem_upsert]
  constructor
  · rintro ⟨r, ⟨hr, -⟩ | rfl, rfl⟩
    · exact Or.inl ⟨r, hr, rfl⟩
    · exact Or.inr (by rw [endpoint_updateStatus, endpoint_found])
  · intro h
    by_cases he : e = c.endpoint
    · exact ⟨_, Or.inr rfl, by rw [endpoint_updateStatus, endpoint_found, he]⟩
    · obtain ⟨r, hr, rfl⟩ := h.resolve_right he
      exact ⟨r, Or.inl ⟨hr, he⟩, rfl⟩

lemma count_endpoints (reg : NodeRegistry) (e : SocketAddr) : (reg.nodes.map NodeRecord.endpoint).count e =
    if e ∈ reg.nodes.map NodeRecord.endpoint then 1 else 0 :=
  reg.nodup.count

lemma Recorded.mem_iff (h : Recorded reg calls) {e : SocketAddr} :
    e ∈ reg.nodes.map NodeRecord.endpoint ↔ e ∈ calls.map Call.endpoint := by
  have hcount := h.one_each e
  rw [count_endpoints] at hcount
  constructor
  · intro hr
    by_contra hc
    rw [if_pos hr, if_neg hc] at hcount
    exact one_ne_zero hcount
  · intro hc
    by_contra hr
    rw [if_neg hr, if_pos hc] at hcount
    exact zero_ne_one hcount

lemma ownCalls_concat_of_ne {e : SocketAddr} (h : e ≠ c.endpoint) :
    ownCalls e (calls ++ [c]) = ownCalls e calls := by
  simp [ownCalls, List.filter_append, Ne.symm h]

lemma ownCalls_concat_self : ownCalls c.endpoint (calls ++ [c]) = ownCalls c.endpoint calls ++ [c] := by
  simp [ownCalls, List.filter_append]

lemma ownCalls_eq_nil {e : SocketAddr} (h : e ∉ calls.map Call.endpoint) : ownCalls e calls = [] := by
  refine List.filter_eq_nil_iff.mpr (fun c hc => ?_)
  simpa using fun he => h (List.mem_map.mpr ⟨c, hc, he⟩)

lemma Recorded.upsert (h : Recorded reg calls) (hclock : ∀ c' ∈ calls, c'.now ≤ c.now) :
    Recorded (reg.upsert c) (calls ++ [c]) := by
  have hclock' : ∀ c' ∈ ownCalls c.endpoint calls, c'.now ≤ c.now :=
    fun c' hc' => hclock c' (List.mem_of_mem_filter hc')
  constructor
  · intro e
    rw [count_endpoints]
    simp only [mem_endpoints_upsert, h.mem_iff, List.map_append, List.map_singleton, List.mem_append,
      List.mem_singleton]
  · intro r hr
    rcases mem_upsert.mp hr with ⟨hr, hne⟩ | rfl
    · rw [ownCalls_concat_of_ne hne]
      exact h.created r hr
    · rw [endpoint_updateStatus, firstSeen_updateStatus, endpoint_found, ownCalls_concat_self]
      rcases found_cases reg c with ⟨hmem, he⟩ | ⟨hnew, he⟩
      · have hfirst := h.created _ hmem
        rw [he] at hfirst
        cases hown : ownCalls c.endpoint calls with
        | nil => simp [hown] at hfirst
        | cons first rest => simpa [hown] using hfirst
      · rw [ownCalls_eq_nil (mt h.mem_iff.mpr hnew), he]
        rfl
  · intro r hr
    rcases mem_upsert.mp hr with ⟨hr, hne⟩ | rfl
    · rw [ownCalls_concat_of_ne hne]
      exact h.summary r hr
    · rw [endpoint_updateStatus, endpoint_found, ownCalls_concat_self]
      rcases found_cases reg c with ⟨hmem, he⟩ | ⟨hnew, he⟩
      · have hsum := h.summary _ hmem
        rw [he] at hsum
        exact hsum.update hclock'
      · rw [ownCalls_eq_nil (mt h.mem_iff.mpr hnew), he]
        exact (summary_new _ _).update (by simp)

theorem activity_periods (calls : List Call) (hclock : (calls.flatMap Call.readings).Pairwise (· ≤ ·)) :
    Recorded (calls.foldl upsert empty) calls := by
  induction calls using List.reverseRecOn with
  | nil => exact ⟨fun _ => rfl, by simp [empty], by simp [empty]⟩
  | append_singleton calls c ih =>
    rw [List.flatMap_append, List.pairwise_append] at hclock
    rw [List.foldl_concat]
    apply (ih hclock.1).upsert
    intro c' hc'
    apply hclock.2.2
    · exact List.mem_flatMap.mpr ⟨c', hc', by simp [Call.readings]⟩
    · simp [Call.readings]

def callAt (success : Bool) (t : ℤ) : Call := ⟨.v4 ⟨1, 2, 3, 4⟩ 80, success, t, t, t, t⟩

theorem activity_periods_hour_apart :
    let calls := [callAt false 0, callAt true 1, callAt true (60 * minute), callAt true (120 * minute)]
    (calls.foldl upsert empty).nodes.map NodeRecord.periods =
      [[(1, 60 * minute), (120 * minute, 120 * minute)]] ∧
    Recorded (calls.foldl upsert empty) calls :=
  ⟨by decide, activity_periods _ (by decide)⟩

end ZzP2p.Record
