import ZzP2p.Record

/-! Which of the recorded endpoints count as available. A start of the node marks the records that are
out of date, a success marks its record again, and a reader looks at the mark and at the clock. -/

namespace ZzP2p.Record

open Rust

def day : ℤ := 86400 * second

def numDays (d : ℤ) : ℤ := (numSeconds d).tdiv 86400

def MAX_VALID_DAYS : ℤ := 5

structure Connection where
  addr : SocketAddr
  /-- the protocols of the peer, once it has told what it is -/
  peerProtocols : Option (List Protocol)
  lookedUp : ℤ
  created : ℤ
  now : ℤ
  nowAgain : ℤ

namespace NodeRecord

def isExpired (r : NodeRecord) (now : ℤ) : Bool := MAX_VALID_DAYS ≤ numDays (now - r.lastSeen)

def checkExpiry (r : NodeRecord) (now : ℤ) : NodeRecord :=
  if MAX_VALID_DAYS ≤ numDays (now - r.lastSeen) then { r with isAvailable := false } else r

def extendProtocols (protocols new : List Protocol) : List Protocol :=
  new.foldl (fun protocols p => if p ∈ protocols then protocols else protocols ++ [p]) protocols

def deepSync (r : NodeRecord) (nowUtc : ℤ) (peerProtocols : Option (List Protocol)) : NodeRecord :=
  match peerProtocols with
  | none => r
  | some protocols =>
    let r := { r with protocols := extendProtocols r.protocols protocols }
    match r.periods[r.periods.length - 1]? with
    -- the new end of the period is written to a copy of the periods
    | some _ => r
    | none => { r with periods := r.periods ++ [(nowUtc, nowUtc)] }

end NodeRecord

namespace NodeRegistry

def onStartupMaintenance (reg : NodeRegistry) (clock : SocketAddr → ℤ) : NodeRegistry :=
  reg.nodes.foldl (fun nodes node => nodes.insert (node.checkExpiry (clock node.endpoint))) empty

def new (nodes : NodeRegistry) (clock : SocketAddr → ℤ) : NodeRegistry := nodes.onStartupMaintenance clock

def getAvailableNodes (reg : NodeRegistry) (clock : SocketAddr → ℤ) : List NodeRecord :=
  reg.nodes.filter (fun n => n.isAvailable && !n.isExpired (clock n.endpoint))

def syncConnection (nowUtc : ℤ) (reg : NodeRegistry) (c : Connection) : NodeRegistry :=
  let (taken, rest) := reg.take (.new c.addr c.lookedUp)
  let record := taken.getD (.new c.addr c.created)
  let record := { record with lastSeen := nowUtc, isAvailable := true }
  let record := record.updateStatus true c.now c.nowAgain
  rest.insert (record.deepSync nowUtc c.peerProtocols)

end NodeRegistry

inductive Change
  | upsert (c : Call)
  | sync (nowUtc : ℤ) (c : Connection)
  /-- the clock is read once for each record -/
  | restart (clock : SocketAddr → ℤ)

def change (reg : NodeRegistry) : Change → NodeRegistry
  | .upsert c => reg.upsert c
  | .sync nowUtc c => reg.syncConnection nowUtc c
  | .restart clock => .new reg clock

/-- the time of the last success with an endpoint, or of the first try when there was no success -/
def lastContact (e : SocketAddr) (before : Option ℤ) : Change → Option ℤ
  | .upsert c =>
    if c.endpoint = e then if c.success then some c.now else some (before.getD c.created) else before
  | .sync _ c => if c.addr = e then some c.now else before
  | .restart _ => before

variable {reg : NodeRegistry} {r : NodeRecord}

lemma numDays_ge_iff (d : ℤ) : MAX_VALID_DAYS ≤ numDays d ↔ 5 * day ≤ d := by
  rcases lt_or_ge d 0 with hneg | hpos
  · have hseconds : numSeconds d ≤ 0 := tdiv_nonpos hneg.le (by decide)
    have hdays : numDays d ≤ 0 := tdiv_nonpos hseconds (by decide)
    rw [MAX_VALID_DAYS, day, second]
    omega
  · have hseconds : numSeconds d = d / second := Int.tdiv_eq_ediv_of_nonneg hpos
    have hnonneg : 0 ≤ d / second := Int.ediv_nonneg hpos (by decide)
    rw [MAX_VALID_DAYS, numDays, hseconds, Int.tdiv_eq_ediv_of_nonneg hnonneg, day, second]
    omega

lemma isExpired_iff {now : ℤ} : r.isExpired now = true ↔ 5 * day ≤ now - r.lastSeen := by
  rw [NodeRecord.isExpired, decide_eq_true_iff, numDays_ge_iff]

lemma checkExpiry_eq (r : NodeRecord) (now : ℤ) : r.checkExpiry now =
    { r with isAvailable := r.isAvailable && !r.isExpired now } := by
  by_cases h : MAX_VALID_DAYS ≤ numDays (now - r.lastSeen)
  · simp [NodeRecord.checkExpiry, NodeRecord.isExpired, h]
  · simp [NodeRecord.checkExpiry, NodeRecord.isExpired, h]

lemma mem_insert_take {key record : NodeRecord} (h : record.endpoint = key.endpoint) :
    r ∈ ((reg.take key).2.insert record).nodes ↔
      (r ∈ reg.nodes ∧ r.endpoint ≠ key.endpoint) ∨ r = record := by
  have habsent : record.endpoint ∉ (reg.take key).2.nodes.map NodeRecord.endpoint := by
    rw [h, List.mem_map]
    rintro ⟨r', hr', he⟩
    exact (mem_take.mp hr').2 he
  rw [NodeRegistry.insert, dif_neg habsent, List.mem_append, List.mem_singleton, mem_take]

lemma insert_all (l : List NodeRecord) (clock : SocketAddr → ℤ)
    (h : ((reg.nodes ++ l).map NodeRecord.endpoint).Nodup) :
    (l.foldl (fun nodes node => nodes.insert (node.checkExpiry (clock node.endpoint))) reg).nodes =
      reg.nodes ++ l.map (fun node => node.checkExpiry (clock node.endpoint)) := by
  induction l generalizing reg with
  | nil => simp
  | cons node l ih =>
    have hendpoint : (node.checkExpiry (clock node.endpoint)).endpoint = node.endpoint := by
      rw [checkExpiry_eq]
    have hnew : (node.checkExpiry (clock node.endpoint)).endpoint ∉ reg.nodes.map NodeRecord.endpoint := by
      rw [hendpoint]
      rw [List.map_append, List.map_cons, List.nodup_append] at h
      exact fun hmem => h.2.2 _ hmem _ List.mem_cons_self rfl
    have hinsert : (reg.insert (node.checkExpiry (clock node.endpoint))).nodes =
        reg.nodes ++ [node.checkExpiry (clock node.endpoint)] := by
      rw [NodeRegistry.insert, dif_neg hnew]
    rw [List.foldl_cons, ih, hinsert, List.map_cons, List.append_assoc, List.singleton_append]
    rw [hinsert]
    simpa [hendpoint] using h

lemma nodes_new (reg : NodeRegistry) (clock : SocketAddr → ℤ) : (NodeRegistry.new reg clock).nodes =
    reg.nodes.map (fun node => node.checkExpiry (clock node.endpoint)) :=
  @insert_all NodeRegistry.empty reg.nodes clock reg.nodup

/-- the record that `sync_from_connections` puts back -/
def synced (reg : NodeRegistry) (nowUtc : ℤ) (c : Connection) : NodeRecord :=
  let record := (reg.nodes.find? (fun r => r.endpoint = c.addr)).getD (.new c.addr c.created)
  ({ record with lastSeen := nowUtc, isAvailable := true }.updateStatus true c.now c.nowAgain).deepSync nowUtc
    c.peerProtocols

lemma endpoint_deepSync (nowUtc : ℤ) (peerProtocols : Option (List Protocol)) :
    (r.deepSync nowUtc peerProtocols).endpoint = r.endpoint := by
  cases peerProtocols with
  | none => rfl
  | some protocols =>
    simp only [NodeRecord.deepSync]
    split <;> rfl

lemma deepSync_kept (nowUtc : ℤ) (peerProtocols : Option (List Protocol)) :
    (r.deepSync nowUtc peerProtocols).lastSeen = r.lastSeen ∧
      (r.deepSync nowUtc peerProtocols).isAvailable = r.isAvailable := by
  cases peerProtocols with
  | none => exact ⟨rfl, rfl⟩
  | some protocols =>
    simp only [NodeRecord.deepSync]
    split <;> exact ⟨rfl, rfl⟩

lemma endpoint_synced (reg : NodeRegistry) (nowUtc : ℤ) (c : Connection) :
    (synced reg nowUtc c).endpoint = c.addr := by
  rw [synced, endpoint_deepSync]
  exact endpoint_found reg ⟨c.addr, true, c.lookedUp, c.created, c.now, c.nowAgain⟩

lemma synced_kept (reg : NodeRegistry) (nowUtc : ℤ) (c : Connection) :
    (synced reg nowUtc c).lastSeen = c.now ∧ (synced reg nowUtc c).isAvailable = true := by
  rw [synced, (deepSync_kept nowUtc c.peerProtocols).1, (deepSync_kept nowUtc c.peerProtocols).2]
  exact ⟨rfl, rfl⟩

lemma mem_syncConnection {nowUtc : ℤ} {c : Connection} :
    r ∈ (reg.syncConnection nowUtc c).nodes ↔
      (r ∈ reg.nodes ∧ r.endpoint ≠ c.addr) ∨ r = synced reg nowUtc c :=
  mem_insert_take (endpoint_synced reg nowUtc c)

lemma lastSeen_updateStatus (success : Bool) (now nowAgain : ℤ) :
    (r.updateStatus success now nowAgain).lastSeen = if success then now else r.lastSeen := by
  cases success <;> rfl

lemma isAvailable_updateStatus (success : Bool) (now nowAgain : ℤ) :
    (r.updateStatus success now nowAgain).isAvailable = (success || r.isAvailable) := by
  cases success <;> rfl

/-- The records follow the contacts, and a mark was set by a start that found its record out of date. -/
structure Tracked (reg : NodeRegistry) (contact : SocketAddr → Option ℤ) (starts : Set (SocketAddr → ℤ)) :
    Prop where
  seen : ∀ e t, contact e = some t ↔ ∃ r ∈ reg.nodes, r.endpoint = e ∧ r.lastSeen = t
  marked : ∀ r ∈ reg.nodes, r.isAvailable = false → ∃ clock ∈ starts, 5 * day ≤ clock r.endpoint - r.lastSeen

/-- One record is replaced, or added. -/
lemma Tracked.replace {contact contact' : SocketAddr → Option ℤ} {starts : Set (SocketAddr → ℤ)}
    (h : Tracked reg contact starts) {reg' : NodeRegistry} (record : NodeRecord)
    (hmem : ∀ r, r ∈ reg'.nodes ↔ (r ∈ reg.nodes ∧ r.endpoint ≠ record.endpoint) ∨ r = record)
    (hsame : ∀ e, e ≠ record.endpoint → contact' e = contact e)
    (hseen : contact' record.endpoint = some record.lastSeen)
    (hmarked : record.isAvailable = false →
      ∃ clock ∈ starts, 5 * day ≤ clock record.endpoint - record.lastSeen) : Tracked reg' contact' starts := by
  constructor
  · intro e t
    by_cases he : e = record.endpoint
    · subst he
      rw [hseen, Option.some.injEq]
      constructor
      · intro ht
        exact ⟨record, (hmem record).mpr (Or.inr rfl), rfl, ht⟩
      · rintro ⟨r, hr, hend, ht⟩
        rcases (hmem r).mp hr with ⟨-, hne⟩ | rfl
        · exact absurd hend hne
        · exact ht
    · rw [hsame e he, h.seen]
      constructor
      · rintro ⟨r, hr, rfl, ht⟩
        exact ⟨r, (hmem r).mpr (Or.inl ⟨hr, he⟩), rfl, ht⟩
      · rintro ⟨r, hr, rfl, ht⟩
        rcases (hmem r).mp hr with ⟨hr, -⟩ | rfl
        · exact ⟨r, hr, rfl, ht⟩
        · exact absurd rfl he
  · intro r hr hun
    rcases (hmem r).mp hr with ⟨hr, -⟩ | rfl
    · exact h.marked r hr hun
    · exact hmarked hun

def startsOf (changes : List Change) : Set (SocketAddr → ℤ) := {clock | .restart clock ∈ changes}

def contactsOf (changes : List Change) (e : SocketAddr) : Option ℤ := changes.foldl (lastContact e) none

lemma Tracked.mono {contact : SocketAddr → Option ℤ} {starts starts' : Set (SocketAddr → ℤ)}
    (h : Tracked reg contact starts) (hsub : starts ⊆ starts') : Tracked reg contact starts' := by
  refine ⟨h.seen, fun r hr hun => ?_⟩
  obtain ⟨clock, hclock, hle⟩ := h.marked r hr hun
  exact ⟨clock, hsub hclock, hle⟩

lemma Tracked.upsert {contact : SocketAddr → Option ℤ} {starts : Set (SocketAddr → ℤ)}
    (h : Tracked reg contact starts) (c : Call) :
    Tracked (reg.upsert c) (fun e => lastContact e (contact e) (.upsert c)) starts := by
  have hendpoint : ((found reg c).updateStatus c.success c.now c.nowAgain).endpoint = c.endpoint := by
    rw [endpoint_updateStatus, endpoint_found]
  refine h.replace ((found reg c).updateStatus c.success c.now c.nowAgain) ?_ ?_ ?_ ?_
  · intro r
    rw [hendpoint]
    exact mem_upsert
  · intro e he
    rw [hendpoint] at he
    exact if_neg (Ne.symm he)
  · rw [hendpoint, lastSeen_updateStatus, lastContact, if_pos rfl]
    cases hs : c.success with
    | true => rfl
    | false =>
      rcases found_cases reg c with ⟨hmem, he⟩ | ⟨hnew, he⟩
      · rw [(h.seen c.endpoint (found reg c).lastSeen).mpr ⟨_, hmem, he, rfl⟩]
        rfl
      · have hnone : contact c.endpoint = none := by
          cases hc : contact c.endpoint with
          | none => rfl
          | some t =>
            obtain ⟨r, hr, hend, -⟩ := (h.seen c.endpoint t).mp hc
            exact absurd (List.mem_map.mpr ⟨r, hr, hend⟩) hnew
        rw [hnone, he]
        rfl
  · intro hun
    rw [isAvailable_updateStatus, Bool.or_eq_false_iff] at hun
    rw [endpoint_updateStatus, lastSeen_updateStatus, hun.1]
    rcases found_cases reg c with ⟨hmem, -⟩ | ⟨-, he⟩
    · exact h.marked _ hmem hun.2
    · rw [he] at hun
      cases hun.2

lemma Tracked.sync {contact : SocketAddr → Option ℤ} {starts : Set (SocketAddr → ℤ)}
    (h : Tracked reg contact starts) (nowUtc : ℤ) (c : Connection) :
    Tracked (reg.syncConnection nowUtc c) (fun e => lastContact e (contact e) (.sync nowUtc c)) starts := by
  have hendpoint := endpoint_synced reg nowUtc c
  obtain ⟨hseen, havailable⟩ := synced_kept reg nowUtc c
  refine h.replace (synced reg nowUtc c) ?_ ?_ ?_ ?_
  · intro r
    rw [hendpoint]
    exact mem_syncConnection
  · intro e he
    rw [hendpoint] at he
    exact if_neg (Ne.symm he)
  · rw [hendpoint, hseen]
    exact if_pos rfl
  · intro hun
    rw [havailable] at hun
    cases hun

lemma Tracked.restart {contact : SocketAddr → Option ℤ} {starts : Set (SocketAddr → ℤ)}
    (h : Tracked reg contact starts) {clock : SocketAddr → ℤ} (hclock : clock ∈ starts) :
    Tracked (.new reg clock) contact starts := by
  constructor
  · intro e t
    rw [h.seen, nodes_new]
    simp [checkExpiry_eq]
  · intro r hr hun
    rw [nodes_new] at hr
    obtain ⟨old, hold, rfl⟩ := List.mem_map.mp hr
    rw [checkExpiry_eq] at hun ⊢
    rcases Bool.and_eq_false_iff.mp hun with hun | hnew
    · exact h.marked old hold hun
    · rw [Bool.not_eq_false', isExpired_iff] at hnew
      exact ⟨clock, hclock, hnew⟩

lemma tracked_run (changes : List Change) :
    Tracked (changes.foldl change .empty) (contactsOf changes) (startsOf changes) := by
  induction changes using List.reverseRecOn with
  | nil => exact ⟨by simp [contactsOf, NodeRegistry.empty], by simp [NodeRegistry.empty]⟩
  | append_singleton changes c ih =>
    have hmono : Tracked (changes.foldl change .empty) (contactsOf changes) (startsOf (changes ++ [c])) :=
      ih.mono (fun clock hclock => List.mem_append_left _ hclock)
    have hcontacts : contactsOf (changes ++ [c]) = fun e => lastContact e (contactsOf changes e) c := by
      funext e
      rw [contactsOf, List.foldl_concat]
      rfl
    rw [List.foldl_concat, hcontacts]
    cases c with
    | upsert c => exact hmono.upsert c
    | sync nowUtc c => exact hmono.sync nowUtc c
    | restart clock =>
      apply hmono.restart
      exact List.mem_append_right _ (List.mem_singleton_self _)

/-- If no start read the clock later than the reader does, the mark says nothing that the clock does
not say: the endpoints that are offered are those with a contact in the last five days. -/
theorem available_nodes_recent (changes : List Change) (clock : SocketAddr → ℤ)
    (hclock : ∀ start, .restart start ∈ changes → ∀ e, start e ≤ clock e) :
    let available := (NodeRegistry.getAvailableNodes (changes.foldl change .empty) clock).map NodeRecord.endpoint
    available.Nodup ∧
      ∀ e, e ∈ available ↔ ∃ t, contactsOf changes e = some t ∧ clock e - t < 5 * day := by
  intro available
  have htracked := tracked_run changes
  refine ⟨(changes.foldl change .empty).nodup.sublist (List.filter_sublist.map _), fun e => ?_⟩
  have hfresh : ∀ r ∈ (changes.foldl change .empty).nodes,
      (r.isAvailable && !r.isExpired (clock r.endpoint)) = true ↔ clock r.endpoint - r.lastSeen < 5 * day := by
    intro r hr
    have hexpired : r.isExpired (clock r.endpoint) = false ↔ clock r.endpoint - r.lastSeen < 5 * day := by
      rw [← Bool.not_eq_true, isExpired_iff, not_le]
    rw [Bool.and_eq_true, Bool.not_eq_true', hexpired]
    refine ⟨And.right, fun hlt => ⟨?_, hlt⟩⟩
    by_contra hun
    obtain ⟨start, hstart, hle⟩ := htracked.marked r hr (Bool.eq_false_of_not_eq_true hun)
    have := hclock start hstart r.endpoint
    omega
  constructor
  · intro he
    obtain ⟨r, hr, rfl⟩ := List.mem_map.mp he
    obtain ⟨hr, hf⟩ := List.mem_filter.mp hr
    exact ⟨r.lastSeen, (htracked.seen _ _).mpr ⟨r, hr, rfl, rfl⟩, (hfresh r hr).mp hf⟩
  · rintro ⟨t, ht, hlt⟩
    obtain ⟨r, hr, rfl, rfl⟩ := (htracked.seen e t).mp ht
    exact List.mem_map.mpr ⟨r, List.mem_filter.mpr ⟨hr, (hfresh r hr).mpr hlt⟩, rfl⟩

def monthOfChanges : List Change :=
  [.upsert (callAt true 0), .restart (fun _ => 6 * day), .upsert (callAt false (7 * day)),
    .sync (8 * day) ⟨.v4 ⟨5, 6, 7, 8⟩ 80, some [.tcp], 8 * day, 8 * day, 8 * day, 8 * day⟩]

theorem available_nodes_recent_month :
    let available := (NodeRegistry.getAvailableNodes (monthOfChanges.foldl change .empty)
      (fun _ => 9 * day)).map NodeRecord.endpoint
    available.Nodup ∧ (.v4 ⟨5, 6, 7, 8⟩ 80) ∈ available ∧ (.v4 ⟨1, 2, 3, 4⟩ 80) ∉ available := by
  have hclock : ∀ start, Change.restart start ∈ monthOfChanges → ∀ e : SocketAddr, start e ≤ 9 * day := by
    intro start hstart e
    simp only [monthOfChanges, List.mem_cons, Change.restart.injEq, reduceCtorEq, List.not_mem_nil, or_false,
      false_or] at hstart
    subst hstart
    have hdays : (6 : ℤ) * day ≤ 9 * day := by decide
    exact hdays
  obtain ⟨hnodup, hiff⟩ := available_nodes_recent monthOfChanges (fun _ => 9 * day) hclock
  refine ⟨hnodup, (hiff _).mpr ⟨8 * day, by decide, by decide⟩, fun hmem => ?_⟩
  obtain ⟨t, ht, hlt⟩ := (hiff _).mp hmem
  have hzero : contactsOf monthOfChanges (.v4 ⟨1, 2, 3, 4⟩ 80) = some 0 := by decide
  obtain rfl := Option.some.inj (hzero.symm.trans ht)
  exact absurd hlt (by decide)

end ZzP2p.Record
