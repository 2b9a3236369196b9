import ZzP2p.Db.EpochAllocation
import ZzP2p.Lib.KeyedTable

/-! Which changes of stored allocations the check of a chain notices. The check follows the links
between the rows and never hashes a row again. Besides the store, others with access to the database
may write to the table. -/

namespace ZzP2p.Db.EpochAllocation

open Lib Lib.HashChain Lib.Runs Rust

variable (sha256 : Bytes → Digest)

def Sealed (r : Columns) : Prop :=
  r.hash = rowHash sha256 r.preHash ⟨r.epoch, r.round, r.address, r.weight, r.amount⟩ r.createdAt

instance (r : Columns) : Decidable (Sealed sha256 r) := inferInstanceAs (Decidable (_ = _))

/-- An accepted epoch holds rows that carry the digest of their own fields. -/
def Evident (t : AllocationTable) (e : Int64) : Prop :=
  verifyChain t e = true → ∀ r ∈ getByEpoch t e, Sealed sha256 r

/-- The row `r` of the epoch `e` now points elsewhere, or it is gone from between its neighbours. -/
def Noticed (t : AllocationTable) (e : Int64) (id : ℕ) (r r' : Columns) : Prop :=
  if r'.epoch = e then r'.preHash ≠ r.preHash
  else r.hash ≠ r.preHash ∧ ∃ s ∈ t.rows, id < s.1 ∧ s.2.epoch = e

variable {t : AllocationTable} {e : Int64}

lemma getByEpoch_eq_nil {l : List (ℕ × Columns)} :
    (l.map Prod.snd).filter (fun r => r.epoch = e) = [] ↔ ∀ s ∈ l, s.2.epoch ≠ e := by
  rw [List.filter_eq_nil_iff, List.forall_mem_map]
  simp only [decide_eq_true_eq, ne_eq]

lemma later_iff {l₁ l₂ : List (ℕ × Columns)} {p : ℕ × Columns} (hrows : t.rows = l₁ ++ p :: l₂)
    (hlt₁ : ∀ s ∈ l₁, s.1 < p.1) (hlt₂ : ∀ s ∈ l₂, p.1 < s.1) :
    (∃ s ∈ t.rows, p.1 < s.1 ∧ s.2.epoch = e) ↔ ∃ s ∈ l₂, s.2.epoch = e := by
  constructor
  · rintro ⟨s, hs, hlt, he⟩
    rw [hrows] at hs
    rcases List.mem_append.mp hs with hs | hs
    · exact absurd hlt (hlt₁ s hs).not_gt
    · rcases List.mem_cons.mp hs with rfl | hs
      · exact absurd hlt (lt_irrefl _)
      · exact ⟨s, hs, he⟩
  · rintro ⟨s, hs, he⟩
    refine ⟨s, ?_, hlt₂ s hs, he⟩
    rw [hrows]
    exact List.mem_append_right _ (List.mem_cons_of_mem _ hs)

lemma verifyChain_update_iff {id : ℕ} {r r' : Columns} (hv : verifyChain t e = true) (hr : (id, r) ∈ t.rows)
    (he : r.epoch = e) (hh : r'.hash = r.hash) :
    verifyChain (t.update id (fun _ => r')) e = false ↔ Noticed t e id r r' := by
  obtain ⟨l₁, l₂, hrows, hlt₁, hlt₂, hupdate⟩ := Table.rows_update hr (fun _ => r')
  rw [← Bool.not_eq_true, verifyChain_iff, Noticed]
  rw [verifyChain_iff] at hv
  set xs := (l₁.map Prod.snd).filter (fun r => r.epoch = e)
  set ys := (l₂.map Prod.snd).filter (fun r => r.epoch = e) with hys
  have hold : getByEpoch t e = xs ++ r :: ys := by
    simp [getByEpoch, Table.values, hrows, he, xs, ys]
  rw [hold] at hv
  by_cases he' : r'.epoch = e
  · have hnew : getByEpoch (t.update id (fun _ => r')) e = xs ++ r' :: ys := by
      simp [getByEpoch, Table.values, hupdate, he', xs, ys]
    rw [hnew, if_pos he', links.linkedFrom_replace hv hh]
    rfl
  · have hnew : getByEpoch (t.update id (fun _ => r')) e = xs ++ ys := by
      simp [getByEpoch, Table.values, hupdate, he', xs, ys]
    have hlater := later_iff (e := e) hrows hlt₁ hlt₂
    rw [hnew, if_neg he', links.linkedFrom_remove hv, hlater, hys, getByEpoch_eq_nil, not_or, and_comm]
    push Not
    rfl

section Histories

/-- a call of the store, or a statement of somebody else -/
inductive Event
  | insert (c : Args) (ts : Int64)
  | alter (id : ℕ) (r : Columns)
  | forge (r : Columns)
  | remove (p : Columns → Bool)

structure History where
  table : AllocationTable
  /-- the row that `insert` wrote under a key -/
  written : ℕ → Option Columns

def newRow (t : AllocationTable) (c : Args) (ts : Int64) : Columns :=
  ⟨c.epoch, c.round, c.address, c.weight, c.amount, lastHash t c.epoch,
    rowHash sha256 (lastHash t c.epoch) c ts, ts⟩

def step (h : History) : Event → History
  | .insert c ts =>
    ⟨(insert sha256 h.table c ts).2,
      Function.update h.written (h.table.seq + 1) (some (newRow sha256 h.table c ts))⟩
  | .alter id r => { h with table := h.table.update id (fun _ => r) }
  | .forge r => { h with table := h.table.insert r }
  | .remove p => { h with table := h.table.delete p }

def start : History := ⟨Table.empty, fun _ => none⟩

def History.original (h : History) (x : ℕ × Columns) : Columns := (h.written x.1).getD x.2

/-- what the digest of a row is made of -/
def rowText (r : Columns) : Bytes :=
  utf8 r.preHash ++ leBytes r.epoch.toUInt64 ++ leBytes r.round.toUInt64 ++ utf8 r.address ++
    utf8 r.weight ++ utf8 r.amount ++ leBytes r.createdAt.toUInt64

/-- The rows of others keep the hash and the epoch that they find. -/
def KeepsHash (h : History) : Event → Prop
  | .insert _ _ => True
  | .alter id r => ∀ x ∈ h.table.rows, x.1 = id → r.hash = x.2.hash ∧ r.epoch = x.2.epoch
  | .forge _ => False
  | .remove _ => False

/-- No two different texts of a stored row and of the row first written have the same digest. -/
def CollisionFree (h : History) : Prop :=
  ∀ x ∈ h.table.rows, sha256 (rowText x.2) = sha256 (rowText (h.original x)) →
    rowText x.2 = rowText (h.original x)

def Repointed (h : History) (e : Int64) : Prop :=
  ∃ x ∈ h.table.rows, x.2.epoch = e ∧ x.2.preHash ≠ (h.original x).preHash

def Untouched (h : History) (e : Int64) : Prop :=
  ∀ x ∈ h.table.rows, x.2.epoch = e → rowText x.2 = rowText (h.original x)

variable {sha256} {h : History} {c : Args} {ts : Int64}

lemma sealed_iff {r : Columns} : Sealed sha256 r ↔ r.hash = hex (sha256 (rowText r)) := Iff.rfl

lemma sealed_newRow : Sealed sha256 (newRow sha256 t c ts) := rfl

lemma written_insert (h : History) (c : Args) (ts : Int64) (id : ℕ) :
    (step sha256 h (.insert c ts)).written id =
      if id = h.table.seq + 1 then some (newRow sha256 h.table c ts) else h.written id :=
  Function.update_apply _ _ _ _

lemma sealed_written_step (hw : ∀ id w, h.written id = some w → Sealed sha256 w) (ev : Event) :
    ∀ id w, (step sha256 h ev).written id = some w → Sealed sha256 w := by
  cases ev with
  | insert c ts =>
    intro id w hid
    rw [written_insert] at hid
    split at hid
    · obtain rfl := Option.some.inj hid
      exact sealed_newRow
    · exact hw id w hid
  | alter id r => exact hw
  | forge r => exact hw
  | remove p => exact hw

lemma sealed_written (events : List Event) :
    ∀ id w, (events.foldl (step sha256) start).written id = some w → Sealed sha256 w := by
  induction events using List.reverseRecOn with
  | nil =>
    intro id w hid
    cases hid
  | append_singleton events ev ih =>
    rw [List.foldl_concat]
    exact sealed_written_step ih ev

lemma mem_getByEpoch {r : Columns} : r ∈ getByEpoch t e ↔ ∃ x ∈ t.rows, x.2.epoch = e ∧ x.2 = r := by
  rw [getByEpoch, List.mem_filter, Table.values, List.mem_map, decide_eq_true_eq]
  constructor
  · rintro ⟨⟨x, hx, rfl⟩, he⟩
    exact ⟨x, hx, he, rfl⟩
  · rintro ⟨x, hx, he, rfl⟩
    exact ⟨⟨x, hx, rfl⟩, he⟩

/-- Rows that are as the store wrote them carry their digests, whatever befell the others. -/
lemma evident_of_written (events : List Event)
    (hrows : ∀ x ∈ (events.foldl (step sha256) start).table.rows, x.2.epoch = e →
      (events.foldl (step sha256) start).written x.1 = some x.2) :
    Evident sha256 (events.foldl (step sha256) start).table e := by
  intro _ r hr
  obtain ⟨x, hx, he, rfl⟩ := mem_getByEpoch.mp hr
  exact sealed_written events x.1 x.2 (hrows x hx he)

def inEpoch (t : AllocationTable) (e : Int64) : List (ℕ × Columns) := t.rows.filter (fun x => x.2.epoch = e)

lemma getByEpoch_eq : getByEpoch t e = (inEpoch t e).map Prod.snd := by
  rw [getByEpoch, Table.values, List.filter_map]
  rfl

/-- The rows first written are still linked, and the stored rows have their hashes. -/
structure Kept (h : History) : Prop where
  written : ∀ x ∈ h.table.rows, (h.written x.1).isSome
  hash : ∀ x ∈ h.table.rows, x.2.hash = (h.original x).hash
  linked : ∀ e, links.LinkedFrom genesis ((inEpoch h.table e).map h.original)

lemma written_old {x : ℕ × Columns} (hx : x ∈ h.table.rows) (c : Args) (ts : Int64) :
    (step sha256 h (.insert c ts)).written x.1 = h.written x.1 := by
  rw [written_insert, if_neg (Nat.lt_succ_of_le (h.table.bounded x hx)).ne]

lemma original_old {x : ℕ × Columns} (hx : x ∈ h.table.rows) (c : Args) (ts : Int64) :
    (step sha256 h (.insert c ts)).original x = h.original x := by
  rw [History.original, History.original, written_old hx]

lemma original_new (h : History) (c : Args) (ts : Int64) (v : Columns) :
    (step sha256 h (.insert c ts)).original (h.table.seq + 1, v) = newRow sha256 h.table c ts := by
  rw [History.original, written_insert, if_pos rfl, Option.getD_some]

lemma map_hash_inEpoch (hk : ∀ x ∈ h.table.rows, x.2.hash = (h.original x).hash) (e : Int64) :
    (getByEpoch h.table e).map links.hash = ((inEpoch h.table e).map h.original).map links.hash := by
  rw [getByEpoch_eq, List.map_map, List.map_map]
  apply List.map_congr_left
  intro x hx
  exact hk x (List.mem_of_mem_filter hx)

lemma inEpoch_insert (r : Columns) :
    inEpoch (t.insert r) e = inEpoch t e ++ if r.epoch = e then [(t.seq + 1, r)] else [] := by
  by_cases hr : r.epoch = e
  · simp [inEpoch, Table.insert, hr]
  · simp [inEpoch, Table.insert, hr]

lemma inEpoch_map {t' : AllocationTable} {g : ℕ × Columns → ℕ × Columns} (hrows : t'.rows = t.rows.map g)
    (hepoch : ∀ x ∈ t.rows, (g x).2.epoch = x.2.epoch) : inEpoch t' e = (inEpoch t e).map g := by
  rw [inEpoch, inEpoch, hrows, List.filter_map]
  congr 1
  apply List.filter_congr
  intro x hx
  rw [Function.comp_apply, hepoch x hx]

lemma kept_insert (hk : Kept h) (c : Args) (ts : Int64) : Kept (step sha256 h (.insert c ts)) := by
  set row := newRow sha256 h.table c ts with hrow
  have hmem : ∀ x ∈ (h.table.insert row).rows, x ∈ h.table.rows ∨ x = (h.table.seq + 1, row) := by
    intro x hx
    exact (List.mem_append.mp hx).imp_right List.mem_singleton.mp
  refine ⟨fun x hx => ?_, fun x hx => ?_, fun e => ?_⟩
  · rcases hmem x hx with hx | rfl
    · rw [written_old hx]
      exact hk.written x hx
    · rw [written_insert, if_pos rfl]
      rfl
  · rcases hmem x hx with hx | rfl
    · rw [original_old hx]
      exact hk.hash x hx
    · rw [original_new]
  · have hold : (inEpoch h.table e).map (step sha256 h (.insert c ts)).original =
        (inEpoch h.table e).map h.original := by
      apply List.map_congr_left
      intro x hx
      exact original_old (List.mem_of_mem_filter hx) c ts
    have htable : (step sha256 h (.insert c ts)).table = h.table.insert row := rfl
    rw [htable, inEpoch_insert, List.map_append, hold, links.linkedFrom_append]
    refine ⟨hk.linked e, ?_⟩
    split
    · next he =>
      have hpre : row.preHash = links.tipFrom genesis ((inEpoch h.table e).map h.original) := by
        rw [← links.tipFrom_eq_of_map (map_hash_inEpoch hk.hash e), ← lastHash_eq, ← he]
        rfl
      rw [List.map_singleton, original_new]
      exact ⟨hpre, trivial⟩
    · trivial

lemma kept_alter (hk : Kept h) {id : ℕ} {r : Columns} (hr : KeepsHash h (.alter id r)) :
    Kept (step sha256 h (.alter id r)) := by
  set g : ℕ × Columns → ℕ × Columns := fun x => if x.1 = id then (x.1, r) else x with hg
  have hrows : (step sha256 h (.alter id r)).table.rows = h.table.rows.map g := rfl
  have hkey : ∀ x, (g x).1 = x.1 := by
    intro x
    simp only [hg]
    split <;> rfl
  have hfields : ∀ x ∈ h.table.rows, (g x).2.hash = x.2.hash ∧ (g x).2.epoch = x.2.epoch := by
    intro x hx
    simp only [hg]
    split
    · next hid => exact hr x hx hid
    · exact ⟨rfl, rfl⟩
  have horiginal : ∀ x ∈ h.table.rows, (step sha256 h (.alter id r)).original (g x) = h.original x := by
    intro x hx
    obtain ⟨w, hw⟩ := Option.isSome_iff_exists.mp (hk.written x hx)
    rw [History.original, History.original, hkey]
    dsimp only [step]
    rw [hw, Option.getD_some, Option.getD_some]
  refine ⟨fun y hy => ?_, fun y hy => ?_, fun e => ?_⟩
  · rw [hrows] at hy
    obtain ⟨x, hx, rfl⟩ := List.mem_map.mp hy
    rw [hkey]
    exact hk.written x hx
  · rw [hrows] at hy
    obtain ⟨x, hx, rfl⟩ := List.mem_map.mp hy
    rw [horiginal x hx, (hfields x hx).1]
    exact hk.hash x hx
  · rw [inEpoch_map hrows (fun x hx => (hfields x hx).2), List.map_map]
    have hmap : (inEpoch h.table e).map ((step sha256 h (.alter id r)).original ∘ g) =
        (inEpoch h.table e).map h.original := by
      apply List.map_congr_left
      intro x hx
      exact horiginal x (List.mem_of_mem_filter hx)
    rw [hmap]
    exact hk.linked e

lemma kept_start : Kept start :=
  ⟨fun _ hx => (List.not_mem_nil hx).elim, fun _ hx => (List.not_mem_nil hx).elim, fun _ => trivial⟩

lemma kept_run {events : List Event} (hg : Guarded (step sha256) KeepsHash start events) :
    Kept (events.foldl (step sha256) start) := by
  apply guarded_invariant (I := Kept) _ kept_start hg _ (last_visited _ _)
  intro h ev hk hok
  cases ev with
  | insert c ts => exact kept_insert hk c ts
  | alter id r => exact kept_alter hk hok
  | forge r => exact hok.elim
  | remove p => exact hok.elim

lemma Kept.verifyChain_iff (hk : Kept h) : verifyChain h.table e = true ↔ ¬ Repointed h e := by
  rw [EpochAllocation.verifyChain_iff, links.linkedFrom_iff_map (map_hash_inEpoch hk.hash e) (hk.linked e),
    getByEpoch_eq, List.map_map, List.map_map, List.map_inj_left, Repointed]
  push Not
  constructor
  · intro hpre x hx he
    exact hpre x (List.mem_filter.mpr ⟨hx, decide_eq_true he⟩)
  · intro hpre x hx
    exact hpre x (List.mem_of_mem_filter hx) (of_decide_eq_true (List.mem_filter.mp hx).2)

lemma Kept.sealed_iff (hk : Kept h) (hw : ∀ id w, h.written id = some w → Sealed sha256 w)
    (hfree : CollisionFree sha256 h) {x : ℕ × Columns} (hx : x ∈ h.table.rows) :
    Sealed sha256 x.2 ↔ rowText x.2 = rowText (h.original x) := by
  obtain ⟨w, hwritten⟩ := Option.isSome_iff_exists.mp (hk.written x hx)
  have horiginal : h.original x = w := by rw [History.original, hwritten, Option.getD_some]
  have hsealed : w.hash = hex (sha256 (rowText w)) := EpochAllocation.sealed_iff.mp (hw x.1 w hwritten)
  have hhash := hk.hash x hx
  rw [EpochAllocation.sealed_iff, hhash, horiginal, hsealed]
  constructor
  · intro h
    rw [← horiginal]
    apply hfree x hx
    rw [horiginal]
    exact (hex_injective h).symm
  · intro h
    rw [h]

lemma Kept.evident_iff (hk : Kept h) (hw : ∀ id w, h.written id = some w → Sealed sha256 w)
    (hfree : CollisionFree sha256 h) : Evident sha256 h.table e ↔ Repointed h e ∨ Untouched h e := by
  have hrows : (∀ r ∈ getByEpoch h.table e, Sealed sha256 r) ↔ Untouched h e := by
    constructor
    · intro hs x hx he
      exact (hk.sealed_iff hw hfree hx).mp (hs x.2 (mem_getByEpoch.mpr ⟨x, hx, he, rfl⟩))
    · intro hu r hr
      obtain ⟨x, hx, he, rfl⟩ := mem_getByEpoch.mp hr
      exact (hk.sealed_iff hw hfree hx).mpr (hu x hx he)
  rw [Evident, hk.verifyChain_iff, hrows, imp_iff_not_or, not_not]

end Histories

theorem verify_chain_evidence_iff (sha256 : Bytes → Digest) :
    (∀ (events : List Event) (e : Int64),
      (∀ x ∈ (events.foldl (step sha256) start).table.rows, x.2.epoch = e →
        (events.foldl (step sha256) start).written x.1 = some x.2) →
      Evident sha256 (events.foldl (step sha256) start).table e) ∧
    (∀ (events : List Event) (e : Int64), Guarded (step sha256) KeepsHash start events →
      CollisionFree sha256 (events.foldl (step sha256) start) →
      (Evident sha256 (events.foldl (step sha256) start).table e ↔
        Repointed (events.foldl (step sha256) start) e ∨ Untouched (events.foldl (step sha256) start) e)) ∧
    ∀ (t : AllocationTable) (e : Int64), verifyChain t e = true →
      ∀ id r r', (id, r) ∈ t.rows → r.epoch = e → r'.hash = r.hash →
        (verifyChain (t.update id (fun _ => r')) e = false ↔ Noticed t e id r r') := by
  refine ⟨fun events e => evident_of_written events, fun events e hg hfree => ?_, ?_⟩
  · exact (kept_run hg).evident_iff (sealed_written events) hfree
  · intro t e hv id r r' hr he hh
    exact verifyChain_update_iff hv hr he hh

def firstArgs : Args := ⟨0, 0, "a", "1", "1"⟩

def oneRow : AllocationTable := (insert Sha256.digest Table.empty firstArgs 0).2

def firstRow : Columns := ⟨0, 0, "a", "1", "1", genesis, rowHash Sha256.digest genesis firstArgs 0, 0⟩

def relinkedRow : Columns := { firstRow with preHash := "" }

def paidRow : Columns := { firstRow with amount := "1000" }

/-- the one row, and what somebody made of it -/
def altered (r : Columns) : List Event := [.insert firstArgs 0, .alter 1 r]

lemma keepsHash_altered {r : Columns} (h : r.hash = firstRow.hash ∧ r.epoch = firstRow.epoch) :
    Guarded (step Sha256.digest) KeepsHash start (altered r) := by
  refine ⟨trivial, fun x hx _ => ?_, trivial⟩
  rw [show x = (1, firstRow) from List.mem_singleton.mp hx]
  exact h

lemma rows_altered (r : Columns) :
    ((altered r).foldl (step Sha256.digest) start).table.rows = [(1, r)] := rfl

lemma original_altered (r : Columns) :
    ((altered r).foldl (step Sha256.digest) start).original (1, r) = firstRow := rfl

theorem relinked_row_noticed :
    Evident Sha256.digest ((altered firstRow).foldl (step Sha256.digest) start).table 0 ∧
    Evident Sha256.digest ((altered relinkedRow).foldl (step Sha256.digest) start).table 0 ∧
    verifyChain (oneRow.update 1 (fun _ => relinkedRow)) 0 = false := by
  obtain ⟨hwritten, hkept, hnoticed⟩ := verify_chain_evidence_iff Sha256.digest
  refine ⟨?_, ?_, ?_⟩
  · apply hwritten
    intro x hx _
    rw [rows_altered] at hx
    rw [List.mem_singleton.mp hx]
    rfl
  · apply (hkept (altered relinkedRow) 0 (keepsHash_altered ⟨rfl, rfl⟩) ?_).mpr
    · refine Or.inl ⟨(1, relinkedRow), List.mem_singleton.mpr rfl, rfl, ?_⟩
      rw [original_altered]
      decide
    · intro x hx hs
      rw [rows_altered] at hx
      rw [List.mem_singleton.mp hx, original_altered] at hs
      have hne : Sha256.digest (rowText relinkedRow) ≠ Sha256.digest (rowText firstRow) := by decide +kernel
      exact absurd hs hne
  · have hv : verifyChain oneRow 0 = true := rfl
    have hr : (1, firstRow) ∈ oneRow.rows := List.mem_singleton.mpr rfl
    apply (hnoticed oneRow 0 hv 1 firstRow relinkedRow hr rfl rfl).mpr
    have hne : relinkedRow.preHash ≠ firstRow.preHash := by decide
    exact hne

theorem changed_amount_accepted :
    ¬ ∀ (t : AllocationTable) (e : Int64), Evident Sha256.digest t e := by
  intro h
  have hsealed := h (oneRow.update 1 (fun _ => paidRow)) 0 rfl paidRow (List.mem_singleton.mpr rfl)
  revert hsealed
  decide +kernel

end ZzP2p.Db.EpochAllocation
