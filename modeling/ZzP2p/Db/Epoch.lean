import ZzP2p.Db.Database
import ZzP2p.Lib.Runs

/-! The epoch store. Nothing in the table itself keeps the days apart or a settled epoch closed. -/

namespace ZzP2p.Db.Epoch

open Lib Lib.Runs

structure Columns where
  day : Int64
  startTime : Int64
  endTime : Option Int64
  tickCount : UInt8
  totalReward : String
  settled : Bool
  preHash : String
  hash : String
deriving DecidableEq

abbrev EpochTable := Table Columns

def getByIndex (t : EpochTable) (day : Int64) : Option (ℕ × Columns) := t.find? (fun r => r.day == day)

def maxByDay (m : Option Columns) (r : Columns) : Option Columns :=
  match m with
  | none => some r
  -- of two rows with the same day the later one wins
  | some m => if r.day < m.day then some m else some r

def getLatest (t : EpochTable) : Option Columns := t.values.foldl maxByDay none

def getCurrent (t : EpochTable) : Option Columns :=
  (getLatest t).bind (fun e => if !e.settled then some e else none)

def insert (w : Statement) (t : EpochTable) (day startTime : Int64) :
    Except StoreError Columns × EpochTable :=
  insertRow w t ⟨day, startTime, none, 0, "", false, String.ofList (List.replicate 32 '0'), ""⟩

def create (w : Statement) (t : EpochTable) (day : Int64) (preHash : String) :
    Except StoreError Columns × EpochTable :=
  insertRow w t ⟨day, w.now, none, 0, "", false, preHash, ""⟩

def change (w : Statement) (t : EpochTable) (day : Int64) (f : Columns → Columns) :
    Except StoreError Unit × EpochTable :=
  match getByIndex t day with
  | some record => updateRow w t record.1 f
  | none => (.error (.anyhow "Epoch not found"), t)

def withTickCount (tickCount : UInt8) (r : Columns) : Columns := { r with tickCount := tickCount }

def closed (now : Int64) (hash : String) (tickCount : UInt8) (totalReward : String) (r : Columns) : Columns :=
  { r with
    endTime := some now
    tickCount := tickCount
    totalReward := totalReward
    settled := true
    hash := hash }

def updateTickCount (w : Statement) (t : EpochTable) (day : Int64) (tickCount : UInt8) :
    Except StoreError Unit × EpochTable :=
  change w t day (withTickCount tickCount)

def finalize (w : Statement) (t : EpochTable) (day : Int64) (hash : String) (tickCount : UInt8)
    (totalReward : String) : Except StoreError Unit × EpochTable :=
  change w t day (closed w.now hash tickCount totalReward)

def getCurrentOrCreate (w : Statement) (t : EpochTable) (preHash : String) :
    Except StoreError Columns × EpochTable :=
  match getLatest t with
  | some latest =>
    if !latest.settled then (.ok latest, t)
    else create w t (latest.day + 1) preHash
  | none => create w t 0 preHash

inductive Call
  | getCurrentOrCreate (w : Statement) (preHash : String)
  | updateTickCount (w : Statement) (day : Int64) (tickCount : UInt8)
  | finalize (w : Statement) (day : Int64) (hash : String) (tickCount : UInt8) (totalReward : String)

def call (t : EpochTable) : Call → Except StoreError Unit × EpochTable
  | .getCurrentOrCreate w preHash =>
    let (result, t) := getCurrentOrCreate w t preHash
    (result.map (fun _ => ()), t)
  | .updateTickCount w day tickCount => updateTickCount w t day tickCount
  | .finalize w day hash tickCount totalReward => finalize w t day hash tickCount totalReward

/-- The days are `0, 1, …` in the order of the rows, and all rows but the last are settled. -/
structure Sequence (t : EpochTable) : Prop where
  days : t.values.map (fun r => r.day.toInt) = (List.range t.values.length).map Int.ofNat
  settled : ∀ r ∈ t.values.dropLast, r.settled = true
  current : getCurrent t = t.values.getLast?.filter (fun r => !r.settled)

structure Inv (t : EpochTable) : Prop where
  keys : t.rows.length = t.seq
  room : t.seq < 2 ^ 63
  days : t.values.map (fun r => r.day.toInt) = (List.range t.values.length).map Int.ofNat
  settled : ∀ r ∈ t.values.dropLast, r.settled = true

variable {t : EpochTable}

lemma foldl_maxByDay {rows : List Columns} (h : rows.Pairwise (fun q r => q.day < r.day)) :
    rows.foldl maxByDay none = rows.getLast? := by
  induction rows using List.reverseRecOn with
  | nil => rfl
  | append_singleton rows r ih =>
    obtain ⟨hrows, -, hlast⟩ := List.pairwise_append.mp h
    rw [List.foldl_append, ih hrows, List.foldl_cons, List.foldl_nil, List.getLast?_concat]
    cases hm : rows.getLast? with
    | none => rfl
    | some m =>
      have hlt : m.day < r.day := hlast m (List.mem_of_getLast? hm) r (List.mem_singleton_self r)
      rw [maxByDay, if_neg (Int64.not_lt.mpr (Int64.le_of_lt hlt))]

lemma Inv.ascending (h : Inv t) : t.values.Pairwise (fun q r => q.day < r.day) := by
  have hrange : (t.values.map (fun r => r.day.toInt)).Pairwise (· < ·) := by
    rw [h.days, List.pairwise_map]
    exact List.pairwise_lt_range.imp (fun {a b} hab => Int.ofNat_lt.mpr hab)
  exact (List.pairwise_map.mp hrange).imp (fun {q r} hqr => Int64.lt_iff_toInt_lt.mpr hqr)

lemma Inv.getLatest (h : Inv t) : getLatest t = t.values.getLast? := foldl_maxByDay h.ascending

lemma Inv.sequence (h : Inv t) : Sequence t := by
  refine ⟨h.days, h.settled, ?_⟩
  rw [getCurrent, h.getLatest]
  cases t.values.getLast? with
  | none => rfl
  | some e => cases he : e.settled <;> simp [he, Option.filter]

lemma Inv.insertRow (h : Inv t) (w : Statement) {v : Columns} (hday : v.day.toInt = t.values.length)
    (hall : ∀ r ∈ t.values, r.settled = true) : Inv (insertRow w t v).2 := by
  rcases insertRow_cases w t v with ⟨e, he⟩ | ⟨hroom, hok⟩
  · rw [he]
    exact h
  · rw [hok]
    refine ⟨?_, hroom, ?_, ?_⟩
    · simp [Table.insert, h.keys]
    · rw [Table.values_insert, List.map_append, h.days, List.length_append, List.length_singleton,
        List.range_succ, List.map_append, List.map_singleton, List.map_singleton, hday]
      rfl
    · rw [Table.values_insert, List.dropLast_concat]
      exact hall

lemma change_cases (w : Statement) (t : EpochTable) (day : Int64) (f : Columns → Columns) :
    ((getByIndex t day = none ∨ w.refusal ≠ none) ∧ ∃ e, change w t day f = (.error e, t)) ∨
      ∃ p, getByIndex t day = some p ∧ w.refusal = none ∧ change w t day f = (.ok (), t.update p.1 f) := by
  rw [change]
  cases getByIndex t day with
  | none => exact Or.inl ⟨Or.inl rfl, _, rfl⟩
  | some p =>
    rcases updateRow_cases w t p.1 f with ⟨hw, he⟩ | ⟨hw, hok⟩
    · exact Or.inl ⟨Or.inr hw, he⟩
    · exact Or.inr ⟨p, rfl, hw, hok⟩

lemma Inv.change (h : Inv t) (w : Statement) (day : Int64) {f : Columns → Columns}
    (hday : ∀ r, (f r).day = r.day) (hsettled : ∀ r, r.settled = true → (f r).settled = true) :
    Inv (change w t day f).2 := by
  rcases change_cases w t day f with ⟨-, e, he⟩ | ⟨record, -, -, hok⟩
  · rw [he]
    exact h
  · rw [hok]
    have hlength : (t.update record.1 f).values.length = t.values.length := by
      rw [Table.values_update, List.length_map, Table.values, List.length_map]
    refine ⟨?_, h.room, ?_, ?_⟩
    · simpa [Table.update] using h.keys
    · rw [hlength, ← h.days, Table.values_update, Table.values, List.map_map, List.map_map]
      refine List.map_congr_left (fun r _ => ?_)
      simp only [Function.comp_apply]
      split
      · rw [hday]
      · rfl
    · intro r hr
      rw [Table.values_update, ← List.map_dropLast] at hr
      obtain ⟨p, hp, rfl⟩ := List.mem_map.mp hr
      have hset : p.2.settled = true := by
        apply h.settled
        rw [Table.values, ← List.map_dropLast]
        exact List.mem_map_of_mem hp
      split
      · exact hsettled p.2 hset
      · exact hset

lemma Inv.day_latest (h : Inv t) {latest : Columns} (hl : t.values.getLast? = some latest) :
    (latest.day + 1).toInt = t.values.length := by
  obtain ⟨rows, hrows⟩ := List.getLast?_eq_some_iff.mp hl
  have hlength : t.values.length = rows.length + 1 := by simp [hrows]
  have hday : latest.day.toInt = rows.length := by
    have hdays := h.days
    rw [hlength, hrows, List.range_succ, List.map_append, List.map_append] at hdays
    exact List.singleton_injective (List.append_inj_right' hdays rfl)
  have hkeys : t.values.length < 2 ^ 63 := by
    rw [Table.values, List.length_map, h.keys]
    exact h.room
  have hone : (1 : Int64).toInt = 1 := rfl
  rw [Int64.toInt_add, hday, hone, Int.bmod_eq_of_le (by omega) (by omega), hlength]
  rfl

lemma Inv.getCurrentOrCreate (h : Inv t) (w : Statement) (preHash : String) :
    Inv (getCurrentOrCreate w t preHash).2 := by
  rw [Epoch.getCurrentOrCreate, h.getLatest]
  cases hl : t.values.getLast? with
  | none =>
    have hnil : t.values = [] := List.getLast?_eq_none_iff.mp hl
    apply h.insertRow
    · simp [hnil]
    · simp [hnil]
  | some latest =>
    cases hs : latest.settled with
    | false => simpa [hs] using h
    | true =>
      simp only [hs, Bool.not_true, Bool.false_eq_true, if_false]
      apply h.insertRow
      · exact h.day_latest hl
      · intro r hr
        obtain ⟨rows, hrows⟩ := List.getLast?_eq_some_iff.mp hl
        rw [hrows] at hr
        rcases List.mem_append.mp hr with hr | hr
        · apply h.settled
          rwa [hrows, List.dropLast_concat]
        · rw [List.mem_singleton.mp hr, hs]

lemma Inv.call (h : Inv t) (c : Call) : Inv (call t c).2 := by
  cases c with
  | getCurrentOrCreate w preHash => exact h.getCurrentOrCreate w preHash
  | updateTickCount w day tickCount => exact h.change w day (fun _ => rfl) (fun _ hr => hr)
  | finalize w day hash tickCount totalReward => exact h.change w day (fun _ => rfl) (fun _ _ => rfl)

theorem epoch_sequence (calls : List Call) :
    Sequence (calls.foldl (fun t c => (call t c).2) Table.empty) := by
  have hrun : ∀ t : EpochTable, Inv t → Inv (calls.foldl (fun t c => (call t c).2) t) := by
    induction calls with
    | nil => exact fun t h => h
    | cons c calls ih => exact fun t h => ih _ (h.call c)
  have hempty : Inv (Table.empty : EpochTable) := ⟨rfl, by decide, rfl, by simp⟩
  exact (hrun Table.empty hempty).sequence

end ZzP2p.Db.Epoch
