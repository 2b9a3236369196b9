import ZzP2p.Db.Database
import ZzP2p.Lib.Runs

/-! The meta store. Every writing call queries the row of its key and writes in a second statement,
outside any database transaction; the unique key is what keeps concurrent callers apart. -/

namespace ZzP2p.Db.Meta

open Lib Lib.Runs

inductive MetaKey
  | genesisApplied
  | networkType
deriving DecidableEq

def MetaKey.asStr : MetaKey → String
  | .genesisApplied => "genesis_applied"
  | .networkType => "network_type"

inductive NetworkType
  | test
  | gray
  | main
  | future

def NetworkType.asStr : NetworkType → String
  | .test => "test"
  | .gray => "gray"
  | .main => "main"
  | .future => "future"

structure Columns where
  key : String
  value : String
deriving DecidableEq

abbrev MetaTable := Table Columns

def find (key : MetaKey) (t : MetaTable) : Option (ℕ × Columns) := t.find? (fun m => m.key == key.asStr)

def insert (key : MetaKey) (value : String) (t : MetaTable) : Except StoreError Unit × MetaTable :=
  match insertUnique Columns.key t ⟨key.asStr, value⟩ with
  | .ok t' => (.ok (), t')
  | .error e => (.error e, t)

-- The three writers are given the answer of their query, which may be out of date by then.

def set (key : MetaKey) (value : String) (found : Option (ℕ × Columns)) (t : MetaTable) :
    Except StoreError Unit × MetaTable :=
  match found with
  | some existing => (.ok (), t.update existing.1 (fun m => { m with value := value }))
  | none => insert key value t

def markGenesisApplied (found : Option (ℕ × Columns)) (t : MetaTable) :
    Except StoreError Unit × MetaTable :=
  match found with
  | some _ => (.error (.anyhow "genesis already applied"), t)
  | none => insert .genesisApplied "true" t

def setNetwork (network : NetworkType) (found : Option (ℕ × Columns)) (t : MetaTable) :
    Except StoreError Unit × MetaTable :=
  match found with
  | some _ => (.error (.anyhow "network already set"), t)
  | none => insert .networkType network.asStr t

inductive Call
  | set (key : MetaKey) (value : String)
  | markGenesisApplied
  | setNetwork (network : NetworkType)

def Call.key : Call → MetaKey
  | .set key _ => key
  | .markGenesisApplied => .genesisApplied
  | .setNetwork _ => .networkType

def Call.write : Call → Option (ℕ × Columns) → MetaTable → Except StoreError Unit × MetaTable
  | .set key value => Meta.set key value
  | .markGenesisApplied => Meta.markGenesisApplied
  | .setNetwork network => Meta.setNetwork network

inductive Phase
  | start
  | found (row : Option (ℕ × Columns))
  | returned (result : Except StoreError Unit)

structure Shared (ι : Type) where
  table : MetaTable
  phase : ι → Phase

inductive Action (ι : Type)
  | find (i : ι)
  | write (i : ι)

section Tables

variable {t : MetaTable}

/-- the row with this number was written for `key` -/
def HasKey (t : MetaTable) (id : ℕ) (key : MetaKey) : Prop := ∃ m, (id, m) ∈ t.rows ∧ m.key = key.asStr

def rowsOf (key : MetaKey) (t : MetaTable) : List Columns := t.values.filter (fun m => m.key == key.asStr)

lemma asStr_inj {key key' : MetaKey} : key.asStr = key'.asStr ↔ key = key' := by
  cases key <;> cases key' <;> decide

lemma insert_fresh {key : MetaKey} (h : rowsOf key t = []) (value : String) :
    insert key value t = (.ok (), Table.insert t ⟨key.asStr, value⟩) := by
  have hany : t.values.any (fun m => m.key == key.asStr) = false := by
    simpa [rowsOf, List.filter_eq_nil_iff] using h
  simp [insert, insertUnique, hany]

lemma insert_taken {key : MetaKey} (h : rowsOf key t ≠ []) (value : String) :
    insert key value t = (.error .uniqueConstraint, t) := by
  have hany : t.values.any (fun m => m.key == key.asStr) = true := by
    simpa [rowsOf, List.filter_eq_nil_iff] using h
  simp [insert, insertUnique, hany]

lemma insert_cases (key : MetaKey) (value : String) (t : MetaTable) :
    (insert key value t).2 = t ∨ (insert key value t).2 = Table.insert t ⟨key.asStr, value⟩ := by
  by_cases h : rowsOf key t = []
  · exact Or.inr (by rw [insert_fresh h])
  · exact Or.inl (by rw [insert_taken h])

lemma write_cases (c : Call) (row : Option (ℕ × Columns)) (t : MetaTable) : (c.write row t).2 = t ∨
    (∃ r value, row = some r ∧
      (c.write row t).2 = t.update r.1 (fun m => { m with value := value })) ∨
    (∃ value, (c.write row t).2 = Table.insert t ⟨c.key.asStr, value⟩) := by
  cases row with
  | some r =>
    cases c with
    | set key value => exact Or.inr (Or.inl ⟨r, value, rfl, rfl⟩)
    | markGenesisApplied => exact Or.inl rfl
    | setNetwork network => exact Or.inl rfl
  | none =>
    have hinsert : ∃ value, c.write none t = insert c.key value t := by
      cases c with
      | set key value => exact ⟨value, rfl⟩
      | markGenesisApplied => exact ⟨"true", rfl⟩
      | setNetwork network => exact ⟨network.asStr, rfl⟩
    obtain ⟨value, hv⟩ := hinsert
    rw [hv]
    exact (insert_cases c.key value t).imp_right (fun h => Or.inr ⟨value, h⟩)

lemma HasKey.write {id : ℕ} {key : MetaKey} (h : HasKey t id key) (c : Call)
    (row : Option (ℕ × Columns)) : HasKey (c.write row t).2 id key := by
  obtain ⟨m, hm, hk⟩ := h
  rcases write_cases c row t with he | ⟨r, value, -, he⟩ | ⟨value, he⟩
  · rw [he]
    exact ⟨m, hm, hk⟩
  · rw [he]
    by_cases hid : id = r.1
    · exact ⟨{ m with value := value }, List.mem_map.mpr ⟨_, hm, by simp [hid]⟩, hk⟩
    · exact ⟨m, List.mem_map.mpr ⟨_, hm, by simp [hid]⟩, hk⟩
  · rw [he]
    exact ⟨m, List.mem_append_left _ hm, hk⟩

lemma hasKey_find {key : MetaKey} {r : ℕ × Columns} (h : find key t = some r) : HasKey t r.1 key := by
  obtain ⟨hr, hk⟩ := Table.find?_eq_some h
  exact ⟨r.2, hr, by simpa using hk⟩

lemma HasKey.rowsOf_ne_nil {id : ℕ} {key : MetaKey} (h : HasKey t id key) : rowsOf key t ≠ [] := by
  obtain ⟨m, hm, hk⟩ := h
  have hmem : m ∈ rowsOf key t := List.mem_filter.mpr ⟨List.mem_map.mpr ⟨_, hm, rfl⟩, by simp [hk]⟩
  exact List.ne_nil_of_mem hmem

lemma rowsOf_write {c : Call} {row : Option (ℕ × Columns)} {key : MetaKey} (hne : c.key ≠ key)
    (hrow : ∀ r, row = some r → HasKey t r.1 c.key) : rowsOf key (c.write row t).2 = rowsOf key t := by
  rcases write_cases c row t with he | ⟨r, value, hr, he⟩ | ⟨value, he⟩
  · rw [he]
  · obtain ⟨m, hm, hk⟩ := hrow r hr
    obtain ⟨l₁, l₂, hl, hl'⟩ := Table.update_split hm (fun m => { m with value := value })
    rw [he]
    simp [rowsOf, hl, hl', hk, asStr_inj, hne]
  · rw [he]
    simp [rowsOf, asStr_inj, hne]

end Tables

variable {ι : Type} [DecidableEq ι] (calls : ι → Call)

def step (s : Shared ι) : Action ι → Shared ι
  | .find i => match s.phase i with
    | .start => { s with phase := Function.update s.phase i (.found (find (calls i).key s.table)) }
    | _ => s
  | .write i => match s.phase i with
    | .found row =>
      let r := (calls i).write row s.table
      ⟨r.2, Function.update s.phase i (.returned r.1)⟩
    | _ => s

def start (t : MetaTable) : Shared ι := ⟨t, fun _ => .start⟩

variable {calls}

lemma step_cases (s : Shared ι) (a : Action ι) : step calls s a = s ∨
    (∃ i, s.phase i = .start ∧ step calls s a =
      { s with phase := Function.update s.phase i (.found (find (calls i).key s.table)) }) ∨
    (∃ i row, s.phase i = .found row ∧ step calls s a =
      ⟨((calls i).write row s.table).2,
        Function.update s.phase i (.returned ((calls i).write row s.table).1)⟩) := by
  cases a with
  | find i =>
    cases hp : s.phase i with
    | start => exact Or.inr (Or.inl ⟨i, hp, by simp only [step, hp]⟩)
    | found row => exact Or.inl (by simp only [step, hp])
    | returned r => exact Or.inl (by simp only [step, hp])
  | write i =>
    cases hp : s.phase i with
    | start => exact Or.inl (by simp only [step, hp])
    | found row => exact Or.inr (Or.inr ⟨i, row, hp, by simp only [step, hp]⟩)
    | returned r => exact Or.inl (by simp only [step, hp])

end ZzP2p.Db.Meta
