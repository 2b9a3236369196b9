import ZzP2p.Db.Database
import ZzP2p.Lib.Runs

/-! The table of witness seeds. The rate of a seed that is written again counts the new day above the
line only. Rates are exact quotients; where the divisor is zero there is none. -/

namespace ZzP2p.Db.WitnessSeed

open Lib Lib.Runs

structure Columns where
  ip : String
  port : Int32
  nodeId : String
  addedAt : Int64
  lastSeen : Int64
  isActive : Bool
  successCount : Int32
  failureCount : Int32
  onlineDays : Int64
  offlineDays : Int64
  onlineRate : Option ℚ
  isConnectable : Bool
  inactiveDays : Int64
  isIntranet : Bool
  metadata : String
deriving DecidableEq

abbrev SeedTable := Table Columns

def quotient (a b : Int64) : Option ℚ := if b = 0 then none else some ((a.toInt : ℚ) / (b.toInt : ℚ))

def findByIpPort (t : SeedTable) (ip : String) (port : Int32) : Option (ℕ × Columns) :=
  t.find? (fun r => r.ip == ip && r.port == port)

def again (now : Int64) (existing : Columns) : Columns :=
  { existing with
    lastSeen := if !existing.isActive then now else existing.lastSeen
    isActive := true
    successCount := existing.successCount + 1
    onlineDays := existing.onlineDays + 1
    onlineRate := quotient (existing.onlineDays + 1) (existing.onlineDays + existing.offlineDays) }

def newRow (now : Int64) (ip : String) (port : Int32) (nodeId : String) (isIntranet : Bool) : Columns where
  ip := ip
  port := port
  nodeId := nodeId
  addedAt := now
  lastSeen := now
  isActive := true
  successCount := 1
  failureCount := 0
  onlineDays := 1
  offlineDays := 0
  onlineRate := some 1
  isConnectable := true
  inactiveDays := 0
  isIntranet := isIntranet
  metadata := "\x7b\x7d"

def upsert (w : Statement) (t : SeedTable) (ip : String) (port : Int32) (nodeId : String)
    (isIntranet : Bool) : Except StoreError Unit × SeedTable :=
  match findByIpPort t ip port with
  | some existing => updateRow w t existing.1 (fun _ => again w.now existing.2)
  | none =>
    let (result, t) := insertRow w t (newRow w.now ip port nodeId isIntranet)
    (result.map (fun _ => ()), t)

abbrev ByAddedAt := OrderBy (fun q r : ℕ × Columns => q.2.addedAt ≤ r.2.addedAt)

def getActiveSeeds (order : ByAddedAt) (t : SeedTable) : List (ℕ × Columns) :=
  order.arrange (t.rows.filter (fun r => r.2.isActive))

def clearAll (w : Statement) (t : SeedTable) : Except StoreError Unit × SeedTable :=
  match w.refusal with
  | some message => (.error (.anyhow message), t)
  | none => (.ok (), t.clear)

def key (r : Columns) : String × Int32 := (r.ip, r.port)

variable {w : Statement} {t : SeedTable} {ip nodeId : String} {port : Int32} {isIntranet : Bool}

lemma findByIpPort_eq_none (h : findByIpPort t ip port = none) : ∀ r ∈ t.values, key r ≠ (ip, port) := by
  intro r hr hk
  have hno := Table.find?_eq_none h r hr
  simp only [key, Prod.mk.injEq] at hk
  simp [hk] at hno

lemma upsert_cases :
    ((w.refusal ≠ none ∨ ∀ r ∈ t.values, key r ≠ (ip, port)) ∧
      ∃ e, upsert w t ip port nodeId isIntranet = (.error e, t)) ∨
    ((∀ r ∈ t.values, key r ≠ (ip, port)) ∧ upsert w t ip port nodeId isIntranet =
      (.ok (), t.insert (newRow w.now ip port nodeId isIntranet))) ∨
    (w.refusal = none ∧ (upsert w t ip port nodeId isIntranet).1 = .ok () ∧
      ∃ l₁ r l₂, key r = (ip, port) ∧ t.values = l₁ ++ r :: l₂ ∧
        (upsert w t ip port nodeId isIntranet).2.values = l₁ ++ again w.now r :: l₂) := by
  cases hf : findByIpPort t ip port with
  | none =>
    have hno := findByIpPort_eq_none hf
    rcases insertRow_cases w t (newRow w.now ip port nodeId isIntranet) with ⟨e, he⟩ | ⟨-, hok⟩
    · refine Or.inl ⟨Or.inr hno, e, ?_⟩
      rw [upsert, hf]
      simp only [he]
      rfl
    · refine Or.inr (Or.inl ⟨hno, ?_⟩)
      rw [upsert, hf]
      simp only [hok]
      rfl
  | some existing =>
    have heq : upsert w t ip port nodeId isIntranet =
        updateRow w t existing.1 (fun _ => again w.now existing.2) := by rw [upsert, hf]
    rw [heq]
    rcases updateRow_cases w t existing.1 (fun _ => again w.now existing.2) with ⟨hw, he⟩ | ⟨hw, hok⟩
    · exact Or.inl ⟨Or.inl hw, he⟩
    · obtain ⟨hr, hk⟩ := Table.find?_eq_some hf
      obtain ⟨l₁, l₂, hl, hu⟩ := Table.update_split hr (fun _ => again w.now existing.2)
      rw [hok]
      refine Or.inr (Or.inr ⟨hw, rfl, l₁, existing.2, l₂, ?_, hl, hu⟩)
      simpa [key] using hk

structure IsRate (r : Columns) : Prop where
  online : 1 ≤ r.onlineDays.toInt
  offline : 0 ≤ r.offlineDays.toInt
  rate : r.onlineRate = some ((r.onlineDays.toInt : ℚ) / (r.onlineDays.toInt + r.offlineDays.toInt : ℚ))
  le_one : ∀ q ∈ r.onlineRate, q ≤ 1
  divisor : r.onlineDays.toInt + r.offlineDays.toInt ≠ 0

structure Call where
  w : Statement
  ip : String
  port : Int32
  nodeId : String
  isIntranet : Bool

def call (t : SeedTable) (c : Call) : SeedTable := (upsert c.w t c.ip c.port c.nodeId c.isIntranet).2

/-- the database refuses the call, or it has no seed with that address yet -/
def Fresh (t : SeedTable) (c : Call) : Prop :=
  c.w.refusal ≠ none ∨ ∀ r ∈ t.values, key r ≠ (c.ip, c.port)

lemma isRate_newRow (now : Int64) : IsRate (newRow now ip port nodeId isIntranet) := by
  have hone : (newRow now ip port nodeId isIntranet).onlineDays.toInt = 1 := rfl
  have hzero : (newRow now ip port nodeId isIntranet).offlineDays.toInt = 0 := rfl
  refine ⟨hone.ge, hzero.ge, ?_, by simp [newRow], by simp [hone, hzero]⟩
  rw [hone, hzero]
  norm_num [newRow]

lemma toInt_add_mod (a b : Int64) : ((a + b).toInt - (a.toInt + b.toInt)) % 2 ^ 64 = 0 := by
  rw [Int64.toInt_add]
  exact Int.emod_eq_zero_of_dvd Int.dvd_bmod_sub_self

/-- The divisor is one too small, so the quotient is another number or none. -/
lemma not_isRate_again (now : Int64) (r : Columns) : ¬ IsRate (again now r) := by
  intro h
  have honline := h.online
  have hoffline := h.offline
  have hrate := h.rate
  simp only [again] at honline hoffline hrate
  rw [quotient] at hrate
  split at hrate
  · cases hrate
  · have hnum : ((r.onlineDays + 1).toInt : ℚ) ≠ 0 := by
      rw [Int.cast_ne_zero]
      omega
    have hquot := Option.some.inj hrate
    rw [div_eq_mul_inv, div_eq_mul_inv] at hquot
    have hdiv := inv_inj.mp (mul_left_cancel₀ hnum hquot)
    have hsum : (r.onlineDays + r.offlineDays).toInt = (r.onlineDays + 1).toInt + r.offlineDays.toInt := by
      exact_mod_cast hdiv
    have hnew := toInt_add_mod r.onlineDays 1
    have hold := toInt_add_mod r.onlineDays r.offlineDays
    have hone : (1 : Int64).toInt = 1 := rfl
    rw [hone] at hnew
    omega

lemma isRate_call_iff (t : SeedTable) (c : Call) (h : ∀ r ∈ t.values, IsRate r) :
    (∀ r ∈ (call t c).values, IsRate r) ↔ Fresh t c := by
  rw [call]
  rcases upsert_cases with ⟨hfresh, e, he⟩ | ⟨hno, hok⟩ | ⟨hw, -, l₁, r, l₂, hk, hl, hv⟩
  · rw [he]
    exact iff_of_true h hfresh
  · rw [hok, Table.values_insert]
    refine iff_of_true (fun r hr => ?_) (Or.inr hno)
    rcases List.mem_append.mp hr with hr | hr
    · exact h r hr
    · rw [List.mem_singleton.mp hr]
      exact isRate_newRow _
  · refine iff_of_false (fun hall => ?_) ?_
    · exact not_isRate_again c.w.now r (hall _ (by simp [hv]))
    · rintro (hr | hr)
      · exact hr hw
      · exact hr r (by simp [hl]) hk

lemma not_isRate_call (t : SeedTable) (c : Call) (h : ¬ ∀ r ∈ t.values, IsRate r) :
    ¬ ∀ r ∈ (call t c).values, IsRate r := by
  intro hall
  apply h
  intro q hq
  rw [call] at hall
  rcases upsert_cases with ⟨-, e, he⟩ | ⟨-, hok⟩ | ⟨-, -, l₁, r, l₂, -, -, hv⟩
  · rw [he] at hall
    exact hall q hq
  · rw [hok, Table.values_insert] at hall
    exact hall q (List.mem_append_left _ hq)
  · exact absurd (hall _ (by simp [hv])) (not_isRate_again c.w.now r)

theorem online_rate_iff (calls : List Call) :
    (∀ r ∈ (calls.foldl call Table.empty).values, IsRate r) ↔ Guarded call Fresh Table.empty calls :=
  guarded_iff_last isRate_call_iff not_isRate_call (by simp) calls

def sameSeed : Call := ⟨⟨0, none⟩, "1.2.3.4", 80, "n", false⟩

theorem second_upsert_rates_two :
    (([sameSeed, sameSeed].foldl call Table.empty).values.map (fun r => (r.onlineDays, r.onlineRate)) =
        [(2, some 2)]) ∧
      ¬ ∀ calls : List Call, ∀ r ∈ (calls.foldl call Table.empty).values, IsRate r := by
  have hrow : ([sameSeed, sameSeed].foldl call Table.empty).values =
      [again 0 (newRow 0 "1.2.3.4" 80 "n" false)] := rfl
  constructor
  · have hrate : (again 0 (newRow 0 "1.2.3.4" 80 "n" false)).onlineRate = some (2 / 1) := rfl
    rw [hrow, List.map_singleton, hrate, div_one]
    rfl
  · intro h
    apply not_isRate_again 0 (newRow 0 "1.2.3.4" 80 "n" false)
    exact h [sameSeed, sameSeed] _ (hrow ▸ List.mem_singleton_self _)

end ZzP2p.Db.WitnessSeed
