import ZzP2p.Db.Epoch

/-! What happens to settled epochs. `update_tick_count` and `finalize` take the row of the day as it
is, settled or not. -/

namespace ZzP2p.Db.Epoch

open Lib Lib.Runs

inductive Operation
  | call (c : Call)
  | create (w : Statement) (day : Int64) (preHash : String)
  | insert (w : Statement) (day startTime : Int64)

def perform (t : EpochTable) : Operation → Except StoreError Unit × EpochTable
  | .call c => call t c
  | .create w day preHash =>
    let (result, t) := create w t day preHash
    (result.map (fun _ => ()), t)
  | .insert w day startTime =>
    let (result, t) := insert w t day startTime
    (result.map (fun _ => ()), t)

def operate (t : EpochTable) (o : Operation) : EpochTable := (perform t o).2

structure Settlement where
  tickCount : UInt8
  totalReward : String
  hash : String
  preHash : String
  endTime : Option Int64
deriving DecidableEq

def Columns.settlement (r : Columns) : Settlement :=
  ⟨r.tickCount, r.totalReward, r.hash, r.preHash, r.endTime⟩

def Keeps (t t' : EpochTable) : Prop :=
  ∀ p ∈ t.rows, p.2.settled = true →
    ∃ r, (p.1, r) ∈ t'.rows ∧ r.settled = true ∧ r.settlement = p.2.settlement

def ChangesSettled (t : EpochTable) (day : Int64) (f : Columns → Columns) : Prop :=
  ∃ p ∈ getByIndex t day, p.2.settled = true ∧ (f p.2).settlement ≠ p.2.settlement

def Overwrites (t : EpochTable) : Operation → Prop
  | .call (.updateTickCount _ day tickCount) => ChangesSettled t day (withTickCount tickCount)
  | .call (.finalize w day hash tickCount totalReward) =>
    ChangesSettled t day (closed w.now hash tickCount totalReward)
  | _ => False

def Rejected (t : EpochTable) (o : Operation) : Prop :=
  (∃ e, (perform t o).1 = .error e) ∧ (perform t o).2 = t

def Operation.refusal : Operation → Option String
  | .call (.getCurrentOrCreate w _) | .call (.updateTickCount w _ _) | .call (.finalize w _ _ _ _)
  | .create w _ _ | .insert w _ _ => w.refusal

/-- A settled row is given other values only by a statement that the database refuses. -/
def Respects (t : EpochTable) (o : Operation) : Prop := Overwrites t o → o.refusal.isSome = true

variable {t t' t'' : EpochTable}

lemma Keeps.refl (t : EpochTable) : Keeps t t := fun p hp hs => ⟨p.2, hp, hs, rfl⟩

lemma Keeps.trans (h : Keeps t t') (h' : Keeps t' t'') : Keeps t t'' := by
  intro p hp hs
  obtain ⟨r, hr, hrs, hre⟩ := h p hp hs
  obtain ⟨q, hq, hqs, hqe⟩ := h' (p.1, r) hr hrs
  exact ⟨q, hq, hqs, hqe.trans hre⟩

lemma keeps_insertRow (w : Statement) (v : Columns) : Keeps t (insertRow w t v).2 := by
  rcases insertRow_cases w t v with ⟨e, he⟩ | ⟨-, hok⟩
  · rw [he]
    exact Keeps.refl t
  · rw [hok]
    intro p hp hs
    exact ⟨p.2, List.mem_append_left _ hp, hs, rfl⟩

lemma keeps_getCurrentOrCreate (w : Statement) (preHash : String) :
    Keeps t (getCurrentOrCreate w t preHash).2 := by
  rw [getCurrentOrCreate]
  cases getLatest t with
  | none => exact keeps_insertRow w _
  | some latest =>
    cases hs : latest.settled with
    | false => simpa [hs] using Keeps.refl t
    | true =>
      simp only [hs, Bool.not_true, Bool.false_eq_true, if_false]
      exact keeps_insertRow w _

lemma keeps_update_iff {id : ℕ} {r : Columns} (hr : (id, r) ∈ t.rows) {f : Columns → Columns}
    (hsettled : r.settled = true → (f r).settled = true) :
    Keeps t (t.update id f) ↔ (r.settled = true → (f r).settlement = r.settlement) := by
  obtain ⟨l₁, l₂, hrows, hlt₁, hlt₂, hupdate⟩ := Table.rows_update hr f
  constructor
  · intro h hs
    obtain ⟨q, hq, -, hqe⟩ := h (id, r) hr hs
    rw [hupdate] at hq
    rcases List.mem_append.mp hq with hq | hq
    · exact absurd (hlt₁ _ hq) (lt_irrefl _)
    · rcases List.mem_cons.mp hq with hq | hq
      · rw [← hqe, (Prod.mk.inj hq).2]
      · exact absurd (hlt₂ _ hq) (lt_irrefl _)
  · intro h p hp hs
    rw [hrows] at hp
    rw [hupdate]
    rcases List.mem_append.mp hp with hp | hp
    · exact ⟨p.2, List.mem_append_left _ hp, hs, rfl⟩
    · rcases List.mem_cons.mp hp with rfl | hp
      · exact ⟨f r, List.mem_append_right _ List.mem_cons_self, hsettled hs, h hs⟩
      · exact ⟨p.2, List.mem_append_right _ (List.mem_cons_of_mem _ hp), hs, rfl⟩

lemma keeps_change_iff (w : Statement) (day : Int64) {f : Columns → Columns}
    (hsettled : ∀ r, r.settled = true → (f r).settled = true) :
    Keeps t (change w t day f).2 ↔ (ChangesSettled t day f → w.refusal.isSome = true) := by
  rcases change_cases w t day f with ⟨hno, e, he⟩ | ⟨p, hp, hw, hok⟩
  · rw [he]
    refine iff_of_true (Keeps.refl t) ?_
    rintro ⟨p, hp, -⟩
    rcases hno with hnone | hw
    · rw [hnone] at hp
      cases hp
    · exact Option.isSome_iff_ne_none.mpr hw
  · rw [hok, keeps_update_iff (Table.find?_eq_some hp).1 (hsettled p.2)]
    simp [ChangesSettled, hp, hw]

lemma keeps_operate_iff (t : EpochTable) (o : Operation) : Keeps t (operate t o) ↔ Respects t o := by
  cases o with
  | call c =>
    cases c with
    | getCurrentOrCreate w preHash => exact iff_of_true (keeps_getCurrentOrCreate w preHash) False.elim
    | updateTickCount w day tickCount => exact keeps_change_iff w day (fun _ hr => hr)
    | finalize w day hash tickCount totalReward => exact keeps_change_iff w day (fun _ _ => rfl)
  | create w day preHash => exact iff_of_true (keeps_insertRow w _) False.elim
  | insert w day startTime => exact iff_of_true (keeps_insertRow w _) False.elim

lemma change_refused {w : Statement} {day : Int64} {f : Columns → Columns} (hw : w.refusal.isSome = true) :
    (∃ e, (change w t day f).1 = .error e) ∧ (change w t day f).2 = t := by
  rcases change_cases w t day f with ⟨-, e, he⟩ | ⟨p, -, hok, -⟩
  · rw [he]
    exact ⟨⟨e, rfl⟩, rfl⟩
  · exact absurd hok (Option.isSome_iff_ne_none.mp hw)

lemma rejected_of_respects {o : Operation} (h : Respects t o) (ho : Overwrites t o) : Rejected t o := by
  have hw := h ho
  cases o with
  | call c =>
    cases c with
    | getCurrentOrCreate w preHash => exact ho.elim
    | updateTickCount w day tickCount => exact change_refused hw
    | finalize w day hash tickCount totalReward => exact change_refused hw
  | create w day preHash => exact ho.elim
  | insert w day startTime => exact ho.elim

theorem settled_immutable_iff (t : EpochTable) (run : List Operation) :
    ((∀ xs ys zs, run = xs ++ ys ++ zs → Keeps (xs.foldl operate t) ((xs ++ ys).foldl operate t)) ∧
      ∀ xs o ys, run = xs ++ o :: ys → Overwrites (xs.foldl operate t) o → Rejected (xs.foldl operate t) o) ↔
      Guarded operate Respects t run := by
  have hkeeps : Guarded operate Respects t run ↔ Guarded operate (fun t o => Keeps t (operate t o)) t run :=
    ⟨guarded_mono (fun t o => (keeps_operate_iff t o).mpr),
      guarded_mono (fun t o => (keeps_operate_iff t o).mp)⟩
  rw [← guarded_iff_forall_segment Keeps.refl (fun _ _ _ => Keeps.trans), ← hkeeps]
  refine ⟨And.left, fun h => ⟨h, ?_⟩⟩
  intro xs o ys he ho
  exact rejected_of_respects (guarded_iff_forall_split.mp h xs o ys he) ho

def accepted : Statement := ⟨0, none⟩

def settledTwice : List Operation :=
  [.call (.getCurrentOrCreate accepted ""), .call (.finalize accepted 0 "h" 1 "10"),
    .call (.finalize accepted 0 "h" 1 "20")]

theorem settled_epoch_rewritten :
    ¬ ∀ (t : EpochTable) (run : List Operation) (xs ys zs : List Operation), run = xs ++ ys ++ zs →
      Keeps (xs.foldl operate t) ((xs ++ ys).foldl operate t) := by
  intro h
  have hkeeps := h Table.empty settledTwice (settledTwice.take 2) (settledTwice.drop 2) [] rfl
  obtain ⟨r, hr, -, hs⟩ := hkeeps (1, ⟨0, 0, some 0, 1, "10", true, "", "h"⟩) (List.mem_singleton.mpr rfl) rfl
  obtain rfl := (Prod.mk.inj (List.mem_singleton.mp hr)).2
  exact absurd (congrArg Settlement.totalReward hs) (by decide)

end ZzP2p.Db.Epoch
