import ZzP2p.Lib.Sha256
import ZzP2p.Protocols.RegistryMerge
import ZzP2p.Protocols.SeedSync

/-! The attempts to synchronise with one peer. An attempt counts as a success when the seed set that is
derived from the own registry carries its own hash. -/

namespace ZzP2p.Protocols.SyncAttempt

open Rust Lib

/-- what other tasks do to the node's table: they handle responses and change the registry -/
inductive Handled
  | response (peer : SocketAddr) (set : SeedSet)
  | operate (o : NodeRegistry.Operation)

/-- What an attempt meets. The function given to `connect` may run in a task of its own; `stores` says
that it has come to its end when the flag is read. `waiting` is handled between the request and that
moment, `pause` between a failed attempt and the next one. -/
structure Attempt where
  sessionKeys : Bool
  existing : Bool
  connects : Bool
  sends : Bool
  stores : Bool
  node : Option PeerTable
  waiting : List Handled
  pause : List Handled

variable (sha256 : Bytes → Digest)

def handle (t : PeerTable) : Handled → PeerTable
  | .response _ set => seedSyncResponseHandler sha256 t set
  | .operate o => { t with registry := t.registry.operate o }

def localSet (a : Attempt) : SeedSet :=
  a.node.elim (.new sha256 []) (fun t => deriveSeedSetFromRegistry sha256 t.registry)

def mergedSet (a : Attempt) : SeedSet :=
  a.node.elim (localSet sha256 a)
    (fun t => deriveSeedSetFromRegistry sha256 (a.waiting.foldl (handle sha256) t).registry)

/-- the value that the two senders leave in the flag, which is false before -/
def sendAndVerify (a : Attempt) : Bool := if a.sends then (mergedSet sha256 a).verify sha256 else false

def sendSeedSyncViaExistingCtx (a : Attempt) : Bool := sendAndVerify sha256 a

def sendSeedSyncRequest (a : Attempt) : Bool := sendAndVerify sha256 a

def syncOnce (a : Attempt) : Bool :=
  if !a.sessionKeys then false
  else if a.existing then sendSeedSyncViaExistingCtx sha256 a
  else if a.connects then a.stores && sendSeedSyncRequest sha256 a
  else false

def trySyncs : List Attempt → Bool
  | [] => false
  | a :: attempts => if syncOnce sha256 a then true else trySyncs attempts

def trySyncWithPeerGlobal (attempts : Fin 3 → Attempt) : Bool := trySyncs sha256 (List.ofFn attempts)

inductive Moment
  | sent
  | handled (h : Handled)

def Attempt.requested (a : Attempt) : Bool := a.sessionKeys && (a.existing || a.connects) && a.sends

def Attempt.noted (a : Attempt) : Bool := a.sessionKeys && (a.existing || a.connects && a.stores) && a.sends

/-- what happens up to the end of the first attempt whose request is noted -/
def history : List Attempt → List Moment
  | [] => []
  | a :: attempts =>
    (if a.requested then [.sent] else []) ++ a.waiting.map .handled ++
      if a.noted then [] else a.pause.map .handled ++ history attempts

def Answered (peer : SocketAddr) (ms : List Moment) : Prop :=
  ∃ xs ys set, ms = xs ++ .sent :: ys ∧ .handled (.response peer set) ∈ ys

def Answers (peer : SocketAddr) (hs : List Handled) : Prop := ∃ set, .response peer set ∈ hs

/-- A response is handled after the request of an attempt `j` and before attempt `i` ends. -/
def AnsweredBy (peer : SocketAddr) {n : ℕ} (attempts : Fin n → Attempt) (i : Fin n) : Prop :=
  ∃ j ≤ i, (attempts j).requested = true ∧
    ((∃ k, j ≤ k ∧ k ≤ i ∧ Answers peer (attempts k).waiting) ∨
      ∃ k, j ≤ k ∧ k < i ∧ Answers peer (attempts k).pause)

lemma verify_derived (reg : NodeRegistry) : (deriveSeedSetFromRegistry sha256 reg).verify sha256 = true :=
  decide_eq_true rfl

lemma verify_mergedSet (a : Attempt) : (mergedSet sha256 a).verify sha256 = true := by
  rw [mergedSet, localSet]
  cases a.node with
  | none => exact decide_eq_true rfl
  | some t => exact verify_derived sha256 _

lemma syncOnce_eq (a : Attempt) : syncOnce sha256 a = a.noted := by
  have hsend : sendAndVerify sha256 a = a.sends := by
    rw [sendAndVerify, verify_mergedSet]
    cases a.sends <;> rfl
  rw [syncOnce, sendSeedSyncViaExistingCtx, sendSeedSyncRequest, hsend, Attempt.noted]
  cases a.sessionKeys <;> cases a.existing <;> cases a.connects <;> simp

lemma trySyncs_eq (attempts : List Attempt) : trySyncs sha256 attempts = attempts.any Attempt.noted := by
  induction attempts with
  | nil => rfl
  | cons a attempts ih =>
    rw [trySyncs, syncOnce_eq, ih, List.any_cons]
    cases a.noted <;> rfl

lemma Attempt.requested_of_noted {a : Attempt} (h : a.noted = true) : a.requested = true := by
  simp only [Attempt.noted, Attempt.requested, Bool.and_eq_true, Bool.or_eq_true] at h ⊢
  tauto

section History

def Hears (peer : SocketAddr) (ms : List Moment) : Prop := ∃ set, .handled (.response peer set) ∈ ms

variable {peer : SocketAddr} {ms ms' : List Moment} {hs : List Handled} {a : Attempt}

lemma hears_append : Hears peer (ms ++ ms') ↔ Hears peer ms ∨ Hears peer ms' := by
  simp only [Hears, List.mem_append, exists_or]

lemma hears_handled : Hears peer (hs.map .handled) ↔ Answers peer hs := by
  simp [Hears, Answers]

lemma hears_sent : Hears peer (.sent :: ms) ↔ Hears peer ms := by
  simp [Hears]

lemma not_hears_sent {sent : Bool} : ¬ Hears peer (if sent then [.sent] else []) := by
  cases sent <;> simp [Hears]

lemma answered_sent : Answered peer (.sent :: ms) ↔ Hears peer ms := by
  constructor
  · rintro ⟨xs, ys, set, he, hm⟩
    apply hears_sent.mp
    rw [he]
    exact ⟨set, by simp [hm]⟩
  · rintro ⟨set, hm⟩
    exact ⟨[], ms, set, rfl, hm⟩

lemma answered_handled {h : Handled} : Answered peer (.handled h :: ms) ↔ Answered peer ms := by
  constructor
  · rintro ⟨xs, ys, set, he, hm⟩
    cases xs with
    | nil => cases he
    | cons x xs => exact ⟨xs, ys, set, (List.cons.inj he).2, hm⟩
  · rintro ⟨xs, ys, set, rfl, hm⟩
    exact ⟨.handled h :: xs, ys, set, rfl, hm⟩

lemma answered_handled_append : Answered peer (hs.map .handled ++ ms) ↔ Answered peer ms := by
  induction hs with
  | nil => rfl
  | cons h hs ih => exact answered_handled.trans ih

lemma hears_history_cons {attempts : List Attempt} : Hears peer (history (a :: attempts)) ↔
    Answers peer a.waiting ∨
      a.noted = false ∧ (Answers peer a.pause ∨ Hears peer (history attempts)) := by
  rw [history, hears_append, hears_append, hears_handled, or_iff_right not_hears_sent]
  cases a.noted with
  | true => simp [Hears]
  | false => simp [hears_append, hears_handled]

lemma answered_history_requested {attempts : List Attempt} (hr : a.requested = true) :
    Answered peer (history (a :: attempts)) ↔ Hears peer (history (a :: attempts)) := by
  rw [history, if_pos hr, List.append_assoc, List.singleton_append, answered_sent, hears_sent]

lemma answered_history_unrequested {attempts : List Attempt} (hr : a.requested = false) :
    Answered peer (history (a :: attempts)) ↔ Answered peer (history attempts) := by
  have hn : a.noted = false := by
    by_contra hn
    rw [Attempt.requested_of_noted (Bool.not_eq_false _ ▸ hn)] at hr
    cases hr
  rw [history, hr, hn]
  simp only [Bool.false_eq_true, if_false, List.nil_append]
  rw [answered_handled_append, answered_handled_append]

variable {n : ℕ} {attempts : Fin n → Attempt} {i : Fin n}

lemma hears_history (hi : (attempts i).noted = true) (hfirst : ∀ j < i, (attempts j).noted = false) :
    Hears peer (history (List.ofFn attempts)) ↔
      (∃ k ≤ i, Answers peer (attempts k).waiting) ∨ ∃ k < i, Answers peer (attempts k).pause := by
  induction n with
  | zero => exact i.elim0
  | succ n ih =>
    rw [List.ofFn_succ, hears_history_cons]
    cases i using Fin.cases with
    | zero => simp [hi]
    | succ i =>
      rw [ih hi (fun j hj => hfirst j.succ (Fin.succ_lt_succ_iff.mpr hj)), hfirst 0 (Fin.succ_pos i)]
      simp only [Fin.exists_fin_succ, Fin.zero_le, true_and, Fin.succ_le_succ_iff, Fin.succ_pos,
        Fin.succ_lt_succ_iff]
      rw [or_or_or_comm, or_assoc]

lemma answered_history (hi : (attempts i).noted = true) (hfirst : ∀ j < i, (attempts j).noted = false) :
    Answered peer (history (List.ofFn attempts)) ↔ AnsweredBy peer attempts i := by
  induction n with
  | zero => exact i.elim0
  | succ n ih =>
    cases hr : (attempts 0).requested with
    | true =>
      -- the first request comes before everything else
      rw [List.ofFn_succ, answered_history_requested hr, ← List.ofFn_succ, hears_history hi hfirst]
      constructor
      · rintro (⟨k, hk, ha⟩ | ⟨k, hk, ha⟩)
        · exact ⟨0, Fin.zero_le _, hr, Or.inl ⟨k, Fin.zero_le _, hk, ha⟩⟩
        · exact ⟨0, Fin.zero_le _, hr, Or.inr ⟨k, Fin.zero_le _, hk, ha⟩⟩
      · rintro ⟨j, -, -, ⟨k, -, hk, ha⟩ | ⟨k, -, hk, ha⟩⟩
        · exact Or.inl ⟨k, hk, ha⟩
        · exact Or.inr ⟨k, hk, ha⟩
    | false =>
      rw [List.ofFn_succ, answered_history_unrequested hr]
      cases i using Fin.cases with
      | zero => rw [Attempt.requested_of_noted hi] at hr; cases hr
      | succ i =>
        rw [ih hi (fun j hj => hfirst j.succ (Fin.succ_lt_succ_iff.mpr hj)), AnsweredBy, AnsweredBy]
        simp [Fin.exists_fin_succ, hr]

lemma answered_history_noted (h : a.noted = true) :
    Answered peer (history [a]) ↔ Answers peer a.waiting := by
  rw [answered_history_requested (Attempt.requested_of_noted h), hears_history_cons]
  simp [h]

end History

lemma exists_first_noted {n : ℕ} {attempts : Fin n → Attempt} (h : ∃ i, (attempts i).noted = true) :
    ∃ i, (attempts i).noted = true ∧ ∀ j < i, (attempts j).noted = false := by
  have hwf : WellFounded ((· < ·) : Fin n → Fin n → Prop) := wellFounded_lt
  obtain ⟨i, hi, hmin⟩ := hwf.has_min {i | (attempts i).noted = true} h
  exact ⟨i, hi, fun j hj => Bool.eq_false_iff.mpr (fun hn => hmin j hn hj)⟩

lemma trySyncWithPeerGlobal_iff (attempts : Fin 3 → Attempt) :
    trySyncWithPeerGlobal sha256 attempts = true ↔ ∃ i, (attempts i).noted = true := by
  rw [trySyncWithPeerGlobal, trySyncs_eq, List.any_eq_true]
  simp only [List.mem_ofFn, exists_exists_eq_and]

theorem success_means_answered_iff (sha256 : Bytes → Digest) (peer : SocketAddr) :
    (∀ a : Attempt, (syncOnce sha256 a = true → Answered peer (history [a])) ↔
      (a.noted = true → Answers peer a.waiting)) ∧
    ∀ attempts : Fin 3 → Attempt,
      (trySyncWithPeerGlobal sha256 attempts = true → Answered peer (history (List.ofFn attempts))) ↔
        ∀ i, (attempts i).noted = true → (∀ j < i, (attempts j).noted = false) →
          AnsweredBy peer attempts i := by
  constructor
  · intro a
    rw [syncOnce_eq]
    exact forall_congr' (fun h => answered_history_noted h)
  · intro attempts
    rw [trySyncWithPeerGlobal_iff]
    constructor
    · intro h i hi hfirst
      exact (answered_history hi hfirst).mp (h ⟨i, hi⟩)
    · intro h hnoted
      obtain ⟨i, hi, hfirst⟩ := exists_first_noted hnoted
      exact (answered_history hi hfirst).mpr (h i hi hfirst)

def unanswered : Attempt where
  sessionKeys := true
  existing := true
  connects := false
  sends := true
  stores := false
  node := some ⟨.empty, []⟩
  waiting := []
  pause := []

theorem success_without_answer :
    ¬ ∀ (sha256 : Bytes → Digest) (peer : SocketAddr) (a : Attempt),
      syncOnce sha256 a = true → Answered peer (history [a]) := by
  intro h
  have ha := h Sha256.digest (.v4 ⟨1, 2, 3, 4⟩ 80) unanswered (syncOnce_eq _ _)
  obtain ⟨set, hm⟩ := (answered_history_noted rfl).mp ha
  exact absurd hm List.not_mem_nil

end ZzP2p.Protocols.SyncAttempt
