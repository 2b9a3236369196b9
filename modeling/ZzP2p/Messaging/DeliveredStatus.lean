import ZzP2p.Lib.Runs
import ZzP2p.Messaging.ChatCalls

/-! The status of sent messages over the interleavings of the chat requests to one contact. -/

namespace ZzP2p.Messaging.UserStore

open Lib.Runs

variable {s : Chat} {c : ℕ} {k : Call}

lemma consistent_store (h : Consistent s) (hs : (s.call c).stage = .begun)
    (contact content : String) (now : ℤ) :
    Consistent ⟨addMessage now s.msgs contact content true "sent",
      Function.update s.call c { s.call c with message := some s.msgs.length }⟩ := by
  have hin : ∀ c' i, (s.call c').message = some i → i < s.msgs.length := by
    intro c' i hi
    obtain ⟨m, hm, -⟩ := h.stored c' i hi
    exact (List.getElem?_eq_some_iff.mp hm).1
  refine ⟨fun c' => ?_, fun c' => ?_, fun c' i hi => ?_, fun c' c'' i h' h'' => ?_⟩
  · by_cases hc : c' = c
    · simp [hc, hs]
    · simpa [hc] using h.idle c'
  · by_cases hc : c' = c
    · simp [hc]
    · simpa [hc] using h.waiting c'
  · by_cases hc : c' = c
    · obtain rfl : s.msgs.length = i := by simpa [hc] using hi
      exact ⟨_, List.getElem?_concat_length, rfl⟩
    · obtain ⟨m, hm, hsent⟩ := h.stored c' i (by simpa [hc] using hi)
      exact ⟨m, addMessage_kept hm, hsent⟩
  · by_cases hc : c' = c <;> by_cases hc' : c'' = c
    · rw [hc, hc']
    · obtain rfl : s.msgs.length = i := by simpa [hc] using h'
      exact absurd (hin c'' _ (by simpa [hc'] using h'')) (lt_irrefl _)
    · obtain rfl : s.msgs.length = i := by simpa [hc'] using h''
      exact absurd (hin c' _ (by simpa [hc] using h')) (lt_irrefl _)
    · exact h.distinct c' c'' i (by simpa [hc] using h') (by simpa [hc'] using h'')

lemma faithful_store (hc : Consistent s) (h : Faithful s) (hs : (s.call c).stage = .begun)
    (contact content : String) (now : ℤ) :
    Faithful ⟨addMessage now s.msgs contact content true "sent",
      Function.update s.call c { s.call c with message := some s.msgs.length }⟩ := by
  have hcalls : ∀ i, (∃ c', (Function.update s.call c
        { s.call c with message := some s.msgs.length } c').message = some i ∧
      (Function.update s.call c { s.call c with message := some s.msgs.length } c').stage =
        .confirmed) ↔ ∃ c', (s.call c').message = some i ∧ (s.call c').stage = .confirmed := by
    intro i
    refine exists_congr (fun c' => ?_)
    by_cases he : c' = c
    · simp [he, hs]
    · simp [he]
  intro i m hi hsent
  rw [hcalls]
  rcases addMessage_cases hi with hi | ⟨rfl, -, hst⟩
  · exact h i m hi hsent
  · refine iff_of_false (by simp [hst]) ?_
    rintro ⟨c', hc', -⟩
    obtain ⟨m', hm', -⟩ := hc.stored c' _ hc'
    simp at hm'

structure Quiet (s : Chat) (c : ℕ) (k : Call) : Prop where
  message : k.message = (s.call c).message
  idle : k.stage = .idle → k.message = none
  waiting : k.stage = .waiting → k.message.isSome
  confirmed : k.stage = .confirmed ↔ (s.call c).stage = .confirmed

lemma Consistent.quiet_self (h : Consistent s) (c : ℕ) : Quiet s c (s.call c) :=
  ⟨rfl, h.idle c, h.waiting c, Iff.rfl⟩

lemma setCall_self (s : Chat) (c : ℕ) : s.setCall c (s.call c) = s := by
  simp [Chat.setCall]

lemma quiet_ite (h : Consistent s) {p : Prop} [Decidable p] (hk : p → Quiet s c k) :
    ∃ k', (if p then s.setCall c k else s) = s.setCall c k' ∧ Quiet s c k' := by
  split
  · next hp => exact ⟨k, rfl, hk hp⟩
  · exact ⟨s.call c, (setCall_self s c).symm, h.quiet_self c⟩

lemma step_cases (h : Consistent s) (contact : String) (a : Action) :
    (AckedIsLast s a ∧ ∃ c k, step contact s a = s.setCall c k ∧ Quiet s c k) ∨
    (∃ c content now, a = .store c content now ∧ (s.call c).stage = .begun ∧ step contact s a =
      ⟨addMessage now s.msgs contact content true "sent",
        Function.update s.call c { s.call c with message := some s.msgs.length }⟩) ∨
    (∃ c, a = .finish c ∧ (s.call c).stage = .waiting ∧ (s.call c).acked = true ∧ step contact s a =
      ⟨updateLastSentStatus s.msgs "delivered",
        Function.update s.call c { s.call c with stage := .confirmed, entry := false }⟩) ∨
    (∃ content now, a = .receive content now) ∨ a = .markAsRead := by
  cases a with
  | begin c =>
    refine Or.inl ⟨trivial, c, quiet_ite h (fun hs => ?_)⟩
    exact ⟨(h.idle c hs).symm, by simp, by simp, by simp [hs]⟩
  | sent c =>
    exact Or.inl ⟨trivial, c, quiet_ite h (fun hs => ⟨rfl, by simp, fun _ => hs.2, by simp [hs.1]⟩)⟩
  | abort c =>
    exact Or.inl ⟨trivial, c, quiet_ite h (fun hs => ⟨rfl, by simp, by simp, by simp [hs.1]⟩)⟩
  | ack c =>
    exact Or.inl ⟨trivial, c, quiet_ite h (fun _ => ⟨rfl, h.idle c, h.waiting c, Iff.rfl⟩)⟩
  | expire c =>
    exact Or.inl ⟨trivial, c, quiet_ite h (fun hs => ⟨rfl, by simp, by simp, by simp [hs.1]⟩)⟩
  | store c content now =>
    by_cases hs : (s.call c).stage = .begun ∧ (s.call c).message = none
    · exact Or.inr (Or.inl ⟨c, content, now, rfl, hs.1, if_pos hs⟩)
    · refine Or.inl ⟨trivial, c, s.call c, ?_, h.quiet_self c⟩
      rw [setCall_self]
      exact if_neg hs
  | finish c =>
    by_cases hs : (s.call c).stage = .waiting ∧ (s.call c).acked = true
    · exact Or.inr (Or.inr (Or.inl ⟨c, rfl, hs.1, hs.2, if_pos hs⟩))
    · refine Or.inl ⟨fun h₁ h₂ => (hs ⟨h₁, h₂⟩).elim, c, s.call c, ?_, h.quiet_self c⟩
      rw [setCall_self]
      exact if_neg hs
  | receive content now => exact Or.inr (Or.inr (Or.inr (Or.inl ⟨content, now, rfl⟩)))
  | markAsRead => exact Or.inr (Or.inr (Or.inr (Or.inr rfl)))

lemma consistent_step (h : Consistent s) (contact : String) (a : Action) :
    Consistent (step contact s a) := by
  rcases step_cases h contact a with ⟨-, c, k, he, hk⟩ | ⟨c, content, now, rfl, hs, he⟩ |
    ⟨c, rfl, -, -, he⟩ | ⟨content, now, rfl⟩ | rfl
  · rw [he]
    exact h.setCall hk.message hk.idle hk.waiting
  · rw [he]
    exact consistent_store h hs contact content now
  · rw [he]
    have hm := h.setMsgs (fun i m hi hs => updateLastSentStatus_kept hi hs "delivered")
    exact hm.setCall rfl (by simp) (by simp)
  · exact h.setMsgs (fun i m hi hs => ⟨m, addMessage_kept hi, hs⟩)
  · exact h.setMsgs (fun i m hi hs => ⟨m, (markAsRead_sent hs).mpr hi, hs⟩)

lemma faithful_finish_iff (hc : Consistent s) (h : Faithful s) (hs : (s.call c).stage = .waiting) :
    Faithful ⟨updateLastSentStatus s.msgs "delivered",
      Function.update s.call c { s.call c with stage := .confirmed, entry := false }⟩ ↔
      lastSent s.msgs = (s.call c).message := by
  obtain ⟨i, hi⟩ := Option.isSome_iff_exists.mp (hc.waiting c hs)
  obtain ⟨m, hm, hsent⟩ := hc.stored c i hi
  have hother : ∀ c' j, j ≠ i → (((Function.update s.call c
        { s.call c with stage := .confirmed, entry := false } c').message = some j ∧
      (Function.update s.call c { s.call c with stage := .confirmed, entry := false } c').stage =
        .confirmed) ↔ ((s.call c').message = some j ∧ (s.call c').stage = .confirmed)) := by
    intro c' j hj
    by_cases he : c' = c
    · simp [he, hi, Ne.symm hj]
    · simp [he]
  rw [hi]
  constructor
  · intro hf
    by_contra hl
    -- the message of the request kept its old status, and no other request is about it
    rw [← updateLastSentStatus_of_ne hl "delivered"] at hm
    have hdel := (hf i m hm hsent).mpr ⟨c, by simp [hi], by simp⟩
    rw [updateLastSentStatus_of_ne hl] at hm
    obtain ⟨c', hc', hst⟩ := (h i m hm hsent).mp hdel
    obtain rfl := hc.distinct c' c i hc' hi
    simp [hs] at hst
  · intro hl j m' hj hsent'
    by_cases hji : j = i
    · subst hji
      rw [updateLastSentStatus_last hl, hm] at hj
      obtain rfl := Option.some.inj hj
      exact iff_of_true rfl ⟨c, by simp [hi], by simp⟩
    · rw [updateLastSentStatus_of_ne (by simpa [hl] using Ne.symm hji)] at hj
      rw [h j m' hj hsent']
      exact exists_congr (fun c' => (hother c' j hji).symm)

lemma faithful_step_iff (hc : Consistent s) (h : Faithful s) (contact : String) (a : Action) :
    Faithful (step contact s a) ↔ AckedIsLast s a := by
  rcases step_cases hc contact a with ⟨hok, c, k, he, hk⟩ | ⟨c, content, now, rfl, hs, he⟩ |
    ⟨c, rfl, hs, hacked, he⟩ | ⟨content, now, rfl⟩ | rfl
  · rw [he]
    exact iff_of_true (h.setCall hk.message hk.confirmed) hok
  · rw [he]
    exact iff_of_true (faithful_store hc h hs contact content now) trivial
  · rw [he]
    simpa [AckedIsLast, hs, hacked] using faithful_finish_iff hc h hs
  · refine iff_of_true (h.setMsgs (fun i m hi hs => ?_)) trivial
    rcases addMessage_cases hi with hi | ⟨-, hs', -⟩
    · exact hi
    · simp [hs] at hs'
  · exact iff_of_true (h.setMsgs (fun i m hi hs => (markAsRead_sent hs).mp hi)) trivial

lemma othersUnaffected_of_ackedIsLast (contact : String) (s : Chat) (a : Action)
    (h : AckedIsLast s a) : OthersUnaffected contact s a := by
  cases a with
  | ack c =>
    simp only [OthersUnaffected, step]
    split <;> rfl
  | finish c =>
    intro i hi
    simp only [step]
    split
    · next hs =>
      apply updateLastSentStatus_of_ne
      rw [h hs.1 hs.2]
      exact hi
    · rfl
  | _ => trivial

theorem delivered_iff_ackedIsLast (contact : String) (s : Chat) (hc : Consistent s)
    (hf : Faithful s) (run : List Action) :
    ((∀ t ∈ visited (step contact) s run, Faithful t) ∧
        Guarded (step contact) (OthersUnaffected contact) s run) ↔
      Guarded (step contact) AckedIsLast s run := by
  have hiff : (∀ t ∈ visited (step contact) s run, Faithful t) ↔
      Guarded (step contact) AckedIsLast s run :=
    guarded_iff (I := Consistent) (fun t a hc hf => faithful_step_iff hc hf contact a)
      (fun t a hc _ _ => consistent_step hc contact a) hc hf
  refine ⟨fun h => hiff.mp h.1, fun h => ⟨hiff.mpr h, ?_⟩⟩
  exact guarded_mono (othersUnaffected_of_ackedIsLast contact) h

lemma start_consistent : Consistent start :=
  ⟨fun _ _ => rfl, by simp [start], by simp [start], by simp [start]⟩

lemma start_faithful : Faithful start := by simp [Faithful, start]

def oneSend : List Action := [.begin 0, .store 0 "hi" 5, .sent 0, .ack 0, .finish 0]

theorem delivered_oneSend :
    (oneSend.foldl (step "b") start).msgs = [⟨1, "b", "hi", true, "delivered", 5⟩] ∧
      ∀ t ∈ visited (step "b") start oneSend, Faithful t := by
  refine ⟨by decide, ?_⟩
  apply ((delivered_iff_ackedIsLast "b" start start_consistent start_faithful oneSend).mpr ?_).1
  exact ⟨trivial, trivial, trivial, trivial, fun _ _ => by decide, trivial⟩

def twoSends : List Action :=
  [.begin 0, .store 0 "hi" 5, .sent 0, .begin 1, .store 1 "ho" 6, .sent 1, .ack 0, .finish 0]

theorem delivered_marks_other :
    ¬ ∀ (contact : String) (run : List Action), Faithful (run.foldl (step contact) start) := by
  intro h
  have hf := h "b" twoSends 0 ⟨1, "b", "hi", true, "sent", 5⟩ (by decide) rfl
  exact absurd (hf.mpr ⟨0, by decide, by decide⟩) (by decide)

end ZzP2p.Messaging.UserStore
