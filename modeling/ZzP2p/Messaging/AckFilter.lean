import ZzP2p.Lib.Runs
import ZzP2p.Lib.Sha256
import ZzP2p.Messaging.Message

/-! Acknowledgements against the duplicate filter of one node. The filter keeps the number of every
acknowledgement it has let through, also of those that were not for this node. -/

namespace ZzP2p.Messaging

open Rust Lib Lib.Runs

inductive Action
  | beginSendChat (toAddr content : String)
  | insertPending (r : Request)
  | removePending (requestId : UInt64)
  | cliSend
  | ack (requestId : UInt64)
  | text (m : MessageCommand)

variable (sha256 : Bytes → Digest)

def act (n : Node) : Action → Node
  | .beginSendChat toAddr content => beginSendChat n toAddr content
  | .insertPending r => insertPending n r
  | .removePending requestId => removePending n requestId
  | .cliSend => (drawRequestId n).2
  | .ack requestId => (messageAckHandler n requestId).1
  | .text m => (messageHandler sha256 n m).1

def Confirmable (n : Node) : Prop :=
  ∀ r q, n.entry r = some q →
    (messageAckHandler n r).2 = [.resolve q] ∧ (messageAckHandler n r).1.entry r = none

def UnusedNumber (n : Node) : Action → Prop
  | .insertPending r => r ∈ n.drawn → n.pending.isSome → ¬ n.Filtered (ackKey r.requestId)
  | _ => True

lemma confirmable_iff (n : Node) :
    Confirmable n ↔ ∀ r q, n.entry r = some q → ¬ n.Filtered (ackKey r) := by
  refine ⟨fun h r q hq hf => ?_, fun h r q hq => ?_⟩
  · have hr := (h r q hq).1
    rw [messageAckHandler_of_filtered hf] at hr
    cases hr
  · rw [messageAckHandler_resolve (h r q hq) hq]
    refine ⟨rfl, ?_⟩
    simpa [Node.entry] using removePending_entry n r r

lemma confirmable_of_subset {n n' : Node} (h : Confirmable n)
    (he : ∀ r q, n'.entry r = some q → ∃ q', n.entry r = some q')
    (hf : ∀ r q, n'.entry r = some q → n'.Filtered (ackKey r) → n.Filtered (ackKey r)) :
    Confirmable n' := by
  rw [confirmable_iff] at h ⊢
  intro r q hq hfr
  obtain ⟨q', hq'⟩ := he r q hq
  exact h r q' hq' (hf r q hq hfr)

lemma confirmable_ack {n : Node} (h : Confirmable n) (r : UInt64) :
    Confirmable (messageAckHandler n r).1 := by
  by_cases hf : n.Filtered (ackKey r)
  · rwa [messageAckHandler_of_filtered hf]
  have hentry : ∀ r' q, (messageAckHandler n r).1.entry r' = some q → r' ≠ r ∧ n.entry r' = some q := by
    intro r' q hq
    cases he : n.entry r with
    | none =>
      rw [messageAckHandler_forward hf he] at hq
      refine ⟨?_, hq⟩
      rintro rfl
      exact absurd (he.symm.trans hq) (by simp)
    | some q' =>
      rw [messageAckHandler_resolve hf he] at hq
      have hq' := (removePending_entry n r r').symm.trans hq
      split at hq'
      · cases hq'
      · next hne => exact ⟨hne, hq'⟩
  refine confirmable_of_subset h (fun r' q hq => ⟨q, (hentry r' q hq).2⟩) ?_
  intro r' q hq hfr
  refine (filtered_of_recordSeen (messageAckHandler_seen n r) hfr).resolve_left ?_
  exact fun he => (hentry r' q hq).1 (ackKey_injective he)

lemma confirmable_text {n : Node} (h : Confirmable n) (m : MessageCommand) :
    Confirmable (messageHandler sha256 n m).1 := by
  rw [messageHandler_node]
  refine confirmable_of_subset h (fun r q hq => ⟨q, hq⟩) ?_
  intro r q hq hfr
  refine (filtered_of_recordSeen rfl hfr).resolve_left ?_
  exact ackKey_ne_messageKey sha256 r m

lemma confirmable_insert_iff {n : Node} (h : Confirmable n) (r : Request) :
    Confirmable (insertPending n r) ↔
      (r ∈ n.drawn → n.pending.isSome → ¬ n.Filtered (ackKey r.requestId)) := by
  by_cases hd : r ∈ n.drawn
  · cases hp : n.pending with
    | none =>
      simp only [confirmable_iff, insertPending, hd, if_true, Node.entry, hp]
      simp
    | some p =>
      have hentry : ∀ r', (insertPending n r).entry r' =
          if r' = r.requestId then some r else n.entry r' := by
        intro r'
        simp [insertPending, hd, Node.entry, hp, Function.update_apply]
      have hseen : (insertPending n r).seen = n.seen := by simp [insertPending, hd]
      rw [confirmable_iff] at h ⊢
      simp only [hentry, Node.Filtered, hseen]
      refine ⟨fun h' _ _ => h' r.requestId r (by simp), fun h' r' q hq => ?_⟩
      split at hq
      · next he => exact he ▸ h' hd rfl
      · exact h r' q hq
  · simpa [insertPending, hd] using h

lemma confirmable_act_iff {n : Node} (h : Confirmable n) (a : Action) :
    Confirmable (act sha256 n a) ↔ UnusedNumber n a := by
  cases a with
  | beginSendChat toAddr content =>
    refine iff_of_true ?_ trivial
    simp only [act, beginSendChat]
    split
    · exact h
    · exact confirmable_of_subset h (fun r q hq => ⟨q, hq⟩) (fun _ _ _ hf => hf)
  | insertPending r => exact confirmable_insert_iff h r
  | removePending r =>
    refine iff_of_true (confirmable_of_subset h (fun r' q hq => ⟨q, ?_⟩) (fun _ _ _ hf => hf)) trivial
    rw [act, removePending_entry] at hq
    split at hq
    · cases hq
    · exact hq
  | cliSend =>
    exact iff_of_true (confirmable_of_subset h (fun r q hq => ⟨q, hq⟩) (fun _ _ _ hf => hf)) trivial
  | ack r => exact iff_of_true (confirmable_ack h r) trivial
  | text m => exact iff_of_true (confirmable_text sha256 h m) trivial

theorem confirmable_iff_unusedNumber (n : Node) (hn : ∀ r, n.entry r = none) (run : List Action) :
    (∀ n' ∈ visited (act sha256) n run, Confirmable n') ↔
      Guarded (act sha256) UnusedNumber n run := by
  apply guarded_iff_of_exact
  · exact fun _ a h => confirmable_act_iff sha256 h a
  · rw [confirmable_iff]
    intro r q hq
    simp [hn r] at hq

def firstSend : List Action := [.beginSendChat "b" "hi", .insertPending ⟨"a", "b", 1, "hi"⟩, .ack 1]

theorem confirmable_first_send :
    (firstSend.foldl (act Sha256.digest) (freshNode "a")).entry 1 = none ∧
      ∀ n' ∈ visited (act Sha256.digest) (freshNode "a") firstSend, Confirmable n' := by
  refine ⟨by decide, ?_⟩
  apply (confirmable_iff_unusedNumber Sha256.digest (freshNode "a") (fun _ => rfl) _).mpr
  refine ⟨trivial, ?_, trivial, trivial⟩
  rintro - - ⟨s, hs, hk⟩
  obtain rfl : ∅ = s := Option.some.inj hs
  exact absurd hk (Finset.notMem_empty _)

theorem foreign_ack_hides_own :
    ¬ ∀ (sha256 : Bytes → Digest) (address : String) (run : List Action),
      Confirmable (run.foldl (act sha256) (freshNode address)) := by
  intro h
  have hc := h Sha256.digest "a" [.ack 1, .beginSendChat "b" "hi", .insertPending ⟨"a", "b", 1, "hi"⟩]
  have hr := (hc 1 ⟨"a", "b", 1, "hi"⟩ (by decide)).1
  exact absurd hr (by decide)

end ZzP2p.Messaging
