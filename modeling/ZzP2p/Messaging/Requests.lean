import ZzP2p.Messaging.Message

/-! The requests a node has issued. A number is drawn once, and from then on the request under it
moves between the calls in progress and the pending entries. -/

namespace ZzP2p.Messaging

open Rust Lib

def Node.Knows (n : Node) (q : Request) : Prop :=
  q ∈ n.drawn ∨ q ∈ n.opened ∨ n.entry q.requestId = some q

structure Node.Owned (a : String) (n : Node) : Prop where
  address : n.address = a
  known : ∀ q, n.Knows q → q.sender = a
  indexed : ∀ r q, n.entry r = some q → q.requestId = r

structure Node.Within (n n' : Node) : Prop where
  address : n'.address = n.address
  nextRequestId : n'.nextRequestId = n.nextRequestId
  known : ∀ q, n'.Knows q → n.Knows q
  indexed : ∀ r q, n'.entry r = some q → n.entry r = some q ∨ q.requestId = r

lemma Node.Owned.knows {a : String} {n : Node} (h : n.Owned a) {r : UInt64} {q : Request}
    (he : n.entry r = some q) : n.Knows q := by
  obtain rfl := h.indexed r q he
  exact Or.inr (Or.inr he)

lemma Node.Owned.of_within {a : String} {n n' : Node} (h : n.Owned a) (hw : n.Within n') :
    n'.Owned a := by
  refine ⟨hw.address.trans h.address, fun q hq => h.known q (hw.known q hq), fun r q hq => ?_⟩
  exact (hw.indexed r q hq).elim (h.indexed r q) id

lemma within_seen (n : Node) (seen : Option (Finset String)) : n.Within { n with seen := seen } :=
  ⟨rfl, rfl, fun _ hq => hq, fun _ _ hq => Or.inl hq⟩

lemma removePending_within (n : Node) (r : UInt64) : n.Within (removePending n r) := by
  have hentry : ∀ r' q, (removePending n r).entry r' = some q → n.entry r' = some q := by
    intro r' q hq
    rw [removePending_entry] at hq
    split at hq
    · cases hq
    · exact hq
  exact ⟨rfl, rfl, fun q hq => hq.imp id (Or.imp id (hentry _ q)), fun r' q hq => Or.inl (hentry r' q hq)⟩

lemma insertPending_entry {n : Node} {r : Request} (hr : r ∈ n.drawn) {r' : UInt64} {q : Request}
    (hq : (insertPending n r).entry r' = some q) : (r' = r.requestId ∧ q = r) ∨ n.entry r' = some q := by
  cases hp : n.pending with
  | none => simp [insertPending, hr, Node.entry, hp] at hq
  | some p =>
    simp only [insertPending, hr, if_true, Node.entry, hp, Option.map_some, Option.bind_some,
      Function.update_apply] at hq ⊢
    split at hq
    · next he => exact Or.inl ⟨he, (Option.some.inj hq).symm⟩
    · exact Or.inr hq

lemma insertPending_within (n : Node) (r : Request) : n.Within (insertPending n r) := by
  by_cases hr : r ∈ n.drawn
  · have hnode : (insertPending n r).address = n.address ∧
        (insertPending n r).nextRequestId = n.nextRequestId ∧
        (insertPending n r).drawn = n.drawn.erase r ∧ (insertPending n r).opened = r :: n.opened := by
      simp [insertPending, hr]
    obtain ⟨haddress, hnext, hdrawn, hopened⟩ := hnode
    refine ⟨haddress, hnext, fun q hq => ?_, fun r' q hq => ?_⟩
    · rcases hq with hq | hq | hq
      · exact Or.inl (List.mem_of_mem_erase (hdrawn ▸ hq))
      · rw [hopened] at hq
        rcases List.mem_cons.mp hq with rfl | hq
        · exact Or.inl hr
        · exact Or.inr (Or.inl hq)
      · rcases insertPending_entry hr hq with ⟨-, rfl⟩ | hq
        · exact Or.inl hr
        · exact Or.inr (Or.inr hq)
    · rcases insertPending_entry hr hq with ⟨rfl, rfl⟩ | hq
      · exact Or.inr rfl
      · exact Or.inl hq
  · rw [insertPending, if_neg hr]
    exact within_seen n n.seen

lemma messageHandler_within (sha256 : Bytes → Digest) (n : Node) (m : MessageCommand) :
    n.Within (messageHandler sha256 n m).1 := by
  rw [messageHandler_node]
  exact within_seen n _

lemma messageAckHandler_within (n : Node) (r : UInt64) : n.Within (messageAckHandler n r).1 := by
  by_cases hf : n.Filtered (ackKey r)
  · rw [messageAckHandler_of_filtered hf]
    exact within_seen n n.seen
  · cases he : n.entry r with
    | none =>
      rw [messageAckHandler_forward hf he]
      exact within_seen n _
    | some q =>
      have hw := removePending_within n r
      rw [messageAckHandler_resolve hf he]
      exact ⟨hw.address, hw.nextRequestId, hw.known, hw.indexed⟩

lemma beginSendChat_owned {a : String} {n : Node} (h : n.Owned a) (toAddr content : String) :
    (beginSendChat n toAddr content).Owned a := by
  simp only [beginSendChat]
  split
  · exact h
  · refine ⟨h.address, fun q hq => ?_, h.indexed⟩
    rcases hq with hq | hq
    · rcases List.mem_cons.mp hq with rfl | hq
      · exact h.address
      · exact h.known q (Or.inl hq)
    · exact h.known q (Or.inr hq)

lemma drawRequestId_owned {a : String} {n : Node} (h : n.Owned a) : (drawRequestId n).2.Owned a :=
  ⟨h.address, h.known, h.indexed⟩

def Node.Issued (n : Node) (r : UInt64) : Prop := r < n.nextRequestId ∨ n.nextRequestId = 0

lemma issued_draw {n n' : Node} (hz : n.nextRequestId ≠ 0)
    (hn : n'.nextRequestId = n.nextRequestId + 1) {r : UInt64}
    (hr : r = n.nextRequestId ∨ n.Issued r) : n'.Issued r := by
  have hr' : r ≤ n.nextRequestId := by
    rcases hr with rfl | hr
    · exact UInt64.le_refl _
    · exact UInt64.le_of_lt (hr.resolve_right hz)
  rw [Node.Issued, hn]
  by_cases hw : n.nextRequestId + 1 = 0
  · exact Or.inr hw
  · refine Or.inl ?_
    grind

end ZzP2p.Messaging
