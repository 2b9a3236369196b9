import ZzP2p.Lib.Potential
import ZzP2p.Lib.Sha256
import ZzP2p.Messaging.Network

/-! Acknowledgements that no one waits for are forwarded to all peers. What stops them is the duplicate
filter of each node, which forgets everything when it is full. -/

namespace ZzP2p.Messaging.AckFlood

open Rust Lib Lib.Potential

variable (sha256 : Bytes → Digest)

def dest : Packet → String
  | .text dest _ | .ack dest _ _ => dest

def key : Packet → String
  | .text _ m => messageKey sha256 m
  | .ack _ requestId _ => ackKey requestId

def number : Packet → UInt64
  | .text _ m => m.requestId
  | .ack _ requestId _ => requestId

def isText : Packet → Bool
  | .text _ _ => true
  | .ack _ _ _ => false

structure Delivery where
  index : ℕ
  peers : List String

def deliver (s : Network) (d : Delivery) : Option Network :=
  if d.index < s.flight.length then some (step sha256 s (.deliver d.index d.peers)) else none

/-- The filter of the node is full and the packet is new to it. -/
def Full (n : Node) (k : String) : Prop := ∃ seen, n.seen = some seen ∧ k ∉ seen ∧ seenMessagesMax ≤ seen.card

instance (n : Node) (k : String) : Decidable (Full n k) :=
  match h : n.seen with
  | none => .isFalse (by simp [Full, h])
  | some seen => decidable_of_iff (k ∉ seen ∧ seenMessagesMax ≤ seen.card) (by simp [Full, h])

/-- the node whose filter a delivery empties -/
def clears (s : Network) (d : Delivery) : Option String :=
  s.flight[d.index]?.bind (fun p => if Full (s.node (dest p)) (key sha256 p) then some (dest p) else none)

/-- the node that forwards an acknowledgement, and its number -/
def forwards (s : Network) (d : Delivery) : Option (String × UInt64) :=
  s.flight[d.index]?.bind (fun p => match p with
    | .ack a r _ => if (messageAckHandler (s.node a) r).2 = [.forwardAck r] then some (a, r) else none
    | .text _ _ => none)

def timesForwarded (a : String) (r : UInt64) (s : Network) (ds : List Delivery) : ℕ :=
  total (deliver sha256) (fun s d => if forwards s d = some (a, r) then 1 else 0) s ds

def timesCleared (a : String) (s : Network) (ds : List Delivery) : ℕ :=
  total (deliver sha256) (fun s d => if clears sha256 s d = some a then 1 else 0) s ds

/-- Every node was set up with its duplicate filter. -/
def Equipped (s : Network) : Prop := ∀ a, (s.node a).seen.isSome

variable {sha256} {s t : Network} {d : Delivery} {n : Node} {k k' : String}

lemma filtered_of_full (hn : n.seen.isSome) {n' : Node} (h : n'.seen = (recordSeen n.seen k).2) :
    if Full n k then ∀ k', ¬ n'.Filtered k' else ∀ k', n'.Filtered k' ↔ k' = k ∨ n.Filtered k' := by
  obtain ⟨seen, hseen⟩ := Option.isSome_iff_exists.mp hn
  have hrecord : n'.seen = some (BoundedSet.record seenMessagesMax seen k).2 := by
    rw [h, hseen]
    rfl
  by_cases hk : k ∈ seen
  · have hfull : ¬ Full n k := by simp [Full, hseen, hk]
    rw [if_neg hfull]
    rw [BoundedSet.record_of_mem hk] at hrecord
    intro k'
    simp only [Node.Filtered, hrecord, hseen, Option.some.injEq, exists_eq_left']
    exact ⟨Or.inr, fun hor => hor.elim (fun he => he ▸ hk) id⟩
  · by_cases hc : seen.card < seenMessagesMax
    · have hfull : ¬ Full n k := by simp [Full, hseen, hc]
      rw [if_neg hfull]
      rw [BoundedSet.record_of_lt hk hc] at hrecord
      intro k'
      simp [Node.Filtered, hrecord, hseen]
    · have hfull : Full n k := ⟨seen, hseen, hk, Nat.not_lt.mp hc⟩
      rw [if_pos hfull]
      rw [BoundedSet.record_of_le hk (Nat.not_lt.mp hc)] at hrecord
      intro k'
      simp [Node.Filtered, hrecord]

/-- What one delivery does: it changes the node it reaches, whose filter takes the packet's key in, and
all that is sent on are acknowledgements with the number of the packet. -/
structure Delivered (s t : Network) (d : Delivery) (p : Packet) (k : String) : Prop where
  found : s.flight[d.index]? = some p
  others : ∀ a, a ≠ dest p → t.node a = s.node a
  seen : (t.node (dest p)).seen = (recordSeen (s.node (dest p)).seen k).2
  flight : ∃ sent : List Packet, t.flight = s.flight.eraseIdx d.index ++ sent ∧
    (∀ q ∈ sent, isText q = false ∧ number q = number p ∧ dest q ∈ d.peers) ∧
    ((s.node (dest p)).Filtered k → sent = [])

lemma packets_sent {answered : MessageCommand} {peers : List String} {e : Effect} {q : Packet} {r : UInt64}
    (he : ∀ receiver r', e = .sendAck receiver r' ∨ e = .forwardAck r' → r' = r)
    (hq : q ∈ e.packets answered peers) : isText q = false ∧ number q = r ∧ dest q ∈ peers := by
  cases e with
  | sendAck receiver r' =>
    obtain ⟨a, ha, rfl⟩ := List.mem_map.mp hq
    exact ⟨rfl, he receiver r' (Or.inl rfl), ha⟩
  | forwardAck r' =>
    obtain ⟨a, ha, rfl⟩ := List.mem_map.mp hq
    exact ⟨rfl, he "" r' (Or.inr rfl), ha⟩
  | incoming _ | resolve _ => simp [Effect.packets] at hq

lemma delivered (h : deliver sha256 s d = some t) : ∃ p, Delivered s t d p (key sha256 p) := by
  rw [deliver, Option.ite_none_right_eq_some] at h
  obtain ⟨hlt, ht⟩ := h
  obtain rfl := Option.some.inj ht
  have hget : s.flight[d.index]? = some s.flight[d.index] := List.getElem?_eq_getElem hlt
  refine ⟨s.flight[d.index], ?_⟩
  cases hp : s.flight[d.index] with
  | text a m =>
    rw [hp] at hget
    have hstep : step sha256 s (.deliver d.index d.peers) = ({ s with flight := s.flight.eraseIdx d.index }
        : Network).react a m d.peers (messageHandler sha256 (s.node a) m) := by
      simp only [step, hget]
    rw [hstep]
    refine ⟨hget, fun b hb => Function.update_of_ne hb _ _, ?_, _, rfl, ?_, ?_⟩
    · change (Function.update s.node a _ a).seen = _
      rw [Function.update_self, messageHandler_node]
      rfl
    · intro q hq
      obtain ⟨e, he, hq⟩ := List.mem_flatMap.mp hq
      refine packets_sent (fun receiver r' hr => ?_) hq
      rcases messageHandler_effects sha256 he with ⟨rfl, -⟩ | rfl
      · rcases hr with hr | hr
        · exact (Effect.sendAck.inj hr).2.symm
        · cases hr
      · simp at hr
    · intro (hf : (s.node a).Filtered (messageKey sha256 m))
      rw [messageHandler_of_filtered hf]
      rfl
  | ack a r m =>
    rw [hp] at hget
    have hstep : step sha256 s (.deliver d.index d.peers) = ({ s with flight := s.flight.eraseIdx d.index }
        : Network).react a m d.peers (messageAckHandler (s.node a) r) := by
      simp only [step, hget]
    rw [hstep]
    refine ⟨hget, fun b hb => Function.update_of_ne hb _ _, ?_, _, rfl, ?_, ?_⟩
    · change (Function.update s.node a _ a).seen = _
      rw [Function.update_self, messageAckHandler_seen]
      rfl
    · intro q hq
      obtain ⟨e, he, hq⟩ := List.mem_flatMap.mp hq
      refine packets_sent (fun receiver r' hr => ?_) hq
      rcases messageAckHandler_effects he with rfl | ⟨q', rfl, -⟩
      · rcases hr with hr | hr
        · cases hr
        · exact (Effect.forwardAck.inj hr).symm
      · simp at hr
    · intro (hf : (s.node a).Filtered (ackKey r))
      rw [messageAckHandler_of_filtered hf]
      rfl

variable {p : Packet}

lemma isSome_recordSeen {seen : Option (Finset String)} (h : seen.isSome) : (recordSeen seen k).2.isSome := by
  obtain ⟨s, rfl⟩ := Option.isSome_iff_exists.mp h
  rfl

lemma Delivered.equipped (h : Delivered s t d p k) (he : Equipped s) : Equipped t := by
  intro a
  by_cases ha : a = dest p
  · rw [ha, h.seen]
    exact isSome_recordSeen (he _)
  · rw [h.others a ha]
    exact he a

lemma Delivered.clears_eq (h : Delivered s t d p (key sha256 p)) :
    clears sha256 s d = if Full (s.node (dest p)) (key sha256 p) then some (dest p) else none := by
  rw [clears, h.found, Option.bind_some]

lemma forwards_cases {a : String} {r : UInt64} (h : forwards s d = some (a, r)) :
    ∃ m, s.flight[d.index]? = some (.ack a r m) ∧ ¬ (s.node a).Filtered (ackKey r) := by
  obtain ⟨p, hp, hf⟩ := Option.bind_eq_some_iff.mp h
  cases p with
  | text b m => cases hf
  | ack b r' m =>
    rw [Option.ite_none_right_eq_some, Option.some.injEq, Prod.mk.injEq] at hf
    obtain ⟨hout, rfl, rfl⟩ := hf
    refine ⟨m, hp, fun hfiltered => ?_⟩
    rw [messageAckHandler_of_filtered hfiltered] at hout
    cases hout

lemma Delivered.filtered_other (h : Delivered s t d p k) {a : String} (ha : a ≠ dest p) :
    (t.node a).Filtered k' ↔ (s.node a).Filtered k' := by
  rw [h.others a ha]

/-- Unless its filter is emptied, a node that forwards a number knows it from then on. -/
lemma forward_paid (he : Equipped s) (h : deliver sha256 s d = some t) (a : String) (r : UInt64) :
    (if forwards s d = some (a, r) then 1 else 0) + (if (t.node a).Filtered (ackKey r) then 0 else 1) ≤
      (if (s.node a).Filtered (ackKey r) then 0 else 1) + if clears sha256 s d = some a then 1 else 0 := by
  obtain ⟨p, hp⟩ := delivered h
  have hforward : forwards s d = some (a, r) →
      dest p = a ∧ key sha256 p = ackKey r ∧ ¬ (s.node a).Filtered (ackKey r) := by
    intro hf
    obtain ⟨m, hm, hnew⟩ := forwards_cases hf
    obtain rfl : p = .ack a r m := Option.some.inj (hp.found.symm.trans hm)
    exact ⟨rfl, rfl, hnew⟩
  have hfilter := filtered_of_full (he (dest p)) hp.seen
  rw [hp.clears_eq]
  by_cases ha : a = dest p
  · subst ha
    by_cases hfull : Full (s.node (dest p)) (key sha256 p)
    · rw [if_pos hfull] at hfilter
      simp only [hfull, if_true, hfilter, if_false]
      by_cases hf : forwards s d = some (dest p, r)
      · simp [hf, (hforward hf).2.2]
      · simp [hf]
    · rw [if_neg hfull] at hfilter
      simp only [hfull, if_false, hfilter]
      by_cases hf : forwards s d = some (dest p, r)
      · obtain ⟨-, hkey, hnew⟩ := hforward hf
        simp [hf, hkey, hnew]
      · by_cases hold : (s.node (dest p)).Filtered (ackKey r)
        · simp [hf, hold]
        · simp only [hf, hold, if_false]
          split <;> simp
  · have hf : forwards s d ≠ some (a, r) := fun hf => ha (hforward hf).1.symm
    simp [hf, hp.filtered_other ha]

lemma timesForwarded_le (he : Equipped s) (a : String) (r : UInt64) (ds : List Delivery) :
    timesForwarded sha256 a r s ds ≤
      (if (s.node a).Filtered (ackKey r) then 0 else 1) + timesCleared sha256 a s ds := by
  refine total_le_add (fun s => if (s.node a).Filtered (ackKey r) then 0 else 1) ?_ he ds
  intro s d t he h
  obtain ⟨p, hp⟩ := delivered h
  exact ⟨hp.equipped he, forward_paid he h a r⟩

def numbers (s : Network) : Finset UInt64 := (s.flight.map number).toFinset

def unseen (s : Network) (a : String) : Finset UInt64 :=
  (numbers s).filter (fun r => ¬ (s.node a).Filtered (ackKey r))

def potential (V : Finset String) (s : Network) : ℕ := s.flight.countP isText + ∑ a ∈ V, (unseen s a).card

variable (sha256) in
/-- a delivery between the nodes of `V` that empties no filter -/
structure Calm (V : Finset String) (s : Network) (d : Delivery) : Prop where
  equipped : Equipped s
  inside : ∀ p ∈ s.flight, dest p ∈ V
  peers : ∀ a ∈ d.peers, a ∈ V
  kept : clears sha256 s d = none

lemma mem_numbers {r : UInt64} : r ∈ numbers s ↔ ∃ p ∈ s.flight, number p = r := by
  simp [numbers]

lemma Delivered.mem (h : Delivered s t d p k) : p ∈ s.flight := List.mem_of_getElem? h.found

lemma Delivered.numbers_subset (h : Delivered s t d p k) : numbers t ⊆ numbers s := by
  obtain ⟨sent, hflight, hsent, -⟩ := h.flight
  intro r hr
  obtain ⟨q, hq, rfl⟩ := mem_numbers.mp hr
  rw [hflight] at hq
  rcases List.mem_append.mp hq with hq | hq
  · exact mem_numbers.mpr ⟨q, List.mem_of_mem_eraseIdx hq, rfl⟩
  · exact mem_numbers.mpr ⟨p, h.mem, (hsent q hq).2.1.symm⟩

lemma Delivered.filtered (h : Delivered s t d p k) (he : Equipped s) (hfull : ¬ Full (s.node (dest p)) k) :
    (t.node (dest p)).Filtered k' ↔ k' = k ∨ (s.node (dest p)).Filtered k' := by
  have hfilter := filtered_of_full (he (dest p)) h.seen
  rw [if_neg hfull] at hfilter
  exact hfilter k'

lemma Delivered.unseen_subset (h : Delivered s t d p k) (he : Equipped s)
    (hfull : ¬ Full (s.node (dest p)) k) (a : String) : unseen t a ⊆ unseen s a := by
  intro r hr
  obtain ⟨hmem, hnew⟩ := Finset.mem_filter.mp hr
  refine Finset.mem_filter.mpr ⟨h.numbers_subset hmem, fun hold => hnew ?_⟩
  by_cases ha : a = dest p
  · subst ha
    exact (h.filtered he hfull).mpr (Or.inr hold)
  · exact (h.filtered_other ha).mpr hold

lemma Delivered.perm (h : Delivered s t d p k) : s.flight.Perm (p :: s.flight.eraseIdx d.index) := by
  obtain ⟨hlt, rfl⟩ := List.getElem?_eq_some_iff.mp h.found
  exact (List.getElem_cons_eraseIdx_perm hlt).symm

lemma Delivered.countP (h : Delivered s t d p k) :
    s.flight.countP isText = t.flight.countP isText + if isText p then 1 else 0 := by
  obtain ⟨sent, hflight, hsent, -⟩ := h.flight
  have hnone : sent.countP isText = 0 := by
    rw [List.countP_eq_zero]
    intro q hq
    simp [(hsent q hq).1]
  rw [h.perm.countP_eq, List.countP_cons, hflight, List.countP_append, hnone, Nat.add_zero]

lemma sum_unseen_le (h : Delivered s t d p k) (he : Equipped s) (hfull : ¬ Full (s.node (dest p)) k)
    (V : Finset String) : ∑ a ∈ V, (unseen t a).card ≤ ∑ a ∈ V, (unseen s a).card :=
  Finset.sum_le_sum (fun a _ => Finset.card_le_card (h.unseen_subset he hfull a))

lemma calm_measure {V : Finset String} (hcalm : Calm sha256 V s d) (h : deliver sha256 s d = some t) :
    potential V t < potential V s ∨
      potential V t ≤ potential V s ∧ t.flight.length < s.flight.length := by
  obtain ⟨p, hp⟩ := delivered h
  have hfull : ¬ Full (s.node (dest p)) (key sha256 p) := by
    intro hfull
    have hkept := hcalm.kept
    rw [hp.clears_eq, if_pos hfull] at hkept
    cases hkept
  have hsum := sum_unseen_le hp hcalm.equipped hfull V
  have htexts := hp.countP
  cases p with
  | text a m =>
    left
    rw [potential, potential, htexts, isText, if_pos rfl]
    omega
  | ack a r m =>
    rw [isText, if_neg Bool.false_ne_true, Nat.add_zero] at htexts
    by_cases hold : (s.node a).Filtered (ackKey r)
    · obtain ⟨sent, hflight, -, hnone⟩ := hp.flight
      obtain rfl := hnone hold
      have hlength := hp.perm.length_eq
      rw [List.length_cons] at hlength
      refine Or.inr ⟨?_, ?_⟩
      · rw [potential, potential, htexts]
        omega
      · rw [hflight, List.append_nil]
        omega
    · left
      have hlt : ∑ a ∈ V, (unseen t a).card < ∑ a ∈ V, (unseen s a).card := by
        apply Finset.sum_lt_sum
        · exact fun b _ => Finset.card_le_card (hp.unseen_subset hcalm.equipped hfull b)
        · refine ⟨a, hcalm.inside _ hp.mem, Finset.card_lt_card ?_⟩
          refine (Finset.ssubset_iff_of_subset (hp.unseen_subset hcalm.equipped hfull a)).mpr ⟨r, ?_, ?_⟩
          · exact Finset.mem_filter.mpr ⟨mem_numbers.mpr ⟨_, hp.mem, rfl⟩, hold⟩
          · intro hr
            exact (Finset.mem_filter.mp hr).2 ((hp.filtered hcalm.equipped hfull).mpr (Or.inl rfl))
      rw [potential, potential, htexts]
      omega

/-- Deliveries between finitely many nodes cannot go on for ever without emptying a filter, and a node
forwards a number at most once more than its filter was emptied. -/
theorem ack_flood_ends (sha256 : Bytes → Digest) :
    (∀ (V : Finset String) (run : ℕ → Network) (d : ℕ → Delivery),
      ¬ ∀ n, Calm sha256 V (run n) (d n) ∧ deliver sha256 (run n) (d n) = some (run (n + 1))) ∧
    ∀ (s : Network) (ds : List Delivery) (a : String) (r : UInt64), Equipped s →
      timesForwarded sha256 a r s ds ≤
        (if (s.node a).Filtered (ackKey r) then 0 else 1) + timesCleared sha256 a s ds := by
  constructor
  · intro V run d hrun
    apply not_forall_decreasing (potential V) (fun s => s.flight.length) run
    exact fun n => calm_measure (hrun n).1 (hrun n).2
  · exact fun s ds a r he => timesForwarded_le he a r ds

def strayAck : Network := { start with flight := [.ack "b" 7 ⟨"a", "c", 7, 0, "hi"⟩] }

theorem ack_flood_ends_stray : Equipped strayAck ∧
    timesForwarded Sha256.digest "b" 7 strayAck [⟨0, ["a", "c"]⟩] ≤
      1 + timesCleared Sha256.digest "b" strayAck [⟨0, ["a", "c"]⟩] := by
  have he : Equipped strayAck := fun _ => rfl
  have hnew : ¬ (strayAck.node "b").Filtered (ackKey 7) := by
    rintro ⟨seen, hseen, hkey⟩
    obtain rfl := Option.some.inj hseen
    exact absurd hkey (Finset.notMem_empty _)
  have h := (ack_flood_ends Sha256.digest).2 strayAck [⟨0, ["a", "c"]⟩] "b" 7 he
  rw [if_neg hnew] at h
  exact ⟨he, h⟩

end ZzP2p.Messaging.AckFlood
