import ZzP2p.Lib.Sha256
import ZzP2p.Messaging.Message

/-! Repeated messages at one node. Messages and acknowledgements share the bounded set of keys. -/

namespace ZzP2p.Messaging

open Rust Lib

inductive Incoming
  | text (m : MessageCommand)
  | ack (requestId : UInt64)
deriving DecidableEq

variable (sha256 : Bytes → Digest)

def keyOf : Incoming → String
  | .text m => messageKey sha256 m
  | .ack requestId => ackKey requestId

def handle (n : Node) : Incoming → Node × List Effect
  | .text m => messageHandler sha256 n m
  | .ack requestId => messageAckHandler n requestId

def handleAll (n : Node) (is : List Incoming) : Node := is.foldl (fun n i => (handle sha256 n i).1) n

lemma handle_seen {n : Node} {s : Finset String} (hs : n.seen = some s) (i : Incoming) :
    (handle sha256 n i).1.seen = some (BoundedSet.record seenMessagesMax s (keyOf sha256 i)).2 := by
  cases i with
  | text m =>
    rw [handle, messageHandler_node]
    simp [recordSeen, hs, keyOf]
  | ack r =>
    rw [handle, messageAckHandler_seen]
    simp [recordSeen, hs, keyOf]

lemma handleAll_seen {n : Node} {s : Finset String} (hs : n.seen = some s) (is : List Incoming) :
    (handleAll sha256 n is).seen =
      some (BoundedSet.recordAll seenMessagesMax s (is.map (keyOf sha256))) := by
  induction is generalizing n s with
  | nil => exact hs
  | cons i is ih => exact ih (handle_seen sha256 hs i)

lemma handleAll_static (n : Node) (is : List Incoming) :
    (handleAll sha256 n is).address = n.address ∧ (handleAll sha256 n is).hasNode = n.hasNode ∧
      (handleAll sha256 n is).hasAppChannel = n.hasAppChannel := by
  induction is generalizing n with
  | nil => exact ⟨rfl, rfl, rfl⟩
  | cons i is ih =>
    have hi : (handle sha256 n i).1.address = n.address ∧
        (handle sha256 n i).1.hasNode = n.hasNode ∧
        (handle sha256 n i).1.hasAppChannel = n.hasAppChannel := by
      cases i with
      | text m => simp [handle, messageHandler_node]
      | ack r => exact messageAckHandler_static n r
    obtain ⟨ha, hn, hc⟩ := ih (handle sha256 n i).1
    exact ⟨ha.trans hi.1, hn.trans hi.2.1, hc.trans hi.2.2⟩

/-- the keys other than the message's own that are recorded after its receipt in a node that held
the keys `s` -/
def otherKeys (s : Finset String) (m : MessageCommand) (between : List Incoming) : ℕ :=
  BoundedSet.others seenMessagesMax (messageKey sha256 m)
    (BoundedSet.record seenMessagesMax s (messageKey sha256 m)).2 (between.map (keyOf sha256))

def Heard (n : Node) (m : MessageCommand) : Prop :=
  m.sender ≠ n.address ∧ m.receiver = n.address ∧ (n.hasNode ∨ n.hasAppChannel)

lemma receipts_seen {n : Node} {s : Finset String} (hs : n.seen = some s) (m : MessageCommand)
    (between : List Incoming) :
    (handleAll sha256 (messageHandler sha256 n m).1 between).seen =
      some (BoundedSet.recordAll seenMessagesMax
        (BoundedSet.record seenMessagesMax s (messageKey sha256 m)).2
        (between.map (keyOf sha256))) :=
  handleAll_seen sha256 (handle_seen sha256 hs (.text m)) between

lemma second_receipt_silent {n : Node} {s : Finset String} (hs : n.seen = some s)
    (m : MessageCommand) (between : List Incoming)
    (hc : s.card + 1 + otherKeys sha256 s m between ≤ seenMessagesMax) :
    messageHandler sha256 (handleAll sha256 (messageHandler sha256 n m).1 between) m =
      (handleAll sha256 (messageHandler sha256 n m).1 between, []) := by
  apply messageHandler_of_filtered
  refine ⟨_, receipts_seen sha256 hs m between, ?_⟩
  rw [otherKeys] at hc
  by_cases hk : messageKey sha256 m ∈ s
  · simp only [BoundedSet.record_of_mem hk] at hc ⊢
    exact BoundedSet.mem_recordAll _ hk (by omega)
  · have hlt : s.card < seenMessagesMax := by omega
    simp only [BoundedSet.record_of_lt hk hlt] at hc ⊢
    apply BoundedSet.mem_recordAll _ (Finset.mem_insert_self _ s)
    rw [Finset.card_insert_of_notMem hk]
    omega

lemma second_receipt_heard {n : Node} {s : Finset String} (hs : n.seen = some s)
    {m : MessageCommand} {between : List Incoming} (hm : Heard n m) (hk : messageKey sha256 m ∉ s)
    (hb : messageKey sha256 m ∉ between.map (keyOf sha256))
    (hc : seenMessagesMax < s.card + 1 + otherKeys sha256 s m between) :
    (messageHandler sha256 (handleAll sha256 (messageHandler sha256 n m).1 between) m).2 ≠ [] := by
  obtain ⟨hsender, hreceiver, hheard⟩ := hm
  obtain ⟨ha, hn, hch⟩ := handleAll_static sha256 (messageHandler sha256 n m).1 between
  rw [messageHandler_node] at ha hn hch
  have hf : ¬ (handleAll sha256 (messageHandler sha256 n m).1 between).Filtered
      (messageKey sha256 m) := by
    rintro ⟨t, ht, hmem⟩
    obtain rfl := Option.some.inj ((receipts_seen sha256 hs m between).symm.trans ht)
    revert hmem
    rw [otherKeys] at hc
    by_cases hlt : s.card < seenMessagesMax
    · simp only [BoundedSet.record_of_lt hk hlt] at hc ⊢
      have hcard := Finset.card_insert_of_notMem hk
      exact BoundedSet.recordAll_forgets _ hb (by omega) (by omega)
    · simp only [BoundedSet.record_of_le hk (Nat.not_lt.mp hlt)]
      exact BoundedSet.notMem_recordAll _ (Finset.notMem_empty _) hb
  rw [messageHandler_node] at hf ⊢
  rw [messageHandler_deliver hf (by rwa [ha]) (by rwa [ha]), hn, hch]
  rcases hheard with h | h <;> simp [h]

theorem second_receipt (n : Node) (s : Finset String) (hs : n.seen = some s) (m : MessageCommand)
    (between : List Incoming) :
    (s.card + 1 + otherKeys sha256 s m between ≤ seenMessagesMax →
      messageHandler sha256 (handleAll sha256 (messageHandler sha256 n m).1 between) m =
        (handleAll sha256 (messageHandler sha256 n m).1 between, [])) ∧
    (Heard n m → messageKey sha256 m ∉ s → messageKey sha256 m ∉ between.map (keyOf sha256) →
      (messageHandler sha256 (handleAll sha256 (messageHandler sha256 n m).1 between) m).2 = [] →
        s.card + 1 + otherKeys sha256 s m between ≤ seenMessagesMax) := by
  refine ⟨second_receipt_silent sha256 hs m between, fun hm hk hb he => ?_⟩
  by_contra hc
  exact second_receipt_heard sha256 hs hm hk hb (Nat.not_le.mp hc) he

def greeting : MessageCommand := ⟨"b", "a", 1, 7, "hi"⟩

theorem second_receipt_greeting :
    messageHandler Sha256.digest (handleAll Sha256.digest
        (messageHandler Sha256.digest (freshNode "a") greeting).1 [.ack 1, .ack 2]) greeting =
      (handleAll Sha256.digest (messageHandler Sha256.digest (freshNode "a") greeting).1
        [.ack 1, .ack 2], []) := by
  apply (second_receipt Sha256.digest (freshNode "a") ∅ rfl greeting [.ack 1, .ack 2]).1
  decide +kernel

/-- the acknowledgements that leave room for one key -/
def manyAcks : List Incoming := (List.range (seenMessagesMax - 1)).map (fun i => .ack (UInt64.ofNat i))

def lastAck : UInt64 := 9999

lemma manyAcks_keys_nodup : (manyAcks.map (keyOf sha256)).Nodup := by
  rw [manyAcks, List.map_map]
  refine List.Nodup.map_on ?_ List.nodup_range
  intro i hi j hj h
  have hij := ackKey_injective h
  rw [List.mem_range, seenMessagesMax] at hi hj
  have hn := congrArg UInt64.toNat hij
  simp only [UInt64.toNat_ofNat'] at hn
  omega

lemma lastAck_notMem : ackKey lastAck ∉ manyAcks.map (keyOf sha256) := by
  rw [manyAcks, List.map_map, List.mem_map]
  rintro ⟨i, hi, he⟩
  have hn := congrArg UInt64.toNat (ackKey_injective he)
  rw [List.mem_range, seenMessagesMax] at hi
  simp only [UInt64.toNat_ofNat', lastAck, UInt64.toNat_ofNat] at hn
  omega

lemma manyAcks_seen :
    ∃ s, (handleAll sha256 (freshNode "a") manyAcks).seen = some s ∧ s.card + 1 = seenMessagesMax ∧
      ackKey lastAck ∉ s ∧ ∀ m, messageKey sha256 m ∉ s := by
  have hlen : (manyAcks.map (keyOf sha256)).length = seenMessagesMax - 1 := by simp [manyAcks]
  have hr : BoundedSet.recordAll seenMessagesMax ∅ (manyAcks.map (keyOf sha256)) = _ :=
    BoundedSet.recordAll_of_nodup _ (manyAcks_keys_nodup sha256) (by simp) (by simp [hlen])
  refine ⟨_, (handleAll_seen sha256 rfl manyAcks).trans (congrArg some hr), ?_, ?_, ?_⟩
  · rw [Finset.empty_union, List.toFinset_card_of_nodup (manyAcks_keys_nodup sha256), hlen]
    rfl
  · rw [Finset.empty_union, List.mem_toFinset]
    exact lastAck_notMem sha256
  · intro m hm
    rw [Finset.empty_union, List.mem_toFinset, manyAcks, List.map_map, List.mem_map] at hm
    obtain ⟨i, -, he⟩ := hm
    exact ackKey_ne_messageKey sha256 _ m he

/-- The message takes the last free place of the set, so that one further key empties it. -/
lemma otherKeys_lastAck {s : Finset String} {m : MessageCommand} (hroom : s.card < seenMessagesMax)
    (hm : messageKey sha256 m ∉ s) (hack : ackKey lastAck ∉ s) :
    otherKeys sha256 s m [.ack lastAck] = 1 := by
  have hne : ackKey lastAck ≠ messageKey sha256 m := ackKey_ne_messageKey sha256 lastAck m
  simp only [otherKeys, BoundedSet.record_of_lt hm hroom, List.map_cons, List.map_nil, keyOf,
    BoundedSet.others, Finset.mem_insert, hne, hack, or_self, not_false_eq_true, ne_eq, and_self, if_true]

theorem full_set_delivers_twice :
    ¬ ∀ (sha256 : Bytes → Digest) (before between : List Incoming) (m : MessageCommand)
      (s : Finset String), (handleAll sha256 (freshNode "a") before).seen = some s →
      m.receiver = "a" → otherKeys sha256 s m between < seenMessagesMax →
      (messageHandler sha256 (handleAll sha256
        (messageHandler sha256 (handleAll sha256 (freshNode "a") before) m).1 between) m).2 = [] := by
  intro h
  obtain ⟨s, hs, hcard, hack, hk⟩ := manyAcks_seen Sha256.digest
  obtain ⟨ha, hn, -⟩ := handleAll_static Sha256.digest (freshNode "a") manyAcks
  have ho : otherKeys Sha256.digest s greeting [.ack lastAck] = 1 :=
    otherKeys_lastAck Sha256.digest (by omega) (hk greeting) hack
  have he := h Sha256.digest manyAcks [.ack lastAck] greeting s hs rfl (by rw [ho]; decide)
  refine second_receipt_heard Sha256.digest hs ?_ (hk greeting) ?_ ?_ he
  · rw [Heard, ha, hn]
    decide
  · rw [List.map_singleton, List.mem_singleton]
    exact (ackKey_ne_messageKey Sha256.digest lastAck greeting).symm
  · rw [ho]
    omega

end ZzP2p.Messaging
