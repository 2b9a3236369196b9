import ZzP2p.Lib.Runs
import ZzP2p.Lib.Sha256
import ZzP2p.Messaging.Network

/-! Delivery confirmation over the runs of the network. -/

namespace ZzP2p.Messaging

open Rust Lib Lib.Runs

variable (sha256 : Bytes → Digest)

lemma Numbering.react {s : Network} (h : Numbering s) {a : String} {answered : MessageCommand}
    {peers : List String} {out : Node × List Effect} (hw : (s.node a).Within out.1)
    (hm : Known s answered.request) {s' : Network} (hnode : s'.node = s.node)
    (hflight : ∀ p ∈ s'.flight, p ∈ s.flight) : Numbering (s'.react a answered peers out) := by
  refine h.frame (fun b => ?_) (fun q hq => ?_)
  · simpa only [Network.react, hnode] using nextRequestId_update hw b
  · rcases hq with ⟨b, hb⟩ | ⟨p, hp, rfl⟩
    · simp only [Network.react, hnode] at hb
      exact (knows_update hb).elim (fun hq => Or.inl ⟨a, hw.known q hq⟩) id
    · rcases List.mem_append.mp hp with hp | hp
      · exact Or.inr ⟨p, hflight p hp, rfl⟩
      · obtain ⟨e, -, he⟩ := List.mem_flatMap.mp hp
        rwa [packets_message he]

lemma numbering_deliver {s : Network} (h : Numbering s) (i : ℕ) (peers : List String) :
    Numbering (step sha256 s (.deliver i peers)) := by
  have hflight : ∀ p ∈ s.flight.eraseIdx i, p ∈ s.flight := fun p hp => List.mem_of_mem_eraseIdx hp
  simp only [step]
  split
  · next a m hi =>
    have hm : Known s m.request := Or.inr ⟨_, List.mem_of_getElem? hi, rfl⟩
    exact h.react (messageHandler_within sha256 _ m) hm rfl hflight
  · next a r m hi =>
    have hm : Known s m.request := Or.inr ⟨_, List.mem_of_getElem? hi, rfl⟩
    exact h.react (messageAckHandler_within _ r) hm rfl hflight
  · exact h

lemma numbering_beginSendChat {s : Network} (hp : Provenance s) (h : Numbering s) (a toAddr content : String)
    (hz : NoWrap s a) : Numbering (s.setNode a (beginSendChat (s.node a) toAddr content)) := by
  by_cases he : toAddr = "" ∨ content = ""
  · rw [beginSendChat, if_pos he]
    exact h.setNode (within_seen _ _)
  · have ha := (hp.owned a).address
    have hn : beginSendChat (s.node a) toAddr content = { s.node a with
        nextRequestId := (s.node a).nextRequestId + 1
        drawn := ⟨a, toAddr, (s.node a).nextRequestId, content⟩ :: (s.node a).drawn } := by
      simp [beginSendChat, he, drawRequestId, ha]
    rw [hn]
    refine h.draw (f := ⟨a, toAddr, (s.node a).nextRequestId, content⟩) hz rfl ?_ ?_ ?_
    · simp [Network.setNode]
    · exact fun b hb => Function.update_of_ne hb _ _
    · rintro q (⟨b, hb⟩ | hq)
      · refine (knows_update hb).elim (fun hq => ?_) Or.inr
        rcases hq with hq | hq
        · exact (List.mem_cons.mp hq).imp id (fun hq => Or.inl ⟨a, Or.inl hq⟩)
        · exact Or.inr (Or.inl ⟨a, Or.inr hq⟩)
      · exact Or.inr (Or.inr hq)

lemma numbering_cliSend {s : Network} (hp : Provenance s) (h : Numbering s) (a receiver message : String)
    (dest : Option String) (timestamp : BitVec 128) (hz : NoWrap s a) :
    Numbering (step sha256 s (.cliSend a receiver message dest timestamp)) := by
  have ha := (hp.owned a).address
  refine h.draw (f := ⟨a, receiver, (s.node a).nextRequestId, message⟩) hz rfl ?_ ?_ ?_
  · simp [step, Network.setNode, drawRequestId]
  · exact fun b hb => Function.update_of_ne hb _ _
  · rintro q (⟨b, hb⟩ | ⟨p, hp, rfl⟩)
    · exact Or.inr ((knows_update hb).elim (fun hq => Or.inl ⟨a, hq⟩) id)
    · rcases List.mem_append.mp hp with hp | hp
      · exact Or.inr (Or.inr ⟨p, hp, rfl⟩)
      · obtain ⟨d, -, rfl⟩ := List.mem_map.mp hp
        exact Or.inl (by simp [Packet.message, MessageCommand.request, ha])

lemma numbering_step {s : Network} (hp : Provenance s) (h : Numbering s) (e : Event)
    (ho : OwnMessage s e) : Numbering (step sha256 s e) := by
  cases e with
  | beginSendChat a toAddr content => exact numbering_beginSendChat hp h a toAddr content ho
  | insertPending a r => exact h.setNode (insertPending_within _ r)
  | removePending a r => exact h.setNode (removePending_within _ r)
  | sendCopy a r dest timestamp =>
    simp only [step]
    split
    · next hr =>
      refine h.frame (fun _ => rfl) (fun q hq => ?_)
      rcases hq with hq | ⟨p, hp, rfl⟩
      · exact Or.inl hq
      · rcases List.mem_append.mp hp with hp | hp
        · exact Or.inr ⟨p, hp, rfl⟩
        · obtain rfl := List.mem_singleton.mp hp
          exact Or.inl ⟨a, Or.inr (Or.inl hr)⟩
    · exact h
  | cliSend a receiver message dest timestamp =>
    exact numbering_cliSend sha256 hp h a receiver message dest timestamp ho
  | deliver i peers => exact numbering_deliver sha256 h i peers

lemma Provenance.react {s : Network} (h : Provenance s) {a : String} {answered : MessageCommand}
    {peers : List String} {out : Node × List Effect} (ha : out.1.Owned a)
    (hp : ∀ e ∈ out.2, ∀ d r m, .ack d r m ∈ e.packets answered peers → m.requestId = r ∧
      (m.receiver, m) ∈ s.acknowledged ++ out.2.flatMap (Effect.acknowledges a answered))
    (hc : ∀ r, .resolve r ∈ out.2 →
      r.sender = a ∧ answered.request = r ∧ (answered.receiver, answered) ∈ s.acknowledged) :
    Provenance (s.react a answered peers out) := by
  refine ⟨owned_update h ha, fun b r m hm => ?_, fun c hm => ?_⟩
  · rcases List.mem_append.mp hm with hm | hm
    · exact (h.acks b r m hm).imp id (List.mem_append_left _)
    · obtain ⟨e, he, hm⟩ := List.mem_flatMap.mp hm
      exact hp e he b r m hm
  · rcases List.mem_append.mp hm with hm | hm
    · obtain ⟨hown, m, hr, hk⟩ := h.sound c hm
      exact ⟨hown, m, hr, List.mem_append_left _ hk⟩
    · obtain ⟨e, he, hm⟩ := List.mem_flatMap.mp hm
      cases e with
      | resolve r =>
        obtain ⟨hown, hr, hk⟩ := hc r he
        obtain rfl := List.mem_singleton.mp hm
        exact ⟨hown, answered, hr, List.mem_append_left _ hk⟩
      | sendAck _ _ | forwardAck _ | incoming _ => simp [Effect.confirms] at hm

lemma Provenance.eraseIdx {s : Network} (h : Provenance s) (i : ℕ) :
    Provenance { s with flight := s.flight.eraseIdx i } :=
  h.frame h.owned (fun _ _ _ hm => List.mem_of_mem_eraseIdx hm) rfl rfl

lemma provenance_text {s : Network} (h : Provenance s) (i : ℕ) (peers : List String) (a : String)
    (m : MessageCommand) : Provenance
      (Network.react { s with flight := s.flight.eraseIdx i } a m peers
        (messageHandler sha256 (s.node a) m)) := by
  apply (h.eraseIdx i).react
  · exact (h.owned a).of_within (messageHandler_within sha256 _ m)
  · intro e he d r m' hm
    obtain rfl : m' = m := packets_message hm
    rcases messageHandler_effects sha256 he with ⟨rfl, hr⟩ | rfl
    · obtain ⟨_, -, hpk⟩ := List.mem_map.mp hm
      cases hpk
      rw [(h.owned a).address] at hr
      refine ⟨rfl, List.mem_append_right _ (List.mem_flatMap.mpr ⟨_, he, ?_⟩)⟩
      simp [Effect.acknowledges, hr]
    · simp [Effect.packets] at hm
  · intro r hr
    rcases messageHandler_effects sha256 hr with ⟨he, -⟩ | he
    · cases he
    · cases he

lemma provenance_ack {s : Network} (h : Provenance s) (hn : Numbering s) (i : ℕ) (peers : List String)
    {a : String} {r : UInt64} {m : MessageCommand} (hmem : .ack a r m ∈ s.flight)
    (ho : (s.node a).Filtered (ackKey r) ∨ (s.node a).entry r = none ∨ m.sender = a) : Provenance
      (Network.react { s with flight := s.flight.eraseIdx i } a m peers (messageAckHandler (s.node a) r)) := by
  obtain ⟨hid, hk⟩ := h.acks a r m hmem
  apply (h.eraseIdx i).react
  · exact (h.owned a).of_within (messageAckHandler_within _ r)
  · intro e he d r' m' hm
    obtain rfl : m' = m := packets_message hm
    refine ⟨?_, List.mem_append_left _ hk⟩
    rcases messageAckHandler_effects he with rfl | ⟨q, rfl, -⟩
    · obtain ⟨_, -, hpk⟩ := List.mem_map.mp hm
      cases hpk
      exact hid
    · simp [Effect.packets] at hm
  · intro q hq
    rcases messageAckHandler_effects hq with he | ⟨q', he, hentry, hf⟩
    · cases he
    · cases he
      have hknown := (h.owned a).knows hentry
      have hsender := (h.owned a).known q hknown
      have hm : m.sender = a := (ho.resolve_left hf).resolve_left (by simp [hentry])
      refine ⟨hsender, ?_, hk⟩
      -- the number and the sender determine the request
      refine hn.unique _ _ (Or.inr ⟨_, hmem, rfl⟩) (Or.inl ⟨a, hknown⟩) (hm.trans hsender.symm) ?_
      exact hid.trans ((h.owned a).indexed r q hentry).symm

lemma provenance_deliver {s : Network} (h : Provenance s) (hn : Numbering s) (i : ℕ)
    (peers : List String) (ho : OwnMessage s (.deliver i peers)) :
    Provenance (step sha256 s (.deliver i peers)) := by
  simp only [step, OwnMessage] at ho ⊢
  split
  · next a m hi => exact provenance_text sha256 h i peers a m
  · next a r m hi =>
    rw [hi] at ho
    exact provenance_ack h hn i peers (List.mem_of_getElem? hi) ho
  · exact h

lemma provenance_step {s : Network} (h : Provenance s) (hn : Numbering s) (e : Event)
    (ho : OwnMessage s e) : Provenance (step sha256 s e) := by
  cases e with
  | beginSendChat a toAddr content =>
    exact h.setNode (beginSendChat_owned (h.owned a) toAddr content)
  | insertPending a r => exact h.setNode ((h.owned a).of_within (insertPending_within _ r))
  | removePending a r => exact h.setNode ((h.owned a).of_within (removePending_within _ r))
  | sendCopy a r dest timestamp =>
    simp only [step]
    split
    · exact h.frame h.owned (fun a r m hm => by simpa using hm) rfl rfl
    · exact h
  | cliSend a receiver message dest timestamp =>
    refine h.frame (owned_update h (drawRequestId_owned (h.owned a))) (fun b r m hm => ?_) rfl rfl
    simpa [step, Network.setNode] using hm
  | deliver i peers => exact provenance_deliver sha256 h hn i peers ho

theorem confirmed_sound (run : List Event) (h : Guarded (step sha256) OwnMessage start run) :
    ∀ s ∈ visited (step sha256) start run, Sound s := by
  have hknown : ∀ q, ¬ Known start q := by
    simp [Known, start, Node.Knows, freshNode, Node.entry]
  have hstart : Provenance start ∧ Numbering start := by
    refine ⟨⟨fun _ => ⟨rfl, ?_, ?_⟩, by simp [start], by simp [start, Sound]⟩, ?_⟩
    · exact fun q hq => absurd (Or.inl ⟨_, hq⟩) (hknown q)
    · simp [start, freshNode, Node.entry]
    · exact ⟨fun q hq => absurd hq (hknown q), fun q _ hq => absurd hq (hknown q)⟩
  have hrun := guarded_invariant (I := fun s => Provenance s ∧ Numbering s)
    (fun _ e hp ho => ⟨provenance_step sha256 hp.1 hp.2 e ho, numbering_step sha256 hp.1 hp.2 e ho⟩)
    hstart h
  exact fun s hs => (hrun s hs).1.sound

instance (s : Network) (a : String) : Decidable (NoWrap s a) :=
  inferInstanceAs (Decidable ((s.node a).nextRequestId ≠ 0))

instance (s : Network) (e : Event) : Decidable (OwnMessage s e) :=
  match e with
  | .beginSendChat a _ _ | .cliSend a _ _ _ _ => inferInstanceAs (Decidable (NoWrap s a))
  | .deliver i _ => match h : s.flight[i]? with
    | some (.ack a r m) => decidable_of_iff ((s.node a).Filtered (ackKey r) ∨
        (s.node a).entry r = none ∨ m.sender = a) (by simp [OwnMessage, h])
    | some (.text _ _) => .isTrue (by simp [OwnMessage, h])
    | none => .isTrue (by simp [OwnMessage, h])
  | .insertPending .. | .sendCopy .. | .removePending .. => .isTrue trivial

def greetB : Request := ⟨"a", "b", 1, "hi"⟩

def answeredRun : List Event :=
  [.beginSendChat "a" "b" "hi", .insertPending "a" greetB, .sendCopy "a" greetB "b" 7,
    .deliver 0 ["a"], .deliver 0 []]

theorem confirmed_answeredRun :
    (answeredRun.foldl (step Sha256.digest) start).confirmed = [("a", greetB)] ∧
      Sound (answeredRun.foldl (step Sha256.digest) start) := by
  refine ⟨by decide +kernel, ?_⟩
  exact confirmed_sound Sha256.digest answeredRun (by decide +kernel) _ (last_visited _ _)

def foreignRun : List Event :=
  [.beginSendChat "a" "b" "hi", .insertPending "a" greetB, .sendCopy "a" greetB "b" 7,
    .cliSend "c" "d" "yo" (some "d") 8, .deliver 1 ["c"], .deliver 1 ["a"], .deliver 1 []]

theorem foreign_ack_confirms :
    ¬ ∀ (sha256 : Bytes → Digest) (run : List Event), Sound (run.foldl (step sha256) start) := by
  intro h
  have hc : (foreignRun.foldl (step Sha256.digest) start).confirmed = [("a", greetB)] := by
    decide +kernel
  have hk : (foreignRun.foldl (step Sha256.digest) start).acknowledged =
      [("d", ⟨"c", "d", 1, 8, "yo"⟩)] := by
    decide +kernel
  obtain ⟨-, m, hr, hm⟩ := h Sha256.digest foreignRun ("a", greetB) (by simp [hc])
  rw [hk, List.mem_singleton] at hm
  obtain ⟨-, rfl⟩ := Prod.mk.inj hm
  exact absurd hr (by decide)

end ZzP2p.Messaging
