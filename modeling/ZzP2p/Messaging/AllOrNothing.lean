import ZzP2p.Messaging.SendChat

/-! What a request to send a chat message leaves behind. A failed request takes back its pending
entry and keeps the message it stored, and the preview may cut a character in two. -/

namespace ZzP2p.Messaging.SendChat

open Rust Lib Protocols UserStore

def IsCharBoundary (text : String) (n : ℕ) : Prop :=
  ∃ front, front <+: text.toList ∧ (front.map Char.utf8Size).sum = n

lemma exists_prefix_cons (n : ℕ) (c : Char) (cs : List Char) :
    (∃ front, front <+: c :: cs ∧ (front.map Char.utf8Size).sum = n + 1) ↔
      c.utf8Size ≤ n + 1 ∧ ∃ front, front <+: cs ∧ (front.map Char.utf8Size).sum = n + 1 - c.utf8Size := by
  constructor
  · rintro ⟨front, hf, hn⟩
    cases front with
    | nil => simp at hn
    | cons d front =>
      obtain ⟨rfl, hrest⟩ := List.cons_prefix_cons.mp hf
      rw [List.map_cons, List.sum_cons] at hn
      exact ⟨by omega, front, hrest, by omega⟩
  · rintro ⟨hc, front, hf, hn⟩
    refine ⟨c :: front, (List.prefix_cons_inj c).mpr hf, ?_⟩
    rw [List.map_cons, List.sum_cons, hn]
    omega

lemma sliceTo_isSome (n : ℕ) (cs : List Char) :
    (sliceTo n cs).isSome ↔ ∃ front, front <+: cs ∧ (front.map Char.utf8Size).sum = n := by
  induction cs generalizing n with
  | nil =>
    cases n with
    | zero => simp [sliceTo]
    | succ n => simp [sliceTo]
  | cons c cs ih =>
    cases n with
    | zero =>
      simp only [sliceTo, Option.isSome_some, true_iff]
      exact ⟨[], List.nil_prefix, rfl⟩
    | succ n =>
      rw [exists_prefix_cons, sliceTo]
      split
      · next hc => rw [Option.isSome_map, ih, and_iff_right hc]
      · next hc => simp [hc]

lemma broadcast_isSome (wsSenders : Option (List ChatUpdate)) (toAddr msgBody : String) :
    (broadcast wsSenders toAddr msgBody).isSome ↔
      wsSenders = none ∨ (utf8 msgBody).length ≤ 50 ∨ IsCharBoundary msgBody 50 := by
  cases wsSenders with
  | none => simp [broadcast]
  | some events =>
    rw [broadcast, preview]
    split
    · next hlong => simp [sliceTo_isSome, IsCharBoundary, Nat.not_le.mpr hlong]
    · next hshort => simp [Nat.not_lt.mp hshort]

variable {ι : Type} {A : Account} (C : Codec) (M : MessageCodec)

/-- A frame can be made for the connection. -/
def Accepts (r : Request) (connections : ι → Connection A) (i : ι) (draw : Draw) : Prop :=
  ∃ ctx, (connections i).context = some ctx ∧ ∃ bytes, messageFrame C M r ctx draw = .ok bytes

variable {C M} {r : Request} {connections : ι → Connection A} {i : ι} {draw : Draw}
  {a : Attempt ι A}

lemma attempt_eq_none (h : attempt C M r connections i draw = none) :
    ¬ Accepts C M r connections i draw := by
  rintro ⟨ctx, hctx, -⟩
  simp [attempt, hctx] at h

lemma attempt_succeeded (h : attempt C M r connections i draw = some a) :
    a.succeeded = true ↔ Accepts C M r connections i draw := by
  obtain ⟨ctx, hctx, rfl⟩ := Option.map_eq_some_iff.mp h
  rw [succeeded_iff, Accepts]
  simp only [hctx, Option.some.injEq, exists_eq_left']
  exact send_ok_iff

variable (E : Surroundings ι)

/-- `add_message` ended without a change of the messages -/
def Unstored (s : State ι A) : Prop :=
  match E.added with
  | .written => False
  | .failed => True
  | .torn left => left = s.messages

variable {E} in
lemma store_eq_iff (s : State ι A) (toAddr msgBody : String) :
    store E s toAddr msgBody = s.messages ↔ Unstored E s := by
  rw [store, Unstored]
  cases E.added with
  | written => simp [addMessage]
  | failed => simp
  | torn left => simp

variable [DecidableEq ι]

def forwardEntries (targetAddrs : List SocketAddr) (toAddr : String) (connections : ι → Connection A) :
    List ι → Finset String → List ι
  | [], _ => []
  | i :: rest, sentNodes =>
    if matchesTarget targetAddrs toAddr (connections i) = false ∨
        ∃ nid ∈ (connections i).node, nid ∈ sentNodes then
      forwardEntries targetAddrs toAddr connections rest sentNodes
    else
      i :: forwardEntries targetAddrs toAddr connections rest
        ((connections i).node.elim sentNodes (fun nid => insert nid sentNodes))

variable (C M) in
def Reached (s : State ι A) (r : Request) : Prop :=
  (∃ seedAddr ∈ targets E r.receiver, ∃ i, E.findEntry seedAddr = some i ∧
    Accepts C M r s.connections i (E.direct seedAddr)) ∨
  ∃ i ∈ forwardEntries (targets E r.receiver) r.receiver s.connections E.entries ∅,
    Accepts C M r s.connections i (E.forward i)

variable {E}

lemma record_failed (h : attempt C M r connections i draw = some a) (ha : a.succeeded ≠ true) :
    record connections a = connections := by
  obtain ⟨ctx, hctx, rfl⟩ := Option.map_eq_some_iff.mp h
  have hafter : (sendTextMessage C M ctx r draw).2 = ctx := by
    rw [ne_eq, succeeded_iff] at ha
    simp only [sendTextMessage, send] at ha ⊢
    split
    · rfl
    · next hp => simp [hp] at ha
  rw [record, Function.update_eq_self_iff, hafter]
  simp only [← hctx]

lemma sendDirect_any (seeds : List SocketAddr) :
    ((sendDirect C M E r seeds connections).1.any Attempt.succeeded = true ↔
      ∃ seedAddr ∈ seeds, ∃ i, E.findEntry seedAddr = some i ∧
        Accepts C M r connections i (E.direct seedAddr)) ∧
    ((sendDirect C M E r seeds connections).1.any Attempt.succeeded ≠ true →
      (sendDirect C M E r seeds connections).2 = connections) := by
  induction seeds with
  | nil => simp [sendDirect]
  | cons seed seeds ih =>
    rw [sendDirect]
    split
    · next hnone =>
      have hno : ¬ ∃ i, E.findEntry seed = some i ∧ Accepts C M r connections i (E.direct seed) := by
        rintro ⟨i, hi, hacc⟩
        rw [hi, Option.bind_some] at hnone
        exact attempt_eq_none hnone hacc
      simpa [hno] using ih
    · next b hb =>
      obtain ⟨i, hi, hi'⟩ := Option.bind_eq_some_iff.mp hb
      have hfirst : b.succeeded = true ↔
          ∃ i, E.findEntry seed = some i ∧ Accepts C M r connections i (E.direct seed) := by
        simp [hi, attempt_succeeded hi']
      split
      · next hsucc =>
        simp [hsucc, hfirst.mp hsucc]
      · next hfail =>
        rw [record_failed hi' hfail]
        simpa [hfail, mt hfirst.mpr hfail] using ih

lemma sendForward_any (targetAddrs : List SocketAddr) (entries : List ι) (sentNodes : Finset String) :
    (sendForward C M E r targetAddrs entries sentNodes connections).1.any Attempt.succeeded = true ↔
      ∃ i ∈ forwardEntries targetAddrs r.receiver connections entries sentNodes,
        Accepts C M r connections i (E.forward i) := by
  induction entries generalizing sentNodes with
  | nil => simp [sendForward, forwardEntries]
  | cons i entries ih =>
    rw [sendForward, forwardEntries]
    by_cases hmatch : matchesTarget targetAddrs r.receiver (connections i) = false
    · rw [if_pos hmatch, if_pos (Or.inl hmatch)]
      exact ih sentNodes
    · by_cases hdup : ∃ nid ∈ (connections i).node, nid ∈ sentNodes
      · rw [if_neg hmatch, if_pos hdup, if_pos (Or.inr hdup)]
        exact ih sentNodes
      · rw [if_neg hmatch, if_neg hdup, if_neg (not_or.mpr ⟨hmatch, hdup⟩)]
        simp only [List.mem_cons, exists_eq_or_imp]
        cases hb : attempt C M r connections i (E.forward i) with
        | none =>
          simp only [attempt_eq_none hb, false_or]
          exact ih _
        | some b =>
          simp only [List.any_cons, Bool.or_eq_true, attempt_succeeded hb]
          -- after a success the other attempts do not count, and after an error nothing has changed
          by_cases hacc : Accepts C M r connections i (E.forward i)
          · simp only [hacc, true_or]
          · rw [record_failed hb (mt (attempt_succeeded hb).mp hacc)]
            exact or_congr_right (ih _)

lemma sendAll_any (s : State ι A) :
    (sendAll C M E s r).1.any Attempt.succeeded = true ↔ Reached C M E s r := by
  rw [sendAll, Reached, ← (sendDirect_any _).1]
  split
  · next h => simp [h]
  · next h =>
    rw [(sendDirect_any _).2 h, ← sendForward_any, List.any_append]
    simp [h]

lemma deliver_leaves (s : State ι A) (r : Request) (messages : List ChatMessage) :
    ((deliver C M E s r).reply.success = false →
      (deliver C M E s r).state.node.entry r.requestId = none ∧
      (deliver C M E s r).state.messages = messages) ↔
    Reached C M E s r ∨ s.messages = messages := by
  rw [← sendAll_any, deliver]
  split
  · next h => simp [h]
  · next h => simp [h]

theorem all_or_nothing_iff (C : Codec) (M : MessageCodec) (E : Surroundings ι) (s : State ι A)
    (toAddr msgBody : String) (hto : toAddr ≠ "") (hmsg : msgBody ≠ "") :
    (∃ o, handleSendChat C M E s toAddr msgBody = some o ∧
      (o.reply.success = false →
        o.state.node.entry s.node.nextRequestId = none ∧ o.state.messages = s.messages)) ↔
    (s.wsSenders = none ∨ (utf8 msgBody).length ≤ 50 ∨ IsCharBoundary msgBody 50) ∧
      (Reached C M E s (chatRequest s toAddr msgBody) ∨ Unstored E s) := by
  rw [handleSendChat, if_neg (not_or.mpr ⟨hto, hmsg⟩), ← broadcast_isSome _ toAddr,
    ← store_eq_iff s toAddr msgBody]
  cases hb : broadcast s.wsSenders toAddr msgBody with
  | none => simp
  | some wsSenders =>
    simp only [Option.map_some, Option.some.injEq, exists_eq_left', Option.isSome_some, true_and]
    exact deliver_leaves _ (chatRequest s toAddr msgBody) s.messages

def unconnected (added : Added) : Surroundings ℕ :=
  ⟨none, fun _ => none, [], fun _ => ⟨0, 7⟩, fun _ => ⟨0, 7⟩, 0, added⟩

def noMessages (wsSenders : Option (List ChatUpdate)) : State ℕ shortAccount :=
  ⟨freshNode "a", fun _ => ⟨.v4 ⟨1, 2, 3, 4⟩ 80, none, none, false⟩, [], wsSenders⟩

theorem all_or_nothing_unstored :
    ∃ o, handleSendChat bincode bincodeMessage (unconnected .failed) (noMessages (some [])) "b" "hi" =
        some o ∧
      (o.reply.success = false → o.state.node.entry 1 = none ∧ o.state.messages = []) :=
  (all_or_nothing_iff bincode bincodeMessage (unconnected .failed) (noMessages (some [])) "b" "hi"
    (by decide) (by decide)).mpr
    ⟨Or.inr (Or.inl (by decide)), Or.inr trivial⟩

theorem failed_chat_panics_or_stays :
    handleSendChat bincode bincodeMessage (unconnected .written) (noMessages (some [])) "b"
      (String.ofList (List.replicate 17 '€')) = none ∧
    ∃ o, handleSendChat bincode bincodeMessage (unconnected .written) (noMessages none) "b" "hi" = some o ∧
      o.reply.success = false ∧ o.state.messages = [⟨1, "b", "hi", true, "sent", 0⟩] := by
  refine ⟨?_, _, rfl, rfl, rfl⟩
  have hb : broadcast (some []) "b" (String.ofList (List.replicate 17 '€')) = none := by decide
  rw [handleSendChat, if_neg (by decide)]
  exact congrArg (Option.map _) hb

end ZzP2p.Messaging.SendChat
