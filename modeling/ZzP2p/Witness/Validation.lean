import ZzP2p.Lib.Runs

/-! The exchange of validation requests and answers between honest nodes. A frame carries the address
of the node that sends it; an answer goes back over the connection of its request. The events wait in
a bounded channel until the application takes them. -/

namespace ZzP2p.Witness.Validation

open Lib.Runs

abbrev Nonce := Vector UInt8 32

structure WitnessValidateRequest where
  senderId : String
  nonce : Nonce
deriving DecidableEq

structure WitnessValidateResponse where
  senderId : String
  nonce : Nonce
deriving DecidableEq

structure ValidationEvent where
  nodeId : String
  success : Bool
deriving DecidableEq

structure Channel where
  capacity : ℕ
  queue : List ValidationEvent
  closed : Bool

def Channel.hasRoom (c : Channel) : Bool := !c.closed && c.queue.length < c.capacity

inductive Command
  | validate (req : WitnessValidateRequest)
  | validateAck (resp : WitnessValidateResponse)
deriving DecidableEq

structure Frame where
  address : String
  receiver : String
  command : Command
deriving DecidableEq

structure Answer where
  node : String
  requester : String
  nonce : Nonce
deriving DecidableEq

structure Emission where
  node : String
  event : ValidationEvent
  nonce : Nonce
deriving DecidableEq

structure Network where
  sender : String → Option Channel
  flight : List Frame
  answers : List Answer
  emitted : List Emission

inductive Event
  | setValidationEventSender (node : String) (capacity : ℕ)
  | takeEvent (node : String)
  | dropReceiver (node : String)
  | sendValidateRequest (node target senderId : String) (nonce : Nonce)
  | deliver (i : ℕ)

def witnessValidateHandler (frame : Frame) (req : WitnessValidateRequest) : Frame :=
  -- the id in the answer is the address in the frame of the request
  ⟨frame.receiver, frame.address, .validateAck ⟨frame.address, req.nonce⟩⟩

def trySend (c : Channel) (event : ValidationEvent) : Bool × Channel :=
  if c.hasRoom then (true, { c with queue := c.queue ++ [event] }) else (false, c)

def witnessValidateAckHandler (sender : Option Channel) (resp : WitnessValidateResponse) :
    Option ValidationEvent × Option Channel :=
  match sender with
  | some tx =>
    let event : ValidationEvent := ⟨resp.senderId, true⟩
    match trySend tx event with
    | (true, tx) => (some event, some tx)
    | (false, tx) => (none, some tx)
  | none => (none, none)

def receive (s : Network) (frame : Frame) : Network :=
  match frame.command with
  | .validate req =>
    { s with
      flight := s.flight ++ [witnessValidateHandler frame req]
      answers := s.answers ++ [⟨frame.receiver, frame.address, req.nonce⟩] }
  | .validateAck resp =>
    let (event, tx) := witnessValidateAckHandler (s.sender frame.receiver) resp
    { s with
      sender := Function.update s.sender frame.receiver tx
      emitted := s.emitted ++ event.toList.map (fun e => ⟨frame.receiver, e, resp.nonce⟩) }

def changeChannel (s : Network) (node : String) (f : Channel → Channel) : Network :=
  { s with sender := Function.update s.sender node ((s.sender node).map f) }

def step (s : Network) : Event → Network
  -- the cell is set once; a second sender is dropped
  | .setValidationEventSender node capacity =>
    { s with sender := Function.update s.sender node (some ((s.sender node).getD ⟨capacity, [], false⟩)) }
  | .takeEvent node => changeChannel s node (fun c => { c with queue := c.queue.tail })
  | .dropReceiver node => changeChannel s node (fun c => { c with closed := true })
  | .sendValidateRequest node target senderId nonce =>
    { s with flight := s.flight ++ [⟨node, target, .validate ⟨senderId, nonce⟩⟩] }
  | .deliver i =>
    match s.flight[i]? with
    | some frame => receive { s with flight := s.flight.eraseIdx i } frame
    | none => s

def start : Network := ⟨fun _ => none, [], [], []⟩

def NamesAnswerer (s : Network) : Prop :=
  ∀ x ∈ s.emitted, x.event.success = true →
    x.event.nodeId ≠ x.node ∧ ⟨x.event.nodeId, x.node, x.nonce⟩ ∈ s.answers

def Emits (s : Network) : Event → Prop
  | .deliver i => ∃ frame ∈ s.flight[i]?, ∃ resp tx, frame.command = .validateAck resp ∧
      s.sender frame.receiver = some tx ∧ tx.hasRoom = true
  | _ => False

/-- Every answer under way carries the address of the node it goes to. -/
def AnswersNameRequester (s : Network) : Prop :=
  ∀ frame ∈ s.flight, ∀ resp, frame.command = .validateAck resp → resp.senderId = frame.receiver

variable {s : Network} {frame : Frame}

lemma witnessValidateAckHandler_noRoom {sender : Option Channel} {resp : WitnessValidateResponse}
    (h : ∀ tx, sender = some tx → tx.hasRoom = false) :
    (witnessValidateAckHandler sender resp).1 = none := by
  cases hs : sender with
  | none => rfl
  | some tx => simp [witnessValidateAckHandler, trySend, h tx hs]

lemma witnessValidateAckHandler_room {tx : Channel} {resp : WitnessValidateResponse} (h : tx.hasRoom = true) :
    (witnessValidateAckHandler (some tx) resp).1 = some ⟨resp.senderId, true⟩ := by
  simp [witnessValidateAckHandler, trySend, h]

lemma AnswersNameRequester.erase (h : AnswersNameRequester s) (i : ℕ) :
    AnswersNameRequester { s with flight := s.flight.eraseIdx i } :=
  fun frame hf => h frame (List.mem_of_mem_eraseIdx hf)

lemma AnswersNameRequester.post (h : AnswersNameRequester s)
    (hf : ∀ resp, frame.command = .validateAck resp → resp.senderId = frame.receiver) :
    AnswersNameRequester { s with flight := s.flight ++ [frame] } := by
  intro frame' hm resp hc
  rcases List.mem_append.mp hm with hm | hm
  · exact h frame' hm resp hc
  · obtain rfl := List.mem_singleton.mp hm
    exact hf resp hc

lemma AnswersNameRequester.step (h : AnswersNameRequester s) (a : Event) :
    AnswersNameRequester (step s a) := by
  cases a with
  | setValidationEventSender node capacity => exact h
  | takeEvent node => exact h
  | dropReceiver node => exact h
  | sendValidateRequest node target senderId nonce => exact h.post (fun _ hc => nomatch hc)
  | deliver i =>
    rw [Validation.step]
    cases hf : s.flight[i]? with
    | none => exact h
    | some frame =>
      have he := h.erase i
      cases hc : frame.command with
      | validate req =>
        simp only [receive, hc]
        refine he.post ?_
        rintro resp hresp
        obtain rfl := Command.validateAck.inj hresp
        rfl
      | validateAck resp =>
        simp only [receive, hc]
        exact he

lemma NamesAnswerer.mono {s' : Network} (h : NamesAnswerer s) (he : s'.emitted = s.emitted)
    (ha : s.answers ⊆ s'.answers) : NamesAnswerer s' := by
  intro x hx hsuccess
  rw [he] at hx
  exact ⟨(h x hx hsuccess).1, ha (h x hx hsuccess).2⟩

lemma namesAnswerer_receive_iff {resp : WitnessValidateResponse} (h : NamesAnswerer s)
    (hc : frame.command = .validateAck resp) (hown : resp.senderId = frame.receiver) :
    NamesAnswerer (receive s frame) ↔ ¬ ∃ tx, s.sender frame.receiver = some tx ∧ tx.hasRoom = true := by
  simp only [receive, hc]
  by_cases ho : ∃ tx, s.sender frame.receiver = some tx ∧ tx.hasRoom = true
  · refine iff_of_false (fun hnames => ?_) (not_not_intro ho)
    obtain ⟨tx, htx, hroom⟩ := ho
    -- the event names the node that emits it
    have hevent : (witnessValidateAckHandler (s.sender frame.receiver) resp).1 =
        some ⟨resp.senderId, true⟩ := by rw [htx, witnessValidateAckHandler_room hroom]
    exact (hnames ⟨frame.receiver, ⟨resp.senderId, true⟩, resp.nonce⟩ (by simp [hevent]) rfl).1 hown
  · have hnone : (witnessValidateAckHandler (s.sender frame.receiver) resp).1 = none := by
      apply witnessValidateAckHandler_noRoom
      intro tx htx
      exact Bool.eq_false_iff.mpr (fun hroom => ho ⟨tx, htx, hroom⟩)
    refine iff_of_true (h.mono ?_ (List.Subset.refl _)) ho
    simp [hnone]

lemma namesAnswerer_step_iff (hs : AnswersNameRequester s) (h : NamesAnswerer s) (a : Event) :
    NamesAnswerer (step s a) ↔ ¬ Emits s a := by
  cases a with
  | setValidationEventSender node capacity =>
    exact iff_of_true (h.mono rfl (List.Subset.refl _)) not_false
  | takeEvent node => exact iff_of_true (h.mono rfl (List.Subset.refl _)) not_false
  | dropReceiver node => exact iff_of_true (h.mono rfl (List.Subset.refl _)) not_false
  | sendValidateRequest node target senderId nonce =>
    exact iff_of_true (h.mono rfl (List.Subset.refl _)) not_false
  | deliver i =>
    rw [step, Emits]
    cases hf : s.flight[i]? with
    | none => exact iff_of_true h (by simp)
    | some frame =>
      cases hc : frame.command with
      | validate req =>
        simp only [receive, hc]
        exact iff_of_true (h.mono rfl (List.subset_append_left _ _)) (by simp [hc])
      | validateAck resp =>
        have hown : resp.senderId = frame.receiver := hs frame (List.mem_of_getElem? hf) resp hc
        have herased : NamesAnswerer { s with flight := s.flight.eraseIdx i } := h
        simp only [namesAnswerer_receive_iff herased hc hown]
        simp [hc]

theorem names_answerer_iff (run : List Event) :
    (∀ s ∈ visited step start run, NamesAnswerer s) ↔ Guarded step (fun s a => ¬ Emits s a) start run := by
  apply guarded_iff (I := AnswersNameRequester)
  · exact fun s a hs h => namesAnswerer_step_iff hs h a
  · exact fun s a hs _ _ => hs.step a
  · exact fun frame hf => absurd hf List.not_mem_nil
  · exact fun x hx => absurd hx List.not_mem_nil

def zeroNonce : Nonce := Vector.replicate 32 0

def answeredRequest : List Event :=
  [.setValidationEventSender "a" 8, .sendValidateRequest "a" "b" "a" zeroNonce, .deliver 0, .deliver 0]

theorem own_answer_emitted : ¬ ∀ run : List Event, ∀ s ∈ visited step start run, NamesAnswerer s := by
  intro h
  have hlast := h answeredRequest _ (last_visited start answeredRequest)
  have hemitted : (answeredRequest.foldl step start).emitted = [⟨"a", ⟨"a", true⟩, zeroNonce⟩] := by decide
  exact (hlast ⟨"a", ⟨"a", true⟩, zeroNonce⟩ (by rw [hemitted]; exact List.mem_singleton_self _) rfl).1 rfl

end ZzP2p.Witness.Validation
