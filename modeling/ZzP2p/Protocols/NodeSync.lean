import ZzP2p.Lib.Runs

/-! Requests for the data of other nodes and the responses to them. A node has drawn the ids
`requested`, and the main project has received the responses `forwarded`. A handler that has read the
response channel waits until its send returns, and the channel may be replaced or closed meanwhile.
What a response carries besides its id is a parameter: it is passed on as it is. -/

namespace ZzP2p.Protocols.NodeSync

open Lib.Runs

variable {Data : Type}

structure NodeSyncResponse (Data : Type) where
  requestId : String
  success : Bool
  data : Data

structure Node (Data : Type) where
  requested : List String
  responseSender : Option ℕ
  closed : Finset ℕ
  sending : List (ℕ × NodeSyncResponse Data)
  forwarded : List (NodeSyncResponse Data)

inductive Event (Data : Type)
  | requestNodeSync (requestId : String)
  | setResponseSender (channel : ℕ)
  | dropReceiver (channel : ℕ)
  | response (resp : Option (NodeSyncResponse Data))
  | sent (i : ℕ)

def nodeSyncResponseHandler (n : Node Data) (resp : Option (NodeSyncResponse Data)) : Node Data :=
  match resp with
  -- the data does not decode
  | none => n
  | some response =>
    if !response.success then n
    else match n.responseSender with
      | some tx => { n with sending := n.sending ++ [(tx, response)] }
      | none => n

def finishSend (n : Node Data) (i : ℕ) : Node Data :=
  match n.sending[i]? with
  | some (tx, response) =>
    let n := { n with sending := n.sending.eraseIdx i }
    -- nobody holds the other end of the channel: the send returns an error
    if tx ∈ n.closed then n else { n with forwarded := n.forwarded ++ [response] }
  | none => n

def step (n : Node Data) : Event Data → Node Data
  | .requestNodeSync requestId => { n with requested := n.requested ++ [requestId] }
  | .setResponseSender channel => { n with responseSender := some channel }
  | .dropReceiver channel => { n with closed := insert channel n.closed }
  | .response resp => nodeSyncResponseHandler n resp
  | .sent i => finishSend n i

def fresh : Node Data := ⟨[], none, ∅, [], []⟩

def ids (responses : List (NodeSyncResponse Data)) : List String := responses.map NodeSyncResponse.requestId

/-- Each of the responses has the id of a request, and no two have the same. -/
structure Answers (requested : List String) (responses : List (NodeSyncResponse Data)) : Prop where
  requested : ∀ x ∈ ids responses, x ∈ requested
  once : (ids responses).Nodup

def Solicited (n : Node Data) : Prop := Answers n.requested n.forwarded

def waiting (n : Node Data) : List (NodeSyncResponse Data) := n.sending.map Prod.snd

def New (requested : List String) (responses : List (NodeSyncResponse Data))
    (response : NodeSyncResponse Data) : Prop :=
  response.requestId ∈ requested ∧ response.requestId ∉ ids responses

def Awaited (n : Node Data) : Event Data → Prop
  | .response (some response) => response.success = true → n.responseSender.isSome →
      New n.requested (n.forwarded ++ waiting n) response
  | _ => True

def Matched (n : Node Data) : Event Data → Prop
  | .sent i => ∀ tx response, n.sending[i]? = some (tx, response) → tx ∉ n.closed →
      New n.requested n.forwarded response
  | _ => True

def Inv (n : Node Data) : Prop := Answers n.requested (n.forwarded ++ waiting n)

variable {n : Node Data} {requested : List String} {l l' : List (NodeSyncResponse Data)}
  {response : NodeSyncResponse Data}

lemma Answers.sublist (h : Answers requested l') (hl : l.Sublist l') : Answers requested l := by
  have hids : (ids l).Sublist (ids l') := hl.map _
  exact ⟨fun x hx => h.requested x (hids.subset hx), h.once.sublist hids⟩

lemma Answers.perm (h : Answers requested l') (hl : l.Perm l') : Answers requested l := by
  have hids : (ids l).Perm (ids l') := hl.map _
  exact ⟨fun x hx => h.requested x (hids.subset hx), hids.nodup_iff.mpr h.once⟩

lemma Answers.request (h : Answers requested l) (requestId : String) :
    Answers (requested ++ [requestId]) l :=
  ⟨fun x hx => List.mem_append_left _ (h.requested x hx), h.once⟩

lemma answers_append_singleton : Answers requested (l ++ [response]) ↔
    Answers requested l ∧ New requested l response := by
  have hids : ids (l ++ [response]) = ids l ++ [response.requestId] := by simp [ids]
  constructor
  · intro h
    refine ⟨h.sublist (List.sublist_append_left _ _), h.requested _ (by simp [hids]), ?_⟩
    have honce := h.once
    rw [hids, List.nodup_append] at honce
    exact fun hm => honce.2.2 _ hm _ (List.mem_singleton_self _) rfl
  · rintro ⟨h, hrequested, hnew⟩
    constructor
    · intro x hx
      rw [hids] at hx
      rcases List.mem_append.mp hx with hx | hx
      · exact h.requested x hx
      · exact List.mem_singleton.mp hx ▸ hrequested
    · rw [hids]
      exact h.once.append (List.nodup_singleton _) (List.disjoint_singleton.mpr hnew)

lemma waiting_perm {i tx : ℕ} (h : n.sending[i]? = some (tx, response)) :
    (waiting n).Perm (response :: (n.sending.eraseIdx i).map Prod.snd) := by
  obtain ⟨hi, he⟩ := List.getElem?_eq_some_iff.mp h
  have hperm := List.getElem_cons_eraseIdx_perm hi
  rw [he] at hperm
  exact (hperm.map Prod.snd).symm

lemma Inv.solicited (h : Inv n) : Solicited n := Answers.sublist h (List.sublist_append_left _ _)

lemma Inv.finishSend (h : Inv n) (i : ℕ) : Inv (finishSend n i) := by
  rw [NodeSync.finishSend]
  cases hs : n.sending[i]? with
  | none => exact h
  | some p =>
    obtain ⟨tx, response⟩ := p
    -- the response stands with those received whether or not the send succeeds
    have hall : Answers n.requested (n.forwarded ++ response :: (n.sending.eraseIdx i).map Prod.snd) :=
      Answers.perm h ((waiting_perm hs).symm.append_left n.forwarded)
    dsimp only
    split
    · exact hall.sublist ((List.sublist_cons_self _ _).append_left _)
    · rw [Inv, List.append_assoc]
      exact hall

lemma nodeSyncResponseHandler_cases (n : Node Data) (resp : Option (NodeSyncResponse Data)) :
    nodeSyncResponseHandler n resp = n ∨
      ∃ response tx, resp = some response ∧ response.success = true ∧ n.responseSender = some tx ∧
        nodeSyncResponseHandler n resp = { n with sending := n.sending ++ [(tx, response)] } := by
  cases resp with
  | none => exact Or.inl rfl
  | some response =>
    cases hsuccess : response.success with
    | false => exact Or.inl (by simp [nodeSyncResponseHandler, hsuccess])
    | true =>
      cases htx : n.responseSender with
      | none => exact Or.inl (by simp [nodeSyncResponseHandler, hsuccess, htx])
      | some tx =>
        refine Or.inr ⟨response, tx, rfl, hsuccess, rfl, ?_⟩
        simp [nodeSyncResponseHandler, hsuccess, htx]

lemma Inv.step (h : Inv n) {a : Event Data} (ha : Awaited n a) : Inv (step n a) := by
  cases a with
  | requestNodeSync requestId => exact Answers.request h requestId
  | setResponseSender channel => exact h
  | dropReceiver channel => exact h
  | response resp =>
    rw [NodeSync.step]
    rcases nodeSyncResponseHandler_cases n resp with he | ⟨response, tx, rfl, hsuccess, htx, he⟩
    · rwa [he]
    · have hnew := ha hsuccess (Option.isSome_of_eq_some htx)
      rw [he, Inv, waiting, List.map_append, ← List.append_assoc]
      exact answers_append_singleton.mpr ⟨h, hnew⟩
  | sent i => exact h.finishSend i

lemma solicited_step_iff (h : Solicited n) (a : Event Data) : Solicited (step n a) ↔ Matched n a := by
  cases a with
  | requestNodeSync requestId => exact iff_of_true (Answers.request h requestId) trivial
  | setResponseSender channel => exact iff_of_true h trivial
  | dropReceiver channel => exact iff_of_true h trivial
  | response resp =>
    refine iff_of_true ?_ trivial
    rw [step]
    rcases nodeSyncResponseHandler_cases n resp with he | ⟨response, tx, -, -, -, he⟩
    · rwa [he]
    · rw [he]
      exact h
  | sent i =>
    rw [step, finishSend, Matched]
    cases hs : n.sending[i]? with
    | none => exact iff_of_true h (by simp)
    | some p =>
      obtain ⟨tx, response⟩ := p
      dsimp only
      split
      · next hclosed =>
        refine iff_of_true h ?_
        rintro _ _ ⟨⟩ hopen
        exact absurd hclosed hopen
      · next hopen =>
        refine answers_append_singleton.trans ⟨?_, ?_⟩
        · rintro ⟨-, hnew⟩ _ _ ⟨⟩ -
          exact hnew
        · exact fun hmatched => ⟨h, hmatched tx response rfl hopen⟩

theorem sync_data_solicited (run : List (Event Data)) :
    (Guarded step Awaited fresh run → ∀ n ∈ visited step fresh run, Solicited n) ∧
    ((∀ n ∈ visited step fresh run, Solicited n) ↔ Guarded step Matched fresh run) := by
  have hfresh : Inv (fresh : Node Data) := ⟨fun x hx => absurd hx List.not_mem_nil, List.nodup_nil⟩
  constructor
  · intro hg n hn
    have hinv := guarded_invariant (I := Inv) (fun n a h ha => Inv.step h ha) hfresh hg n hn
    exact hinv.solicited
  · apply guarded_iff_of_exact
    · exact fun n a h => solicited_step_iff h a
    · exact hfresh.solicited

theorem unsolicited_data_forwarded :
    ¬ ∀ (Data : Type) (run : List (Event Data)), ∀ n ∈ visited step fresh run, Solicited n := by
  intro h
  have hlast := h String [.setResponseSender 0, .response (some ⟨"x", true, "1000"⟩), .sent 0] _
    (last_visited fresh _)
  exact absurd (hlast.requested "x" (List.mem_singleton_self "x")) List.not_mem_nil

end ZzP2p.Protocols.NodeSync
