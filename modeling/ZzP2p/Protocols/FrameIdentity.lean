import ZzP2p.Lib.Numerals
import ZzP2p.Lib.Runs
import ZzP2p.Lib.Sha256
import ZzP2p.Protocols.FrameReceive

/-! The identities that handlers take from accepted frames. The signature binds the body to the
key it carries; nothing on the way compares that key with the address in the body. -/

namespace ZzP2p.Protocols.Reception

open Rust Lib Lib.Runs

variable (sha256 : Bytes → Digest) (A : Account) (C : Codec) (W : CommandCodec) {K : KeyTable}

def Bound (f : P2PFrame) : Prop := f.body.address = A.address (A.toPublicKey f.body.publicKey)

/-- The body was made by `P2PFrame::build`, for whatever identity. -/
def Built (f : P2PFrame) : Prop :=
  ∃ identity cmd version nonce g, build A C identity cmd version nonce = .ok g ∧ g.body = f.body

/-- Apart from the address, the fields are such as `P2PFrame::build` writes. -/
def BuiltApart (f : P2PFrame) : Prop :=
  f.body.publicKey = A.toBytes (A.toPublicKey f.body.publicKey) ∧
    ∃ cmd, C.encodeCommand cmd = some f.body.data ∧ f.body.dataLength = UInt32.ofNat f.body.data.length

def BelongsToSigner (f : P2PFrame) (a : String) : Prop :=
  ∃ sk m, C.encodeBody f.body = some m ∧ A.Signs sk m (A.toSignature f.signature) ∧
    A.publicKey sk = A.toPublicKey f.body.publicKey ∧ a = A.address (A.publicKey sk)

def commandData (f : P2PFrame) : Bytes := ((C.decodeCommand f.body.data).map P2PCommand.data).getD []

/-- The step of a frame stays at the address that belongs to its signer. -/
def StepBound (s : Receiver K) (e : Event) : Prop :=
  match e with
  | .frame _ _ f => Confined W (BelongsToSigner A C f) (commandData C f) s (step sha256 A C W s e)
  | .other _ _ _ => True

structure IdentitiesBound (s : Receiver K) (events : List Event) : Prop where
  steps : Guarded (step sha256 A C W) (StepBound sha256 A C W) s events
  keys : ∀ a, K.keyOf (events.foldl (step sha256 A C W) s).keys a ≠ K.keyOf s.keys a →
    ∃ peer returns f, .frame peer returns f ∈ events ∧ Accepted A C f ∧ BelongsToSigner A C f a

variable {sha256 A C W}

lemma build_body {identity : A.Secret} {cmd : P2PCommand} {version : UInt8} {nonce : UInt64} {f : P2PFrame} :
    (∃ g, build A C identity cmd version nonce = .ok g ∧ g.body = f.body) ↔
      ∃ bytes m, C.encodeCommand cmd = some bytes ∧ C.encodeBody f.body = some m ∧
        f.body = ⟨version, A.address (A.publicKey identity), A.toBytes (A.publicKey identity), nonce,
          UInt32.ofNat bytes.length, bytes⟩ := by
  constructor
  · rintro ⟨g, hg, hbody⟩
    rw [build] at hg
    cases hc : C.encodeCommand cmd with
    | none =>
      rw [hc] at hg
      cases hg
    | some bytes =>
      rw [hc] at hg
      dsimp only at hg
      rw [sign] at hg
      split at hg
      · next m hm =>
        obtain rfl := Except.ok.inj hg
        exact ⟨bytes, m, rfl, hbody ▸ hm, hbody.symm⟩
      · cases hg
  · rintro ⟨bytes, m, hc, hm, hbody⟩
    rw [hbody] at hm
    rw [build, hc]
    dsimp only
    rw [sign, hm]
    exact ⟨_, rfl, hbody.symm⟩

lemma bound_of_built (hA : A.Lawful) {f : P2PFrame} (h : Built A C f) : Bound A f := by
  obtain ⟨identity, cmd, version, nonce, hbuild⟩ := h
  obtain ⟨bytes, m, -, -, hbody⟩ := build_body.mp hbuild
  rw [Bound, hbody, hA.toPublicKey_toBytes]

lemma belongsToSigner_of_bound (hA : A.Lawful) {f : P2PFrame} (hv : validate A C f = true)
    (hb : Bound A f) : BelongsToSigner A C f f.body.address := by
  obtain ⟨sk, m, hm, hk, hs⟩ := (validate_iff hA).mp hv
  exact ⟨sk, m, hm, hs, hk, by rw [hk, hb]⟩

lemma bound_iff_built (hA : A.Lawful) {f : P2PFrame} (ha : Accepted A C f) (hf : BuiltApart A C f) :
    Bound A f ↔ Built A C f := by
  refine ⟨fun hb => ?_, bound_of_built hA⟩
  obtain ⟨hkey, cmd, hcmd, hlength⟩ := hf
  obtain ⟨sk, m, hm, hk, -⟩ := (validate_iff hA).mp (accepted_iff.mp ha)
  refine ⟨sk, cmd, f.body.version, f.body.nonce, build_body.mpr ⟨_, m, hcmd, hm, ?_⟩⟩
  rw [hk, ← hb, ← hkey, ← hlength]

variable {s : Receiver K} {events : List Event}

/-- The handlers touch what is kept under the address of the body, whoever signed it. -/
lemma confined_receive (hK : K.Lawful) (peer : SocketAddr) (returns : Bool) (f : P2PFrame) :
    Confined W (· = f.body.address) (commandData C f) s (receive sha256 A C W peer returns f s) := by
  rw [receive, commandData]
  split
  · cases C.decodeCommand f.body.data with
    | none => exact Confined.refl _ _ s
    | some cmd =>
      dsimp only [Option.map_some, Option.getD_some]
      split
      · exact confined_online hK returns
      · exact confined_onlineack hK
      · exact confined_message
      · exact confined_messageAck
      · exact Confined.refl _ _ s
  · exact Confined.refl _ _ s

lemma receive_of_rejected {f : P2PFrame} (hv : validate A C f ≠ true) (peer : SocketAddr) (returns : Bool) :
    receive sha256 A C W peer returns f s = s := by
  rw [receive, if_neg hv]

lemma stepBound_frame (hA : A.Lawful) (hK : K.Lawful) (peer : SocketAddr) (returns : Bool) {f : P2PFrame}
    (hf : Accepted A C f → Bound A f) : StepBound sha256 A C W s (.frame peer returns f) := by
  rw [StepBound, step]
  by_cases hv : validate A C f = true
  · have hb := belongsToSigner_of_bound hA hv (hf (accepted_iff.mpr hv))
    exact (confined_receive hK peer returns f).mono (fun a ha => ha ▸ hb)
  · rw [receive_of_rejected hv]
    exact Confined.refl _ _ s

/-- A key that a step changes was signed for in the step. -/
lemma keyOf_step (hK : K.Lawful) {e : Event} (h : StepBound sha256 A C W s e) {a : String}
    (ha : K.keyOf (step sha256 A C W s e).keys a ≠ K.keyOf s.keys a) :
    ∃ peer returns f, e = .frame peer returns f ∧ Accepted A C f ∧ BelongsToSigner A C f a := by
  cases e with
  | frame peer returns f =>
    refine ⟨peer, returns, f, rfl, ?_, h.keys a ha⟩
    by_contra hv
    rw [accepted_iff] at hv
    rw [step, receive_of_rejected hv] at ha
    exact ha rfl
  | other registry chat creates =>
    exfalso
    apply ha
    rw [step]
    dsimp only
    split
    · exact hK.keyOf_create s.keys a
    · rfl

lemma keys_of_steps (hK : K.Lawful) (h : Guarded (step sha256 A C W) (StepBound sha256 A C W) s events)
    {a : String} (ha : K.keyOf (events.foldl (step sha256 A C W) s).keys a ≠ K.keyOf s.keys a) :
    ∃ peer returns f, .frame peer returns f ∈ events ∧ Accepted A C f ∧ BelongsToSigner A C f a := by
  induction events generalizing s with
  | nil => exact absurd rfl ha
  | cons e events ih =>
    by_cases hstep : K.keyOf (step sha256 A C W s e).keys a = K.keyOf s.keys a
    · rw [← hstep] at ha
      obtain ⟨peer, returns, f, hf, hrest⟩ := ih h.2 ha
      exact ⟨peer, returns, f, List.mem_cons_of_mem e hf, hrest⟩
    · obtain ⟨peer, returns, f, rfl, hrest⟩ := keyOf_step hK h.1 hstep
      exact ⟨peer, returns, f, List.mem_cons_self, hrest⟩

theorem identities_bound_of_built (sha256 : Bytes → Digest) (W : CommandCodec) (hA : A.Lawful)
    (hK : K.Lawful) :
    (∀ f, Accepted A C f → Built A C f → Bound A f) ∧
    (∀ f, Accepted A C f → BuiltApart A C f → (Bound A f ↔ Built A C f)) ∧
    ∀ (s : Receiver K) (events : List Event),
      (∀ peer returns f, .frame peer returns f ∈ events → Accepted A C f → Built A C f) →
      IdentitiesBound sha256 A C W s events := by
  refine ⟨fun f _ hb => bound_of_built hA hb, fun f ha hf => bound_iff_built hA ha hf, ?_⟩
  intro s events hbuilt
  have hsteps : Guarded (step sha256 A C W) (StepBound sha256 A C W) s events := by
    rw [guarded_iff_forall_split]
    rintro before e after rfl
    cases e with
    | frame peer returns f =>
      apply stepBound_frame hA hK peer returns
      intro ha
      exact bound_of_built hA (hbuilt peer returns f (by simp) ha)
    | other registry chat creates => trivial
  exact ⟨hsteps, fun a ha => keys_of_steps hK hsteps ha⟩

def tagAccount : Account where
  Secret := UInt8
  PublicKey := UInt8
  Signature := UInt8 × UInt8 × Bytes
  publicKey sk := sk
  toBytes pk := [pk]
  toPublicKey bytes := bytes.headD 0
  address pk := toString pk.toNat
  serializeCompact s := s.1 :: s.2.1 :: s.2.2
  toSignature bytes := (bytes.headD 0, bytes.tail.headD 0, bytes.tail.tail)
  -- the middle byte may be anything
  Signs sk m s := s.1 = sk ∧ s.2.2 = m
  signMessage sk m := (sk, 3, m)
  verifyMessage pk m s := s.1 = pk ∧ s.2.2 = m

lemma tagAccount_lawful : tagAccount.Lawful where
  signs_signMessage _ _ := ⟨rfl, rfl⟩
  verify_iff pk m s := by
    constructor
    · intro h
      refine ⟨pk, rfl, ?_⟩
      simpa [tagAccount] using h
    · rintro ⟨sk, rfl, h⟩
      simpa [tagAccount] using h
  toPublicKey_toBytes pk := rfl
  toSignature_serialize s := rfl

lemma tagAccount_address_injective : Function.Injective tagAccount.address := by
  intro a b h
  exact UInt8.toNat_inj.mp (Lib.Numerals.repr_injective h)

def onLineCodec : Codec where
  encodeBody b := some (b.version :: utf8 b.address ++ 0 :: b.publicKey ++ leBytes b.nonce ++ b.data)
  encodeFrame _ := none
  decodeFrame _ := none
  encodeCommand cmd := if cmd.entity = .node ∧ cmd.action = .onLine then some (0 :: cmd.data) else none
  decodeCommand bytes := match bytes with
    | 0 :: data => some ⟨.node, .onLine, data⟩
    | _ => none

def onLineCommands : CommandCodec where
  onLine data := match data with
    | [sid, pk] => some (⟨[sid], 80, none⟩, [pk])
    | _ => none
  onLineAck _ := none
  message _ := none
  messageAck _ := none

def pairTable : KeyTable where
  Table := List (String × Bytes)
  SharedKey := Bytes
  keyOf t a := t.lookup a
  establishBegins t peer _ pk := match t.lookup peer with
    | some _ => (some none, t)
    | none => (some (some [9]), (peer, 9 :: pk) :: t)
  establishEnds t _ peer _ pk := (peer, 9 :: pk) :: t
  create t := t
  decrypt t a data := (t.lookup a).map (fun key => data.map (· ^^^ key.headD 0))

lemma lookup_cons_of_ne {a b : String} (h : a ≠ b) (key : Bytes) (t : List (String × Bytes)) :
    ((b, key) :: t).lookup a = t.lookup a := by
  rw [List.lookup_cons, beq_false_of_ne h]

lemma pairTable_lawful : pairTable.Lawful where
  keyOf_begins t peer own pk a h := by
    dsimp only [pairTable]
    split
    · rfl
    · exact lookup_cons_of_ne h _ t
  keyOf_ends t sid peer own pk a h := lookup_cons_of_ne h _ t
  keyOf_create t a := rfl

def onLineFrame (signer : UInt8) (address : String) : P2PFrame :=
  let body : FrameBody := ⟨1, address, [signer], 7, 3, [0, 4, 5]⟩
  ⟨body, signer :: 3 :: ((onLineCodec.encodeBody body).getD [])⟩

def newcomer : Receiver pairTable := ⟨NodeRegistry.empty, [], Messaging.freshNode "8", []⟩

def arrival (f : P2PFrame) : List Event := [.frame (.v4 ⟨10, 0, 0, 1⟩ 50000) false f]

lemma arrival_keys (sha256 : Bytes → Digest) {f : P2PFrame} (hv : validate tagAccount onLineCodec f = true)
    (hc : onLineCodec.decodeCommand f.body.data = some ⟨.node, .onLine, [4, 5]⟩) :
    ((arrival f).foldl (step sha256 tagAccount onLineCodec onLineCommands) newcomer).keys =
      [(f.body.address, [9, 5])] := by
  rw [arrival, List.foldl_cons, List.foldl_nil, step, receive, if_pos hv, hc]
  rfl

theorem identities_bound_built :
    IdentitiesBound Sha256.digest tagAccount onLineCodec onLineCommands newcomer
      (arrival (onLineFrame 2 "2")) ∧
    ((arrival (onLineFrame 2 "2")).foldl (step Sha256.digest tagAccount onLineCodec onLineCommands)
      newcomer).keys = [("2", [9, 5])] := by
  refine ⟨?_, arrival_keys Sha256.digest (by decide) rfl⟩
  apply (identities_bound_of_built Sha256.digest onLineCommands tagAccount_lawful pairTable_lawful).2.2
  intro peer returns f hf _
  obtain ⟨-, -, rfl⟩ := Event.frame.inj (List.mem_singleton.mp hf)
  exact ⟨(2 : UInt8), ⟨.node, .onLine, [4, 5]⟩, 1, 7, onLineFrame 2 "2", rfl, rfl⟩

lemma not_belongsToSigner : ¬ BelongsToSigner tagAccount onLineCodec (onLineFrame 1 "2") "2" := by
  rintro ⟨sk, m, -, ⟨hsk, -⟩, -, ha⟩
  rw [← hsk] at ha
  exact absurd ha (by decide)

theorem foreign_address_accepted :
    (¬ ∀ (A : Account) (C : Codec), A.Lawful → Function.Injective A.address →
      ∀ f, Accepted A C f → Bound A f) ∧
    ¬ ∀ (A : Account) (C : Codec) (W : CommandCodec) (K : KeyTable), A.Lawful →
      Function.Injective A.address → K.Lawful → ∀ (s : Receiver K) (events : List Event),
        IdentitiesBound Sha256.digest A C W s events := by
  constructor
  · intro h
    have hb := h tagAccount onLineCodec tagAccount_lawful tagAccount_address_injective
      (onLineFrame 1 "2") (accepted_iff.mpr (by decide))
    exact absurd hb (by unfold Bound; decide)
  · intro h
    have hbound := h tagAccount onLineCodec onLineCommands pairTable tagAccount_lawful
      tagAccount_address_injective pairTable_lawful newcomer (arrival (onLineFrame 1 "2"))
    have hkeys := arrival_keys Sha256.digest (f := onLineFrame 1 "2") (by decide) rfl
    have hchanged : pairTable.keyOf [("2", [9, 5])] "2" ≠ pairTable.keyOf newcomer.keys "2" :=
      Option.some_ne_none _
    obtain ⟨peer, returns, f, hf, -, hsigner⟩ := hbound.keys "2" (by rw [hkeys]; exact hchanged)
    obtain ⟨-, -, rfl⟩ := Event.frame.inj (List.mem_singleton.mp hf)
    exact not_belongsToSigner hsigner

end ZzP2p.Protocols.Reception
