import ZzP2p.Protocols.Frame
import ZzP2p.Rust.Bincode

/-! Commands and frames on the wire. A built frame is written, read back, verified over a second
encoding of its body and opened again. -/

namespace ZzP2p.Protocols

open Rust Lib

def entities : List Entity := [.node, .message, .witness, .telephone, .file]

def actions : List Action :=
  [.onLine, .onLineAck, .offLine, .ack, .update, .nodeSync, .nodeSyncRequest, .nodeSyncResponse,
    .seedSyncRequest, .seedSyncResponse, .seedSyncCommit,
    .sendText, .sendBinary, .messageAck,
    .sendEncrypted, .sendEncryptedAck, .readReceipt, .deleteMessage,
    .tick, .tickAck, .check, .validate, .validateAck,
    .call, .hangUp, .accept, .reject]

lemma mem_entities (e : Entity) : e ∈ entities := by
  cases e <;> simp [entities]

lemma mem_actions (a : Action) : a ∈ actions := by
  cases a <;> simp [actions]

namespace Wire

def entity : Format Entity := Bincode.enum entities mem_entities

def action : Format Action := Bincode.enum actions mem_actions

def command : Format P2PCommand :=
  (entity.seq (action.seq Bincode.vec)).map (fun p => ⟨p.1, p.2.1, p.2.2⟩)
    (fun c => (c.entity, c.action, c.data)) (fun _ => rfl)

def body : Format FrameBody :=
  (Bincode.u8.seq (Bincode.string.seq (Bincode.vec.seq (Bincode.u64.seq
    (Bincode.u32.seq Bincode.vec))))).map
    (fun p => ⟨p.1, p.2.1, p.2.2.1, p.2.2.2.1, p.2.2.2.2.1, p.2.2.2.2.2⟩)
    (fun b => (b.version, b.address, b.publicKey, b.nonce, b.dataLength, b.data)) (fun _ => rfl)

def frame : Format P2PFrame :=
  (body.seq Bincode.vec).map (fun p => ⟨p.1, p.2⟩) (fun f => (f.body, f.signature)) (fun _ => rfl)

end Wire

variable (A : Account)

def bincode : Codec where
  encodeBody := Wire.body.encode
  encodeFrame := Wire.frame.encode
  decodeFrame := Wire.frame.decodeSlice
  encodeCommand := Wire.command.encode
  decodeCommand := Wire.command.decodeSlice

def commandFromData (C : Codec) (body : FrameBody) : Except FrameError P2PCommand :=
  match C.decodeCommand body.data with
  | some cmd => .ok cmd
  | none => .error .codec

/-- No `Vec` and no `String` of Rust holds more bytes. -/
def isizeMax : ℕ := 2 ^ 63 - 1

structure Account.Sized : Prop where
  address : ∀ pk, (utf8 (A.address pk)).length ≤ isizeMax
  toBytes : ∀ pk, (A.toBytes pk).length ≤ isizeMax
  serializeCompact : ∀ s, (A.serializeCompact s).length ≤ isizeMax

/-- Under the key `pk` the signature of `m` validates no other message. -/
def Account.SignsOnly (pk : A.PublicKey) (sk : A.Secret) (m : Bytes) : Prop :=
  ∀ m', A.verifyMessage pk m' (A.signMessage sk m) = true → m' = m

variable {A}

lemma fits_command {cmd : P2PCommand} (h : cmd.data.length ≤ isizeMax) :
    ∃ bytes, Wire.command.encode cmd = some bytes ∧ bytes.length < 2 ^ 64 := by
  have hentity := Bincode.fits_enum (h := mem_entities) cmd.entity (by decide)
  have haction := Bincode.fits_enum (h := mem_actions) cmd.action (by decide)
  have hdata : Bincode.vec.Fits cmd.data (9 + cmd.data.length) := by
    apply Bincode.fits_vec
    rw [isizeMax] at h
    omega
  obtain ⟨bytes, hbytes, hlength⟩ := hentity.seq (haction.seq hdata)
  refine ⟨bytes, hbytes, ?_⟩
  rw [isizeMax] at h
  omega

example : Wire.command.encode ⟨.message, .sendText, [104]⟩ = some [1, 11, 1, 104] := rfl

lemma fits_body {b : FrameBody} (haddress : (utf8 b.address).length ≤ isizeMax)
    (hkey : b.publicKey.length ≤ isizeMax) (hdata : b.data.length < 2 ^ 64) :
    ∃ bytes, Wire.body.encode b = some bytes := by
  rw [isizeMax] at haddress hkey
  have ha := Bincode.fits_string b.address (by omega)
  have hk := Bincode.fits_vec b.publicKey (by omega)
  have hd := Bincode.fits_vec b.data hdata
  obtain ⟨bytes, hbytes, -⟩ := (Format.fits_byte b.version).seq (ha.seq (hk.seq
    ((Bincode.fits_u64 b.nonce).seq ((Bincode.fits_u32 b.dataLength).seq hd))))
  exact ⟨bytes, hbytes⟩

lemma frame_encode {f : P2PFrame} {m : Bytes} (hm : Wire.body.encode f.body = some m)
    (hs : f.signature.length ≤ isizeMax) : ∃ bytes, Wire.frame.encode f = some bytes := by
  rw [isizeMax] at hs
  have hbody : Wire.body.Fits f.body m.length := ⟨m, hm, le_rfl⟩
  obtain ⟨bytes, hbytes, -⟩ := hbody.seq (Bincode.fits_vec f.signature (by omega))
  exact ⟨bytes, hbytes⟩

lemma build_eq {sk : A.Secret} {cmd : P2PCommand} {version : UInt8} {nonce : UInt64}
    (hsize : A.Sized) (h : cmd.data.length ≤ isizeMax) :
    ∃ cmdBytes m f, Wire.command.encode cmd = some cmdBytes ∧ Wire.body.encode f.body = some m ∧
      build A bincode sk cmd version nonce = .ok f ∧
      f.body.publicKey = A.toBytes (A.publicKey sk) ∧ f.body.data = cmdBytes ∧
      f.signature = A.serializeCompact (A.signMessage sk m) := by
  obtain ⟨cmdBytes, hcmd, hlength⟩ := fits_command h
  let b : FrameBody := ⟨version, A.address (A.publicKey sk), A.toBytes (A.publicKey sk), nonce,
    UInt32.ofNat cmdBytes.length, cmdBytes⟩
  obtain ⟨m, hm⟩ := fits_body (b := b) (hsize.address _) (hsize.toBytes _) hlength
  refine ⟨cmdBytes, m, ⟨b, A.serializeCompact (A.signMessage sk m)⟩, hcmd, hm, ?_, rfl, rfl, rfl⟩
  simp only [build, sign, bincode, hcmd]
  rw [show Wire.body.encode b = some m from hm]

lemma build_round_trip (hA : A.Lawful) (hsize : A.Sized) (sk : A.Secret) {cmd : P2PCommand}
    (version : UInt8) (nonce : UInt64) (h : cmd.data.length ≤ isizeMax) :
    ∃ f bytes, build A bincode sk cmd version nonce = .ok f ∧
      Wire.frame.encode f = some bytes ∧ verifyBytes A bincode bytes = .ok f ∧
      commandFromData bincode f.body = .ok cmd := by
  obtain ⟨cmdBytes, m, f, hcmd, hm, hbuild, hkey, hdata, hsign⟩ := build_eq hsize h
  obtain ⟨bytes, hbytes⟩ := frame_encode hm (by rw [hsign]; exact hsize.serializeCompact _)
  -- the receiver encodes the decoded body again, and finds the bytes that were signed
  have hvalid : validate A bincode f = true := by
    apply (validate_iff hA).mpr
    refine ⟨sk, m, hm, ?_, ?_⟩
    · rw [hkey, hA.toPublicKey_toBytes]
    · rw [hsign, hA.toSignature_serialize]
      exact hA.signs_signMessage sk m
  refine ⟨f, bytes, hbuild, hbytes, ?_, ?_⟩
  · have hdecode : bincode.decodeFrame bytes = some f :=
      Wire.frame.decodeSlice_encode hbytes
    rw [verifyBytes, hdecode]
    exact verify_of_validate hvalid
  · have hdecode : bincode.decodeCommand f.body.data = some cmd := by
      rw [hdata]
      exact Wire.command.decodeSlice_encode hcmd
    rw [commandFromData, hdecode]

lemma accepted_body_eq (hA : A.Lawful) {sk : A.Secret} {b : FrameBody} {m : Bytes} {f : P2PFrame}
    (hb : Wire.body.encode b = some m) (honly : A.SignsOnly (A.toPublicKey f.body.publicKey) sk m)
    (hsign : A.toSignature f.signature = A.signMessage sk m)
    (haccepted : Accepted A bincode f) : f.body = b := by
  obtain ⟨sk', m', hm', hkey, hs⟩ := (validate_iff hA).mp (accepted_iff.mp haccepted)
  rw [hsign] at hs
  have hm : m' = m := honly m' ((hA.verify_iff _ _ _).mpr ⟨sk', hkey, hs⟩)
  rw [hm] at hm'
  exact Wire.body.encode_injective hm' hb

theorem frame_round_trip (hA : A.Lawful) (hsize : A.Sized) :
    (∀ (identity : A.Secret) (cmd : P2PCommand) (version : UInt8) (nonce : UInt64),
      cmd.data.length ≤ isizeMax →
      ∃ f bytes, build A bincode identity cmd version nonce = .ok f ∧
        Wire.frame.encode f = some bytes ∧
        verifyBytes A bincode bytes = .ok f ∧
        commandFromData bincode f.body = .ok cmd) ∧
    (∀ (b b' : FrameBody) (m : Bytes), bincode.encodeBody b = some m →
      bincode.encodeBody b' = some m → b = b') ∧
    ∀ (identity : A.Secret) (b : FrameBody) (m : Bytes) (f : P2PFrame),
      bincode.encodeBody b = some m →
      A.SignsOnly (A.toPublicKey f.body.publicKey) identity m →
      A.toSignature f.signature = A.signMessage identity m →
      Accepted A bincode f → f.body = b := by
  refine ⟨?_, ?_, ?_⟩
  · intro identity cmd version nonce h
    exact build_round_trip hA hsize identity version nonce h
  · intro b b' m hb hb'
    exact Wire.body.encode_injective hb hb'
  · intro identity b m f hb honly hsign haccepted
    exact accepted_body_eq hA hb honly hsign haccepted

def shortAccount : Account where
  Secret := UInt8
  PublicKey := UInt8
  Signature := UInt8 × Option {m : Bytes // m.length ≤ 100}
  publicKey sk := sk
  toBytes pk := [pk]
  toPublicKey bytes := bytes.headD 0
  address pk := String.ofList (hexByte pk)
  serializeCompact s := s.1 :: (match s.2 with
    | some m => 1 :: m.val
    | none => [])
  toSignature bytes := (bytes.headD 0, match bytes.tail with
    | [] => none
    | _ :: m => if h : m.length ≤ 100 then some ⟨m, h⟩ else none)
  Signs sk m s := s = (sk, if h : m.length ≤ 100 then some ⟨m, h⟩ else none)
  -- a long message is signed with the key alone
  signMessage sk m := (sk, if h : m.length ≤ 100 then some ⟨m, h⟩ else none)
  verifyMessage pk m s := s = (pk, if h : m.length ≤ 100 then some ⟨m, h⟩ else none)

lemma shortAccount_lawful : shortAccount.Lawful where
  signs_signMessage _ _ := rfl
  verify_iff pk m s := by
    refine ⟨fun h => ⟨pk, rfl, ?_⟩, ?_⟩
    · simpa [shortAccount] using h
    · rintro ⟨sk, rfl, rfl⟩
      simp [shortAccount]
  toPublicKey_toBytes pk := rfl
  toSignature_serialize s := by
    rcases s with ⟨sk, _ | m⟩
    · rfl
    · simp [shortAccount, m.property]

lemma shortAccount_sized : shortAccount.Sized where
  address pk := by
    have h1 := Char.utf8Size_le_four (pk.toNat / 16).digitChar
    have h2 := Char.utf8Size_le_four (pk.toNat % 16).digitChar
    simp only [shortAccount, hexByte, utf8, String.toList_ofList, List.flatMap_cons, List.flatMap_nil,
      List.append_nil, List.length_append, String.length_utf8EncodeChar, isizeMax]
    omega
  toBytes pk := by
    change 1 ≤ 2 ^ 63 - 1
    omega
  serializeCompact s := by
    rcases s with ⟨sk, _ | m⟩
    · change 1 ≤ 2 ^ 63 - 1
      omega
    · have hm := m.property
      change m.val.length + 1 + 1 ≤ 2 ^ 63 - 1
      omega

lemma shortAccount_signsOnly {pk sk : UInt8} {m : Bytes} (h : m.length ≤ 100) :
    shortAccount.SignsOnly pk sk m := by
  intro m' hv
  have hs : (sk, some ⟨m, h⟩) =
      (pk, if h : m'.length ≤ 100 then some (⟨m', h⟩ : {m : Bytes // m.length ≤ 100}) else none) := by
    simpa [shortAccount, h] using hv
  split at hs
  · exact (congrArg Subtype.val (Option.some.inj (congrArg Prod.snd hs))).symm
  · cases congrArg Prod.snd hs

theorem sent_text_round_trip :
    (∃ f bytes, build shortAccount bincode (2 : UInt8) ⟨.message, .sendText, [104, 105]⟩ 1 7 = .ok f ∧
      Wire.frame.encode f = some bytes ∧ verifyBytes shortAccount bincode bytes = .ok f ∧
      commandFromData bincode f.body = .ok ⟨.message, .sendText, [104, 105]⟩) ∧
    ∀ f, shortAccount.toSignature f.signature = shortAccount.signMessage (2 : UInt8) [1, 0, 0, 7, 3, 0] →
      Accepted shortAccount bincode f → f.body = ⟨1, "", [], 7, 3, []⟩ := by
  obtain ⟨hround, -, honly⟩ :=
    frame_round_trip shortAccount_lawful shortAccount_sized
  refine ⟨hround (2 : UInt8) _ 1 7 (by decide), ?_⟩
  intro f hsign haccepted
  refine honly (2 : UInt8) _ _ f ?_ (shortAccount_signsOnly (by decide)) hsign haccepted
  decide

end ZzP2p.Protocols
