import ZzP2p.Lib.Sha256
import ZzP2p.Messaging.Message
import ZzP2p.Protocols.FrameCodec

/-! The three identities of a text message: the address in its frame, the owner of the session key
that opens it, which is looked up by that address, and the sender written inside. The encoding of
messages and the session keys of the network crate, which decrypt some data under the key of an
address, are parameters. -/

namespace ZzP2p.Messaging

open Rust Lib Protocols

structure MessageCodec where
  encode : MessageCommand → Option Bytes
  decode : Bytes → Option MessageCommand

abbrev PairedSessionKeys := Bytes → Bytes → Option Bytes

variable (sha256 : Bytes → Digest) (M : MessageCodec) (psk : Option PairedSessionKeys)

def openMessage (frame : P2PFrame) (cmd : P2PCommand) : Option MessageCommand :=
  psk.bind (fun decrypt =>
    (decrypt (utf8 frame.body.address) cmd.data).bind (fun plaintext => M.decode plaintext))

def receiveMessage (n : Node) (frame : P2PFrame) (cmd : P2PCommand) : Node × List Effect :=
  match openMessage M psk frame cmd with
  | some message => messageHandler sha256 n message
  | none => (n, [])

def NamesItsSender (n : Node) (frame : P2PFrame) (cmd : P2PCommand) : Prop :=
  ∀ x, Effect.incoming x ∈ (receiveMessage sha256 M psk n frame cmd).2 → x.sender = frame.body.address

structure Delivers (n : Node) (m : MessageCommand) : Prop where
  fresh : ¬ n.Filtered (messageKey sha256 m)
  foreign : m.sender ≠ n.address
  receiver : m.receiver = n.address
  channel : n.hasAppChannel = true

variable {sha256 M psk} {n : Node} {frame : P2PFrame} {cmd : P2PCommand} {m : MessageCommand}
  {x : IncomingMessage}

lemma incoming_mem_messageHandler : Effect.incoming x ∈ (messageHandler sha256 n m).2 ↔
    Delivers sha256 n m ∧ x = ⟨m.sender, m.message, m.timestamp⟩ := by
  rw [mem_messageHandler]
  constructor
  · rintro ⟨⟨hf, hs, hr⟩, ⟨-, he⟩ | ⟨hc, he⟩⟩
    · cases he
    · exact ⟨⟨hf, hs, hr, hc⟩, Effect.incoming.inj he⟩
  · rintro ⟨hd, rfl⟩
    exact ⟨⟨hd.fresh, hd.foreign, hd.receiver⟩, Or.inr ⟨hd.channel, rfl⟩⟩

lemma incoming_mem_receiveMessage : Effect.incoming x ∈ (receiveMessage sha256 M psk n frame cmd).2 ↔
    ∃ m, openMessage M psk frame cmd = some m ∧ Delivers sha256 n m ∧
      x = ⟨m.sender, m.message, m.timestamp⟩ := by
  rw [receiveMessage]
  cases ho : openMessage M psk frame cmd with
  | none => simp
  | some m => simp [incoming_mem_messageHandler]

theorem names_its_sender_iff (sha256 : Bytes → Digest) (M : MessageCodec) (psk : Option PairedSessionKeys)
    (n : Node) (frame : P2PFrame) (cmd : P2PCommand) :
    NamesItsSender sha256 M psk n frame cmd ↔
      ∀ m, openMessage M psk frame cmd = some m → Delivers sha256 n m → m.sender = frame.body.address := by
  constructor
  · intro h m ho hd
    exact h ⟨m.sender, m.message, m.timestamp⟩ (incoming_mem_receiveMessage.mpr ⟨m, ho, hd, rfl⟩)
  · intro h x hx
    obtain ⟨m, ho, hd, rfl⟩ := incoming_mem_receiveMessage.mp hx
    exact h m ho hd

def wireMessage : Format MessageCommand :=
  (Bincode.string.seq (Bincode.string.seq (Bincode.u64.seq (Bincode.u128.seq Bincode.string)))).map
    (fun p => ⟨p.1, p.2.1, p.2.2.1, p.2.2.2.1, p.2.2.2.2⟩)
    (fun m => (m.sender, m.receiver, m.requestId, m.timestamp, m.message)) (fun _ => rfl)

def bincodeMessage : MessageCodec := ⟨wireMessage.encode, wireMessage.decodeSlice⟩

def maskKeys : PairedSessionKeys := fun address data =>
  if address = utf8 "m" then some (data.map (fun b => b ^^^ 90)) else none

def forged : MessageCommand := ⟨"v", "b", 1, 5, "hi"⟩

def forgedCommand : P2PCommand :=
  ⟨.message, .sendText, ((wireMessage.encode forged).getD []).map (fun b => b ^^^ 90)⟩

def forgedFrame : P2PFrame := ⟨⟨1, "m", [2], 7, 11, (Wire.command.encode forgedCommand).getD []⟩, [2]⟩

theorem forged_sender_delivered :
    ¬ ∀ (psk : Option PairedSessionKeys) (n : Node) (frame : P2PFrame) (cmd : P2PCommand),
      NamesItsSender Sha256.digest bincodeMessage psk n frame cmd := by
  intro h
  have hopen : openMessage bincodeMessage (some maskKeys) forgedFrame forgedCommand = some forged := by
    have hd : maskKeys (utf8 forgedFrame.body.address) forgedCommand.data =
      some [1, 118, 1, 98, 1, 5, 2, 104, 105] := by decide
    have hdecode : wireMessage.decodeSlice [1, 118, 1, 98, 1, 5, 2, 104, 105] = some forged :=
      wireMessage.decodeSlice_encode (by decide)
    rw [openMessage, Option.bind_some, hd, Option.bind_some]
    exact hdecode
  have hdelivers : Delivers Sha256.digest (freshNode "b") forged := by
    refine ⟨?_, by decide, rfl, rfl⟩
    rintro ⟨s, hs, hk⟩
    obtain rfl := Option.some.inj hs
    exact absurd hk (Finset.notMem_empty _)
  have hincoming := incoming_mem_receiveMessage.mpr ⟨forged, hopen, hdelivers, rfl⟩
  exact absurd (h (some maskKeys) (freshNode "b") forgedFrame forgedCommand _ hincoming) (by decide)

end ZzP2p.Messaging
