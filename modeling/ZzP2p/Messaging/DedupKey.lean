import ZzP2p.Lib.Sha256
import ZzP2p.Messaging.Message

/-! What the key of a message says about it. Sender, receiver and text are joined with bars that they
may contain themselves, and the request number is left out. -/

namespace ZzP2p.Messaging

open Rust Lib Lib.Format

def dedupInput (m : MessageCommand) : Bytes :=
  utf8 m.sender ++ utf8 "|" ++ utf8 m.receiver ++ utf8 "|" ++ utf8 m.message ++ utf8 "|" ++
    timestampBytes m.timestamp

def Differ (m m' : MessageCommand) : Prop :=
  m.sender ≠ m'.sender ∨ m.message ≠ m'.message ∨ m.timestamp ≠ m'.timestamp ∨ m.requestId ≠ m'.requestId

/-- If the two commands differ then their hashed bytes differ, so that the one can be received without
changing what the other does afterwards. -/
def ToldApart (sha256 : Bytes → Digest) (m m' : MessageCommand) : Prop :=
  Differ m m' → dedupInput m ≠ dedupInput m' ∧
    (NoCollision sha256 (dedupInput m) (dedupInput m') → ∀ n : Node, ¬ n.Filtered (messageKey sha256 m') →
      (messageHandler sha256 (messageHandler sha256 n m).1 m').2 = (messageHandler sha256 n m').2)

/-- The sender of `m'` goes on by `x` where that of `m` ends, and the two read the same from there on. -/
def Recut (m m' : MessageCommand) : Prop :=
  ∃ x, x ≠ "" ∧ m'.sender = m.sender ++ x ∧
    "|" ++ m.receiver ++ "|" ++ m.message = x ++ ("|" ++ m'.receiver ++ "|" ++ m'.message)

def OtherRequest (m m' : MessageCommand) : Prop :=
  m.sender = m'.sender ∧ m.message = m'.message ∧ m.requestId ≠ m'.requestId

def Confused (m m' : MessageCommand) : Prop :=
  m.timestamp = m'.timestamp ∧ (OtherRequest m m' ∨ Recut m m' ∨ Recut m' m)

lemma messageKey_eq (sha256 : Bytes → Digest) (m : MessageCommand) :
    messageKey sha256 m = hex (sha256 (dedupInput m)) := rfl

lemma timestampBytes_eq (t : BitVec 128) : timestampBytes t = leDigits 16 t.toNat := by
  simp [timestampBytes, List.range, List.range.loop, leDigits, Nat.div_div_eq_div_mul]

lemma timestampBytes_injective : Function.Injective timestampBytes := by
  intro t u h
  rw [timestampBytes_eq, timestampBytes_eq] at h
  have hv := congrArg leValue h
  rw [leValue_leDigits t.isLt, leValue_leDigits u.isLt] at hv
  exact BitVec.eq_of_toNat_eq hv

/-- the hashed text up to the time -/
def envelope (m : MessageCommand) : String := m.sender ++ ("|" ++ m.receiver ++ "|" ++ m.message)

variable {m m' : MessageCommand}

lemma dedupInput_eq_iff : dedupInput m = dedupInput m' ↔
    m.timestamp = m'.timestamp ∧ envelope m = envelope m' := by
  have hsplit : ∀ m, dedupInput m = utf8 (envelope m ++ "|") ++ timestampBytes m.timestamp := by
    intro m
    simp only [dedupInput, envelope, utf8_append, List.append_assoc]
  rw [hsplit, hsplit]
  constructor
  · intro h
    obtain ⟨henvelope, htime⟩ := List.append_inj' h (by simp [timestampBytes])
    refine ⟨timestampBytes_injective htime, ?_⟩
    exact (String.append_left_inj _).mp (utf8_injective henvelope)
  · rintro ⟨htime, henvelope⟩
    rw [htime, henvelope]

lemma exists_cut {s s' u u' : String} (h : s ++ u = s' ++ u') (hs : s ≠ s') :
    (∃ x, x ≠ "" ∧ s' = s ++ x ∧ u = x ++ u') ∨ ∃ x, x ≠ "" ∧ s = s' ++ x ∧ u' = x ++ u := by
  have hl := congrArg String.toList h
  rw [String.toList_append, String.toList_append, List.append_eq_append_iff] at hl
  have hne : ∀ {s s' : String} {cs : List Char}, s ≠ s' → s'.toList = s.toList ++ cs →
      String.ofList cs ≠ "" := by
    intro s s' cs hs he hcs
    rw [← String.toList_inj, String.toList_ofList] at hcs
    rw [hcs] at he
    exact hs (String.toList_inj.mp (he.trans (List.append_nil _)).symm)
  rcases hl with ⟨cs, hs', hu⟩ | ⟨cs, hs', hu⟩
  · refine Or.inl ⟨String.ofList cs, hne hs hs', ?_, ?_⟩
    · rw [← String.toList_inj, hs', String.toList_append, String.toList_ofList]
    · rw [← String.toList_inj, hu, String.toList_append, String.toList_ofList]
  · refine Or.inr ⟨String.ofList cs, hne hs.symm hs', ?_, ?_⟩
    · rw [← String.toList_inj, hs', String.toList_append, String.toList_ofList]
    · rw [← String.toList_inj, hu, String.toList_append, String.toList_ofList]

lemma Recut.envelope_eq (h : Recut m m') : envelope m = envelope m' := by
  obtain ⟨x, -, hs, hu⟩ := h
  rw [envelope, envelope, hs, hu, ← String.append_assoc]

lemma Recut.sender_ne (h : Recut m m') : m.sender ≠ m'.sender := by
  obtain ⟨x, hx, hs, -⟩ := h
  intro he
  rw [he] at hs
  have hl := congrArg String.toList hs
  rw [String.toList_append, List.self_eq_append_right] at hl
  exact hx (String.toList_inj.mp hl)

lemma message_eq (hr : m.receiver = m'.receiver) (hs : m.sender = m'.sender)
    (h : envelope m = envelope m') : m.message = m'.message := by
  rw [envelope, envelope, hs, hr] at h
  exact (String.append_right_inj _).mp ((String.append_right_inj _).mp h)

lemma confused_iff (hr : m.receiver = m'.receiver) :
    Confused m m' ↔ Differ m m' ∧ dedupInput m = dedupInput m' := by
  rw [dedupInput_eq_iff]
  constructor
  · rintro ⟨htime, ⟨hs, hm, hid⟩ | h | h⟩
    · refine ⟨Or.inr (Or.inr (Or.inr hid)), htime, ?_⟩
      rw [envelope, envelope, hs, hm, hr]
    · exact ⟨Or.inl h.sender_ne, htime, h.envelope_eq⟩
    · exact ⟨Or.inl h.sender_ne.symm, htime, h.envelope_eq.symm⟩
  · rintro ⟨hd, htime, henvelope⟩
    refine ⟨htime, ?_⟩
    by_cases hs : m.sender = m'.sender
    · have hm := message_eq hr hs henvelope
      left
      refine ⟨hs, hm, ?_⟩
      rcases hd with h | h | h | h
      · exact absurd hs h
      · exact absurd hm h
      · exact absurd htime h
      · exact h
    · exact Or.inr (exists_cut henvelope hs)

lemma messageHandler_effects_of_seen {sha256 : Bytes → Digest} {n : Node} {seen : Option (Finset String)}
    (h : ¬ n.Filtered (messageKey sha256 m))
    (h' : ¬ ({ n with seen := seen } : Node).Filtered (messageKey sha256 m)) :
    (messageHandler sha256 { n with seen := seen } m).2 = (messageHandler sha256 n m).2 := by
  rw [messageHandler, recordSeen_of_not_filtered h', messageHandler, recordSeen_of_not_filtered h]
  simp only
  split
  · rfl
  · split <;> rfl

lemma handled_after_other {sha256 : Bytes → Digest} {n : Node}
    (hkey : messageKey sha256 m' ≠ messageKey sha256 m) (h : ¬ n.Filtered (messageKey sha256 m')) :
    (messageHandler sha256 (messageHandler sha256 n m).1 m').2 = (messageHandler sha256 n m').2 := by
  rw [messageHandler_node]
  refine messageHandler_effects_of_seen h (fun hf => ?_)
  rcases filtered_of_recordSeen rfl hf with he | hf
  · exact hkey he
  · exact h hf

theorem told_apart_iff (sha256 : Bytes → Digest) (localAddr : String) (m m' : MessageCommand)
    (hm : m.receiver = localAddr) (hm' : m'.receiver = localAddr) :
    ToldApart sha256 m m' ↔ ¬ Confused m m' := by
  rw [confused_iff (hm.trans hm'.symm), not_and]
  constructor
  · exact fun h hd => (h hd).1
  · intro h hd
    refine ⟨h hd, fun hsha n hn => handled_after_other (fun hkey => ?_) hn⟩
    rw [messageKey_eq, messageKey_eq] at hkey
    exact h hd (hsha (hex_injective hkey.symm))

theorem told_apart_two_sends :
    ToldApart Sha256.digest ⟨"b", "a", 1, 7, "hi|a|"⟩ ⟨"b", "a", 2, 8, "hi|a|"⟩ := by
  apply (told_apart_iff Sha256.digest "a" ⟨"b", "a", 1, 7, "hi|a|"⟩ ⟨"b", "a", 2, 8, "hi|a|"⟩ rfl rfl).mpr
  exact fun h => absurd h.1 (by decide)

theorem bar_moves_into_sender :
    ¬ ∀ (localAddr : String) (m m' : MessageCommand), m.receiver = localAddr → m'.receiver = localAddr →
      Differ m m' → dedupInput m ≠ dedupInput m' := by
  intro h
  exact h "a" ⟨"b", "a", 1, 7, "c|a|d"⟩ ⟨"b|a|c", "a", 1, 7, "d"⟩ rfl rfl (Or.inl (by decide)) (by decide)

end ZzP2p.Messaging
