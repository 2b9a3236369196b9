import ZzP2p.Lib.Numerals
import ZzP2p.Rust.Net

/-! IPv4 socket addresses written one after another. Between two of them the digits of a port run into
the digits of the next first octet, and that is the only place where the text can be cut differently. -/

namespace ZzP2p.Rust

open Lib.Numerals

abbrev SocketAddrV4 := Ipv4Addr × UInt16

def SocketAddrV4.text (s : SocketAddrV4) : List Char := (SocketAddr.v4 s.1 s.2).text

def SocketAddrV4.portText (s : SocketAddrV4) : List Char := decimal s.2.toNat

lemma decimal_injective : Function.Injective decimal := by
  intro m n h
  have hv := congrArg (value 10) h
  simpa only [decimal, value_toDigits (by decide : 1 < 10) (by decide)] using hv

def Digits (cs : List Char) : Prop := ∀ c ∈ cs, isDigit 10 c = true

lemma digits_decimal (n : ℕ) : Digits (decimal n) :=
  fun _ hc => isDigit_of_mem_toDigits (by decide) (by decide) hc

lemma digits_portText (s : SocketAddrV4) : Digits s.portText := digits_decimal _

lemma Digits.append {cs ds : List Char} (hc : Digits cs) (hd : Digits ds) : Digits (cs ++ ds) := by
  intro c hmem
  rcases List.mem_append.mp hmem with h | h
  · exact hc c h
  · exact hd c h

lemma digits_sep_inj {sep : Char} (hsep : isDigit 10 sep = false) {cs ds r r' : List Char}
    (hc : Digits cs) (hd : Digits ds) : cs ++ sep :: r = ds ++ sep :: r' ↔ cs = ds ∧ r = r' := by
  refine ⟨fun h => ?_, fun h => by rw [h.1, h.2]⟩
  have htake : ∀ {cs r : List Char}, Digits cs → (cs ++ sep :: r).takeWhile (isDigit 10) = cs := by
    intro cs r hcs
    rw [List.takeWhile_append_of_pos hcs]
    simp [hsep]
  have hcs : cs = ds := by
    rw [← htake hc (r := r), h, htake hd]
  subst hcs
  exact ⟨rfl, (List.cons.inj (List.append_cancel_left h)).2⟩

/-- Two lists of addresses behind two given digit strings that read the same: what stands between two
colons agrees, in particular each port together with the octet after it. -/
def Aligned : List Char → List SocketAddrV4 → List Char → List SocketAddrV4 → Prop
  | x, [], x', [] => x = x'
  | x, s :: ss, x', s' :: ss' =>
    x ++ decimal s.1.a.toNat = x' ++ decimal s'.1.a.toNat ∧
      s.1.b = s'.1.b ∧ s.1.c = s'.1.c ∧ s.1.d = s'.1.d ∧ Aligned s.portText ss s'.portText ss'
  | _, _, _, _ => False

lemma text_split (x : List Char) (s : SocketAddrV4) (r : List Char) :
    x ++ (s.text ++ r) = (x ++ decimal s.1.a.toNat) ++ '.' :: (decimal s.1.b.toNat ++ '.' ::
      (decimal s.1.c.toNat ++ '.' :: (decimal s.1.d.toNat ++ ':' :: (s.portText ++ r)))) := by
  simp [SocketAddrV4.text, SocketAddrV4.portText, SocketAddr.text, Ipv4Addr.text]

lemma octet_inj {m n : UInt8} : decimal m.toNat = decimal n.toNat ↔ m = n :=
  ⟨fun h => UInt8.toNat_inj.mp (decimal_injective h), fun h => by rw [h]⟩

lemma concat_eq_iff {x x' : List Char} (hx : Digits x) (hx' : Digits x') (ss ss' : List SocketAddrV4) :
    x ++ ss.flatMap SocketAddrV4.text = x' ++ ss'.flatMap SocketAddrV4.text ↔ Aligned x ss x' ss' := by
  have hdot : isDigit 10 '.' = false := by decide
  have hcolon : isDigit 10 ':' = false := by decide
  have hends : ∀ {x y : List Char} (s : SocketAddrV4) (r : List Char), Digits x →
      x ≠ y ++ (s.text ++ r) := by
    intro x y s r hx he
    have hmem : '.' ∈ x := by simp [he, text_split]
    simp [hx '.' hmem] at hdot
  induction ss generalizing x x' ss' with
  | nil =>
    cases ss' with
    | nil => simp [Aligned]
    | cons s' ss' => simpa [Aligned] using hends s' _ hx
  | cons s ss ih =>
    cases ss' with
    | nil =>
      simp only [Aligned, iff_false, List.flatMap_cons, List.flatMap_nil, List.append_nil]
      exact fun he => hends s _ hx' he.symm
    | cons s' ss' =>
      have ha := hx.append (digits_decimal s.1.a.toNat)
      have ha' := hx'.append (digits_decimal s'.1.a.toNat)
      have hrest : s.portText ++ ss.flatMap SocketAddrV4.text = s'.portText ++ ss'.flatMap SocketAddrV4.text ↔
          Aligned s.portText ss s'.portText ss' := ih (digits_portText s) (digits_portText s') ss'
      simp only [List.flatMap_cons, text_split, Aligned]
      rw [digits_sep_inj hdot ha ha', digits_sep_inj hdot (digits_decimal _) (digits_decimal _),
        digits_sep_inj hdot (digits_decimal _) (digits_decimal _),
        digits_sep_inj hcolon (digits_decimal _) (digits_decimal _), octet_inj, octet_inj, octet_inj, hrest]

lemma SocketAddrV4.eq_of_parts {s s' : SocketAddrV4} (ha : s.1.a = s'.1.a) (hb : s.1.b = s'.1.b)
    (hc : s.1.c = s'.1.c) (hd : s.1.d = s'.1.d) (hp : s.2 = s'.2) : s = s' := by
  obtain ⟨⟨a, b, c, d⟩, p⟩ := s
  obtain ⟨⟨a', b', c', d'⟩, p'⟩ := s'
  simp only at ha hb hc hd hp
  rw [ha, hb, hc, hd, hp]

lemma Aligned.eq_of_cuts {x x' : List Char} {ss ss' : List SocketAddrV4} (h : Aligned x ss x' ss')
    (hx : x.length = x'.length)
    (hl : ss.map (fun s => s.portText.length) = ss'.map (fun s => s.portText.length)) :
    x = x' ∧ ss = ss' := by
  induction ss generalizing x x' ss' with
  | nil =>
    cases ss' with
    | nil => exact ⟨h, rfl⟩
    | cons s' ss' => exact h.elim
  | cons s ss ih =>
    cases ss' with
    | nil => exact h.elim
    | cons s' ss' =>
      obtain ⟨ha, hb, hc, hd, hrest⟩ := h
      obtain ⟨hxx, hoct⟩ := List.append_inj ha hx
      obtain ⟨hlen, hlens⟩ := List.cons.inj hl
      obtain ⟨hport, hss⟩ := ih hrest hlen hlens
      have hp : s.2 = s'.2 := UInt16.toNat_inj.mp (decimal_injective hport)
      rw [SocketAddrV4.eq_of_parts (octet_inj.mp hoct) hb hc hd hp, hss]
      exact ⟨hxx, rfl⟩

end ZzP2p.Rust
