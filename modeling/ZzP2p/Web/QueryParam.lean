import ZzP2p.Lib.PercentEncoding
import ZzP2p.Rust.Bytes

/-! Parameters in the query part of a request path, and the decoding of their values. -/

namespace ZzP2p.Web

open Lib.PercentEncoding Rust

def queryValue (key : List Char) : List (List Char) → Option (List Char)
  | [] => none
  | pair :: pairs =>
    if pair.takeWhile (· ≠ '=') = key then
      -- a pair without a value ends the search, although a later pair may have one
      match pair.dropWhile (· ≠ '=') with
      | [] => none
      | _ :: value => some value
    else queryValue key pairs

def getQueryParam (path key : String) : Option String := do
  let query ← (path.toList.splitOn '?')[1]?
  let value ← queryValue key.toList (query.splitOn '&')
  return String.ofList value

def hexVal (b : UInt8) : Option UInt8 :=
  if 48 ≤ b ∧ b ≤ 57 then some (b - 48)
  else if 97 ≤ b ∧ b ≤ 102 then some (b - 97 + 10)
  else if 65 ≤ b ∧ b ≤ 70 then some (b - 65 + 10)
  else none

/-- 37 is `%`, 43 is `+` and 32 is the space -/
def decodedBytes : Bytes → Bytes
  | [] => []
  | b :: bytes =>
    if b = 37 then
      match bytes with
      | hi :: lo :: rest =>
        match hexVal hi, hexVal lo with
        | some h, some l => (h <<< 4 ||| l) :: decodedBytes rest
        -- the two bytes are consumed also when they are no digits
        | _, _ => decodedBytes rest
      | _ => []
    else if b = 43 then 32 :: decodedBytes bytes
    else b :: decodedBytes bytes

def urlDecodeQuery (val : String) : String := (fromUtf8 (decodedBytes (utf8 val))).getD val

/-- the bytes `%`, `+`, `&`, `?` and `=` -/
def reserved : List UInt8 := [37, 43, 38, 63, 61]

lemma hexVal_digit {n : ℕ} (hn : n < 16) {d : UInt8} (h : Digit n d) : hexVal d = some (UInt8.ofNat n) := by
  have hdigit : ∀ n : Fin 16, hexVal (lowerDigit n) = some (UInt8.ofNat n) ∧
      hexVal (upperDigit n) = some (UInt8.ofNat n) := by decide
  rcases h with rfl | rfl
  · exact (hdigit ⟨n, hn⟩).1
  · exact (hdigit ⟨n, hn⟩).2

lemma shift_or (b : UInt8) : UInt8.ofNat (b.toNat / 16) <<< 4 ||| UInt8.ofNat (b.toNat % 16) = b := by
  have hb := b.toNat_lt
  have hhi : b.toNat / 16 % 2 ^ 8 = b.toNat / 16 := Nat.mod_eq_of_lt (by omega)
  have hlo : b.toNat % 16 % 2 ^ 8 = b.toNat % 16 := Nat.mod_eq_of_lt (by omega)
  have hshift : (b.toNat / 16) <<< 4 % 2 ^ 8 = (b.toNat / 16) <<< 4 := by
    rw [Nat.shiftLeft_eq]
    omega
  apply UInt8.toNat_inj.mp
  rw [UInt8.toNat_or, UInt8.toNat_shiftLeft, UInt8.toNat_ofNat', UInt8.toNat_ofNat', hhi, hlo]
  change (b.toNat / 16) <<< 4 % 2 ^ 8 ||| b.toNat % 16 = b.toNat
  rw [hshift, ← Nat.shiftLeft_add_eq_or_of_lt (by omega), Nat.shiftLeft_eq]
  omega

lemma decodedBytes_literal {b : UInt8} (hb : b ∉ reserved) (bytes : Bytes) :
    decodedBytes (b :: bytes) = b :: decodedBytes bytes := by
  have hpercent : b ≠ 37 := by
    rintro rfl
    exact hb (by decide)
  have hplus : b ≠ 43 := by
    rintro rfl
    exact hb (by decide)
  match bytes with
  | [] | [_] | _ :: _ :: _ => simp only [decodedBytes, hpercent, hplus, if_false]

lemma decodedBytes_encodes {bytes text : Bytes} (h : Encodes reserved bytes text) :
    decodedBytes text = bytes := by
  induction h with
  | nil => rfl
  | literal hb h ih => rw [decodedBytes_literal hb, ih]
  | @escaped b hi lo bytes text hhi hlo h ih =>
    have hb := b.toNat_lt
    have hh := hexVal_digit (by omega) hhi
    have hl := hexVal_digit (by omega) hlo
    simp only [decodedBytes, hh, hl, shift_or, ih, if_true]

lemma notMem_of_encodes {s v : String} (h : Encodes reserved (utf8 s) (utf8 v)) {c : Char}
    (hc : c ∈ ['&', '?', '=']) : c ∉ v.toList := by
  have hsep : ∀ sep ∈ ([38, 63, 61] : Bytes), sep ∉ utf8 v := by
    intro sep hs
    have hcases : sep = 38 ∨ sep = 63 ∨ sep = 61 := by simpa using hs
    apply h.notMem
    · rcases hcases with rfl | rfl | rfl <;> decide
    · rcases hcases with rfl | rfl | rfl <;> decide
    · intro n hn hd
      have hbounds := hd.bounds hn
      rcases hcases with rfl | rfl | rfl <;> simp at hbounds
  have hbyte : ∃ sep ∈ ([38, 63, 61] : Bytes), sep ∈ String.utf8EncodeChar c := by
    have hcases : c = '&' ∨ c = '?' ∨ c = '=' := by simpa using hc
    rcases hcases with rfl | rfl | rfl
    · exact ⟨38, by decide, by decide⟩
    · exact ⟨63, by decide, by decide⟩
    · exact ⟨61, by decide, by decide⟩
  obtain ⟨sep, hs, hin⟩ := hbyte
  intro hm
  exact hsep sep hs (List.mem_flatMap.mpr ⟨c, hm, hin⟩)

lemma splitOn_eq_takeWhile (sep : Char) (l : List Char) :
    ∃ pieces, l.splitOn sep = l.takeWhile (· ≠ sep) :: pieces := by
  induction l with
  | nil => exact ⟨[], rfl⟩
  | cons c l ih =>
    obtain ⟨pieces, hp⟩ := ih
    rw [List.splitOn_cons_eq_if_modifyHead]
    by_cases hc : c = sep
    · exact ⟨l.splitOn sep, by simp [hc]⟩
    · exact ⟨pieces, by simp [hc, hp]⟩

lemma ne_of_notMem {sep : Char} {l : List Char} (h : sep ∉ l) : ∀ c ∈ l, decide (c ≠ sep) = true := by
  intro c hc
  apply decide_eq_true
  rintro rfl
  exact h hc

lemma splitOn_append {sep : Char} {l : List Char} (h : sep ∉ l) (rest : List Char) :
    ∃ pieces, (l ++ rest).splitOn sep = (l ++ rest.takeWhile (· ≠ sep)) :: pieces := by
  obtain ⟨pieces, hp⟩ := splitOn_eq_takeWhile sep (l ++ rest)
  exact ⟨pieces, by rw [hp, List.takeWhile_append_of_pos (ne_of_notMem h)]⟩

lemma queryValue_cons {key : List Char} (hkey : '=' ∉ key) (value : List Char) (pairs : List (List Char)) :
    queryValue key ((key ++ '=' :: value) :: pairs) = some value := by
  have htake : (key ++ '=' :: value).takeWhile (· ≠ '=') = key := by
    rw [List.takeWhile_append_of_pos (ne_of_notMem hkey)]
    simp
  have hdrop : (key ++ '=' :: value).dropWhile (· ≠ '=') = '=' :: value := by
    rw [List.dropWhile_append_of_pos (ne_of_notMem hkey)]
    simp
  rw [queryValue, if_pos htake, hdrop]

lemma getQueryParam_eq {path pre key v more : List Char}
    (hpath : path = pre ++ '?' :: (key ++ '=' :: v ++ more)) (hpre : '?' ∉ pre) (hkey : '=' ∉ key)
    (hpair : ∀ c ∈ ['&', '?'], c ∉ key ++ '=' :: v) (hmore : more = [] ∨ ∃ l, more = '&' :: l) :
    getQueryParam (String.ofList path) (String.ofList key) = some (String.ofList v) := by
  obtain ⟨queries, hq⟩ := splitOn_append (hpair '?' (by simp)) more
  -- a further `?` cuts the query, which ends no earlier than the value
  have hcut : (more.takeWhile (· ≠ '?')).takeWhile (· ≠ '&') = [] := by
    rcases hmore with rfl | ⟨l, rfl⟩
    · rfl
    · simp
  obtain ⟨pairs, hp⟩ := splitOn_append (hpair '&' (by simp)) (more.takeWhile (· ≠ '?'))
  rw [hcut, List.append_nil] at hp
  have hquery : (path.splitOn '?')[1]? = some (key ++ '=' :: v ++ more.takeWhile (· ≠ '?')) := by
    rw [hpath, List.splitOn_append_cons_self_of_not_mem hpre, hq]
    rfl
  simp only [getQueryParam, String.toList_ofList, hquery, hp, queryValue_cons hkey, Option.bind_eq_bind,
    Option.bind_some]
  rfl

/-- A parameter with any percent-encoding of a text is found, and its value decodes to the text. -/
theorem getQueryParam_urlDecodeQuery (s pre key v : String) (rest : Option String)
    (hpre : '?' ∉ pre.toList) (hkey : ∀ c ∈ ['&', '=', '?'], c ∉ key.toList)
    (hv : Encodes reserved (utf8 s) (utf8 v)) :
    getQueryParam (pre ++ "?" ++ key ++ "=" ++ v ++ rest.elim "" ("&" ++ ·)) key = some v ∧
      urlDecodeQuery v = s := by
  constructor
  · let more := (rest.elim "" ("&" ++ ·)).toList
    have hpath : (pre ++ "?" ++ key ++ "=" ++ v ++ rest.elim "" ("&" ++ ·)).toList =
        pre.toList ++ '?' :: (key.toList ++ '=' :: v.toList ++ more) := by
      simp [more]
    have hpair : ∀ c ∈ ['&', '?'], c ∉ key.toList ++ '=' :: v.toList := by
      intro c hc
      have hk : c ∉ key.toList := hkey c (by fin_cases hc <;> simp)
      have hval : c ∉ v.toList := notMem_of_encodes hv (by fin_cases hc <;> simp)
      have heq : c ≠ '=' := by fin_cases hc <;> decide
      simp [hk, hval, heq]
    have hmore : more = [] ∨ ∃ l, more = '&' :: l := by
      cases rest with
      | none => exact Or.inl rfl
      | some r => exact Or.inr ⟨r.toList, by simp [more]⟩
    have hget := getQueryParam_eq hpath hpre (hkey '=' (by simp)) hpair hmore
    simpa only [String.ofList_toList] using hget
  · rw [urlDecodeQuery, decodedBytes_encodes hv, fromUtf8_utf8, Option.getD_some]

lemma encodes_text : Encodes reserved (utf8 "é+é") (utf8 "é%2b%C3%a9") := by
  have hs : utf8 "é+é" = [195, 169, 43, 195, 169] := by decide
  have hv : utf8 "é%2b%C3%a9" = [195, 169, 37, 50, 98, 37, 67, 51, 37, 97, 57] := by decide
  rw [hs, hv]
  apply Encodes.literal (by decide)
  apply Encodes.literal (by decide)
  apply Encodes.escaped (Or.inl rfl) (Or.inl rfl)
  apply Encodes.escaped (Or.inr rfl) (Or.inl rfl)
  exact Encodes.escaped (Or.inl rfl) (Or.inl rfl) Encodes.nil

theorem getQueryParam_urlDecodeQuery_text :
    getQueryParam ("/api/contacts" ++ "?" ++ "address" ++ "=" ++ "é%2b%C3%a9" ++
        (some "contact=x?y").elim "" ("&" ++ ·)) "address" = some "é%2b%C3%a9" ∧
      urlDecodeQuery "é%2b%C3%a9" = "é+é" :=
  getQueryParam_urlDecodeQuery "é+é" "/api/contacts" "address" "é%2b%C3%a9" (some "contact=x?y")
    (by decide) (by simp) encodes_text

end ZzP2p.Web
