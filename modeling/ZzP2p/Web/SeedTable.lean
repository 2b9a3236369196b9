import Mathlib.Data.List.TakeWhile
import ZzP2p.Db.WitnessSeed
import ZzP2p.Rust.NetParser

/-! The full replacement of the seed table and its reading. The writer takes the text after the last
colon of an address for a port, also in an IPv6 address. -/

namespace ZzP2p.Web

open Lib Lib.Numerals Rust Db Db.WitnessSeed

structure SeedData where
  id : Int64
  ip : String
  port : Int32
  nodeId : String
  isIntranet : Bool
  isActive : Bool
  successCount : Int32
  failureCount : Int32
  onlineDays : Int64
  offlineDays : Int64
  onlineRate : Option ℚ

def seedDataOf (m : ℕ × Columns) : SeedData where
  id := Int64.ofNat m.1
  ip := m.2.ip
  port := m.2.port
  nodeId := m.2.nodeId
  isIntranet := m.2.isIntranet
  isActive := m.2.isActive
  successCount := m.2.successCount
  failureCount := m.2.failureCount
  onlineDays := m.2.onlineDays
  offlineDays := m.2.offlineDays
  onlineRate := m.2.onlineRate

def readSeedsFromDb (refusal : Option String) (order : ByAddedAt) (t : SeedTable) : List SeedData :=
  match refusal with
  | none => (getActiveSeeds order t).map seedDataOf
  | some _ => []

def parseI32 (cs : List Char) : Option Int32 := (parseSigned (2 ^ 31) cs).map Int32.ofInt

/-- the address that is stored for a seed: its text is cut at the last colon -/
def writtenAddress (seed : SeedData) : String × Int32 :=
  match seed.ip.toList.reverse.dropWhile (· ≠ ':') with
  | _ :: ipPart =>
    let portPart := (seed.ip.toList.reverse.takeWhile (· ≠ ':')).reverse
    (String.ofList ipPart.reverse, (parseI32 portPart).getD seed.port)
  | [] => (seed.ip, seed.port)

def errorOf : Except StoreError Unit → List StoreError
  | .error e => [e]
  | .ok _ => []

/-- the body of the loop, with the errors that are logged -/
def writeSeed (s : List StoreError × SeedTable) (call : Statement × SeedData) : List StoreError × SeedTable :=
  let (ip, port) := writtenAddress call.2
  let (result, t) := upsert call.1 s.2 ip port call.2.nodeId call.2.isIntranet
  (s.1 ++ errorOf result, t)

def writeSeedsToDb (clear : Statement) (calls : List (Statement × SeedData)) (t : SeedTable) :
    List StoreError × SeedTable :=
  let (result, t) := clearAll clear t
  calls.foldl writeSeed (errorOf result, t)

abbrev Tuple := String × Int32 × String × Bool

def tuple (s : SeedData) : Tuple := (s.ip, s.port, s.nodeId, s.isIntranet)

def rowTuple (r : Columns) : Tuple := (r.ip, r.port, r.nodeId, r.isIntranet)

variable {w clear : Statement} {t : SeedTable} {seed : SeedData} {calls : List (Statement × SeedData)}
  {errors : List StoreError} {order : ByAddedAt}

lemma writtenAddress_of_no_colon (h : ':' ∉ seed.ip.toList) : writtenAddress seed = (seed.ip, seed.port) := by
  have hnil : seed.ip.toList.reverse.dropWhile (· ≠ ':') = [] := by
    rw [List.dropWhile_eq_nil_iff]
    intro c hc
    rw [decide_eq_true_eq]
    rintro rfl
    exact h (List.mem_reverse.mp hc)
  rw [writtenAddress, hnil]

lemma length_writtenAddress_le (seed : SeedData) :
    (writtenAddress seed).1.length ≤ seed.ip.length ∧
      (':' ∈ seed.ip.toList → (writtenAddress seed).1.length < seed.ip.length) := by
  rw [writtenAddress]
  split
  · next c ipPart hd =>
    have hle : (c :: ipPart).length ≤ seed.ip.toList.reverse.length := by
      rw [← hd]
      exact List.length_dropWhile_le _ _
    simp only [List.length_cons, List.length_reverse, String.length_toList] at hle
    simp only [String.length_ofList, List.length_reverse]
    exact ⟨by omega, fun _ => by omega⟩
  · next hd =>
    refine ⟨le_rfl, fun hc => ?_⟩
    have hall := List.dropWhile_eq_nil_iff.mp hd ':' (List.mem_reverse.mpr hc)
    simp at hall

def stored (t : SeedTable) : ℕ := (t.values.map (fun r => r.ip.length)).sum

lemma stored_writeSeed_le (s : List StoreError × SeedTable) (c : Statement × SeedData) :
    stored (writeSeed s c).2 ≤ stored s.2 + (writtenAddress c.2).1.length := by
  have htable : (writeSeed s c).2 = (upsert c.1 s.2 (writtenAddress c.2).1 (writtenAddress c.2).2
    c.2.nodeId c.2.isIntranet).2 := rfl
  rw [htable]
  rcases upsert_cases with ⟨-, e, he⟩ | ⟨-, hok⟩ | ⟨-, -, l₁, r, l₂, -, hl, hv⟩
  · rw [he]
    exact Nat.le_add_right _ _
  · rw [hok]
    simp [stored, newRow]
  · rw [stored, stored, hv, hl]
    simp [again]

lemma stored_foldl_le (s : List StoreError × SeedTable) (calls : List (Statement × SeedData)) :
    stored (calls.foldl writeSeed s).2 ≤
      stored s.2 + (calls.map (fun c => (writtenAddress c.2).1.length)).sum := by
  induction calls generalizing s with
  | nil => exact le_rfl
  | cons c calls ih =>
    have hstep := stored_writeSeed_le s c
    have hrest := ih (writeSeed s c)
    rw [List.foldl_cons, List.map_cons, List.sum_cons]
    omega

lemma errors_foldl (s : List StoreError × SeedTable) (calls : List (Statement × SeedData)) :
    s.1 <+: (calls.foldl writeSeed s).1 := by
  induction calls generalizing s with
  | nil => exact List.prefix_rfl
  | cons c calls ih => exact (List.prefix_append _ _).trans (ih (writeSeed s c))

def rowOf (c : Statement × SeedData) : Columns :=
  newRow c.1.now c.2.ip c.2.port c.2.nodeId c.2.isIntranet

lemma writeSeed_new {s : List StoreError × SeedTable} {c : Statement × SeedData}
    (hok : (writeSeed s c).1 = []) (hcolon : ':' ∉ c.2.ip.toList)
    (hnew : ∀ r ∈ s.2.values, key r ≠ (c.2.ip, c.2.port)) :
    (writeSeed s c).2.values = s.2.values ++ [rowOf c] := by
  have hstep : writeSeed s c = (s.1 ++ errorOf (upsert c.1 s.2 c.2.ip c.2.port c.2.nodeId c.2.isIntranet).1,
      (upsert c.1 s.2 c.2.ip c.2.port c.2.nodeId c.2.isIntranet).2) := by
    rw [writeSeed, writtenAddress_of_no_colon hcolon]
  rw [hstep] at hok ⊢
  rcases upsert_cases with ⟨-, e, he⟩ | ⟨-, hins⟩ | ⟨-, -, l₁, r, l₂, hk, hl, -⟩
  · rw [he] at hok
    simp [errorOf] at hok
  · rw [hins, Table.values_insert, rowOf]
  · exact absurd hk (hnew r (by simp [hl]))

lemma writeSeeds_new {s : List StoreError × SeedTable} (hok : (calls.foldl writeSeed s).1 = [])
    (hcolon : ∀ c ∈ calls, ':' ∉ c.2.ip.toList)
    (hnodup : (s.2.values.map key ++ calls.map (fun c => (c.2.ip, c.2.port))).Nodup) :
    (calls.foldl writeSeed s).2.values = s.2.values ++ calls.map rowOf := by
  induction calls generalizing s with
  | nil => simp
  | cons c calls ih =>
    have hstep : (writeSeed s c).1 = [] :=
      List.prefix_nil.mp (hok ▸ errors_foldl (writeSeed s c) calls)
    rw [List.map_cons, List.nodup_append] at hnodup
    obtain ⟨hrows, hcalls, hdisjoint⟩ := hnodup
    have hnew : ∀ r ∈ s.2.values, key r ≠ (c.2.ip, c.2.port) := by
      intro r hr
      exact hdisjoint _ (List.mem_map_of_mem hr) _ List.mem_cons_self
    have hvalues := writeSeed_new hstep (hcolon c List.mem_cons_self) hnew
    rw [List.foldl_cons, ih hok (fun c' hc' => hcolon c' (List.mem_cons_of_mem c hc')), hvalues]
    · simp
    · rw [hvalues, List.map_append, List.append_assoc, List.map_singleton, List.singleton_append,
        List.nodup_append]
      exact ⟨hrows, hcalls, hdisjoint⟩

lemma read_perm (order : ByAddedAt) (t : SeedTable) : ((readSeedsFromDb none order t).map tuple).Perm
    ((t.values.filter (fun r => r.isActive)).map rowTuple) := by
  have hmap : (t.values.filter (fun r => r.isActive)).map rowTuple =
      (t.rows.filter (fun r => r.2.isActive)).map (fun r => tuple (seedDataOf r)) := by
    rw [Table.values, List.filter_map, List.map_map]
    rfl
  rw [readSeedsFromDb, List.map_map, hmap]
  exact (order.perm _).map _

lemma clearAll_ok (hok : (writeSeedsToDb clear calls t).1 = []) :
    writeSeedsToDb clear calls t = calls.foldl writeSeed ([], t.clear) := by
  cases hr : clear.refusal with
  | none => simp only [writeSeedsToDb, clearAll, hr, errorOf]
  | some message =>
    have hlogged := errors_foldl (errorOf (.error (.anyhow message)), t) calls
    simp only [writeSeedsToDb, clearAll, hr] at hok
    rw [hok, List.prefix_nil] at hlogged
    cases hlogged

/-- An address with a colon is stored as a shorter text, and no other text makes up for it. -/
lemma no_colon_of_read
    (h : ((readSeedsFromDb none order (writeSeedsToDb clear calls t).2).map tuple).Perm
      (calls.map (fun c => tuple c.2)))
    (hok : (writeSeedsToDb clear calls t).1 = []) : ∀ c ∈ calls, ':' ∉ c.2.ip.toList := by
  have hwritten : stored (writeSeedsToDb clear calls t).2 ≤
      (calls.map (fun c => (writtenAddress c.2).1.length)).sum := by
    rw [clearAll_ok hok]
    simpa [stored] using stored_foldl_le ([], t.clear) calls
  have hread : (calls.map (fun c => c.2.ip.length)).sum ≤ stored (writeSeedsToDb clear calls t).2 := by
    have hsum := ((h.symm.trans (read_perm order _)).map (fun x => x.1.length)).sum_eq
    rw [List.map_map, List.map_map] at hsum
    calc (calls.map (fun c => c.2.ip.length)).sum
        = (((writeSeedsToDb clear calls t).2.values.filter (fun r => r.isActive)).map
            (fun r => r.ip.length)).sum := hsum
      _ ≤ stored (writeSeedsToDb clear calls t).2 :=
        (List.filter_sublist.map _).sum_le_sum (fun _ _ => Nat.zero_le _)
  intro c hc hcolon
  have hlt : (calls.map (fun c => (writtenAddress c.2).1.length)).sum <
      (calls.map (fun c => c.2.ip.length)).sum := by
    apply List.sum_lt_sum
    · exact fun c _ => (length_writtenAddress_le c.2).1
    · exact ⟨c, hc, (length_writtenAddress_le c.2).2 hcolon⟩
  omega

lemma read_of_no_colon (hcolon : ∀ c ∈ calls, ':' ∉ c.2.ip.toList)
    (hdistinct : (calls.map (fun c => (c.2.ip, c.2.port))).Nodup)
    (hok : (writeSeedsToDb clear calls t).1 = []) :
    ((readSeedsFromDb none order (writeSeedsToDb clear calls t).2).map tuple).Perm
      (calls.map (fun c => tuple c.2)) := by
  have hvalues : (writeSeedsToDb clear calls t).2.values = calls.map rowOf := by
    have hrun := clearAll_ok hok
    rw [hrun] at hok ⊢
    simpa using writeSeeds_new hok hcolon (by simpa using hdistinct)
  have hactive : (calls.map rowOf).filter (fun r => r.isActive) = calls.map rowOf := by
    apply List.filter_eq_self.mpr
    intro r hr
    obtain ⟨c, -, rfl⟩ := List.mem_map.mp hr
    rfl
  have hread := read_perm order (writeSeedsToDb clear calls t).2
  rw [hvalues, hactive, List.map_map] at hread
  exact hread

theorem seed_table_replaced_iff (order : ByAddedAt) (t : SeedTable) (clear : Statement)
    (calls : List (Statement × SeedData))
    (htext : ∀ c ∈ calls, ∃ ip, IpAddr.parse c.2.ip = some ip)
    (hdistinct : (calls.map (fun c => (c.2.ip, c.2.port))).Nodup)
    (hok : (writeSeedsToDb clear calls t).1 = []) :
    ((readSeedsFromDb none order (writeSeedsToDb clear calls t).2).map tuple).Perm
        (calls.map (fun c => tuple c.2)) ↔
      ∀ c ∈ calls, ∃ v4, IpAddr.parse c.2.ip = some (.v4 v4) := by
  have hcolon : ∀ c ∈ calls, ':' ∉ c.2.ip.toList ↔ ∃ v4, IpAddr.parse c.2.ip = some (.v4 v4) := by
    intro c hc
    obtain ⟨ip, hip⟩ := htext c hc
    rw [IpAddr.colon_iff hip, hip]
    simp only [Option.some.injEq]
  constructor
  · intro h c hc
    exact (hcolon c hc).mp (no_colon_of_read h hok c hc)
  · intro h
    exact read_of_no_colon (fun c hc => (hcolon c hc).mpr (h c hc)) hdistinct hok

def accepted : Statement := ⟨0, none⟩

def seedAt (ip : String) (port : Int32) : SeedData :=
  ⟨0, ip, port, "n", false, true, 0, 0, 0, 0, none⟩

def byAddedAt : ByAddedAt where
  arrange := List.insertionSort (fun q r => q.2.addedAt ≤ r.2.addedAt)
  perm := List.perm_insertionSort _
  sorted := List.pairwise_insertionSort _

theorem seed_table_replaced_two :
    ((readSeedsFromDb none byAddedAt (writeSeedsToDb accepted
      [(accepted, seedAt "1.2.3.4" 80), (accepted, seedAt "1.2.3.4" 81)] Table.empty).2).map tuple).Perm
      [("1.2.3.4", 80, "n", false), ("1.2.3.4", 81, "n", false)] := by
  have hparse : ∀ c ∈ [(accepted, seedAt "1.2.3.4" 80), (accepted, seedAt "1.2.3.4" 81)],
      IpAddr.parse c.2.ip = some (.v4 ⟨1, 2, 3, 4⟩) := by decide
  apply (seed_table_replaced_iff byAddedAt Table.empty accepted
    [(accepted, seedAt "1.2.3.4" 80), (accepted, seedAt "1.2.3.4" 81)] ?_ (by decide) rfl).mpr
  · exact fun c hc => ⟨_, hparse c hc⟩
  · exact fun c hc => ⟨_, hparse c hc⟩

theorem ipv6_seed_is_cut :
    let after := (writeSeedsToDb accepted [(accepted, seedAt "2001:db8::1" 80)] Table.empty).2
    (readSeedsFromDb none byAddedAt after).map tuple = [("2001:db8:", 1, "n", false)] ∧
      ¬ ((readSeedsFromDb none byAddedAt after).map tuple).Perm [("2001:db8::1", 80, "n", false)] := by
  decide

end ZzP2p.Web
