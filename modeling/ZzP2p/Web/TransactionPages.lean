import ZzP2p.Db.Transaction
import ZzP2p.Lib.Numerals
import ZzP2p.Lib.Pages

/-! The pages of the transaction list. The number of pages and the offset of a page are computed in
different functions, on 64-bit numbers. -/

namespace ZzP2p.Web

open Lib Lib.Numerals Db.Transaction

structure TransactionInfo where
  id : Int64
  txType : String
  fromAddress : String
  toAddress : String
  amount : String
  timestamp : String
  hash : String
  preHash : String

structure TransactionPage where
  transactions : List TransactionInfo
  currentPage : UInt64
  totalPages : UInt64
  totalCount : UInt64

def getPage (t : TransactionTable) (page perPage : UInt64) : List (ℕ × Columns) :=
  let offset := (if page = 0 then 0 else page - 1) * perPage
  (t.rows.reverse.drop offset.toNat).take perPage.toNat

def countAll (t : TransactionTable) : UInt64 := UInt64.ofNat t.rows.length

def debugType : TxType → String
  | .transfer => "Transfer"
  | .mint => "Mint"
  | .burn => "Burn"

def twoDigits (n : ℕ) : String := if n < 10 then "0" ++ toString n else toString n

/-- the cells of a row; `formatTime` is the crate's writing of a second, where it has one -/
def transactionInfo (formatTime : Int64 → Option String) (tx : ℕ × Columns) : TransactionInfo :=
  let amount := ((parseSigned (2 ^ 63) tx.2.amount.toList).map Int64.ofInt).getD 0
  { id := Int64.ofNat tx.1
    txType := debugType tx.2.txType
    fromAddress := tx.2.fromAddress
    toAddress := tx.2.toAddress
    amount := toString (amount / 100).toInt ++ "." ++ twoDigits (amount % 100).toInt.natAbs
    timestamp := (formatTime tx.2.timestamp).getD ""
    hash := tx.2.hash
    preHash := tx.2.preHash }

/-- `counted` and `paged` say whether the database answers the two queries. -/
def loadTransactions (formatTime : Int64 → Option String) (counted paged : Bool) (t : TransactionTable)
    (page perPage : UInt64) : TransactionPage :=
  let totalCount := if counted then countAll t else 0
  let totalPages := if totalCount = 0 then 1 else (totalCount + perPage - 1) / perPage
  { transactions := if paged then (getPage t page perPage).map (transactionInfo formatTime) else []
    currentPage := page
    totalPages := max totalPages 1
    totalCount := totalCount }

/-- The keys of the table are signed 64-bit numbers. -/
def KeysFit (t : TransactionTable) : Prop := ∀ r ∈ t.rows, r.1 < 2 ^ 63

variable {t : TransactionTable} {page perPage : UInt64}

lemma KeysFit.length_le (h : KeysFit t) : t.rows.length ≤ 2 ^ 63 := by
  have hnodup : (t.rows.map Prod.fst).Nodup := by
    rw [List.Nodup, List.pairwise_map]
    exact t.ordered.imp (fun hlt => hlt.ne)
  have hsub : (t.rows.map Prod.fst).toFinset ⊆ Finset.range (2 ^ 63) := by
    intro n hn
    obtain ⟨r, hr, rfl⟩ := List.mem_map.mp (List.mem_toFinset.mp hn)
    exact Finset.mem_range.mpr (h r hr)
  have hcard := Finset.card_le_card hsub
  rwa [List.toFinset_card_of_nodup hnodup, Finset.card_range, List.length_map] at hcard

lemma toNat_max (a b : UInt64) : (max a b).toNat = max a.toNat b.toNat := by
  change (if a ≤ b then b else a).toNat = _
  split
  · next hab => rw [max_eq_right (UInt64.le_iff_toNat_le.mp hab)]
  · next hab => rw [max_eq_left (not_lt.mp (fun hlt => hab (UInt64.le_iff_toNat_le.mpr hlt.le)))]

lemma totalPages_eq (formatTime : Int64 → Option String) (ht : KeysFit t) (h : 1 ≤ perPage) :
    (loadTransactions formatTime true true t page perPage).totalPages.toNat =
      Pages.count t.rows.reverse perPage.toNat := by
  have hle := ht.length_le
  have hp : 1 ≤ perPage.toNat := h
  have hlt := perPage.toNat_lt
  have hcount : (countAll t).toNat = t.rows.length := UInt64.toNat_ofNat_of_lt' (by rw [UInt64.size]; omega)
  simp only [loadTransactions, if_true, Pages.count, List.length_reverse]
  split
  · next hz =>
    have hzero : t.rows.length = 0 := by rw [← hcount, hz]; rfl
    have hquot : (0 + perPage.toNat - 1) / perPage.toNat = 0 := Nat.div_eq_of_lt (by omega)
    rw [hzero, hquot]
    rfl
  · next hz =>
    have hpos : 0 < t.rows.length := by
      rw [← hcount]
      exact Nat.pos_of_ne_zero (fun he => hz (UInt64.toNat_inj.mp he))
    have hsum : (countAll t + perPage - 1).toNat = (t.rows.length + perPage.toNat - 1) % 2 ^ 64 := by
      rw [UInt64.toNat_sub, UInt64.toNat_add, hcount]
      have hone : (1 : UInt64).toNat = 1 := rfl
      omega
    rw [toNat_max, UInt64.toNat_div, hsum]
    -- the sum wraps only where one page is longer than the table
    rcases lt_or_ge (t.rows.length + perPage.toNat - 1) (2 ^ 64) with hfit | hwrap
    · rw [Nat.mod_eq_of_lt hfit]
      rfl
    · have hquot : (t.rows.length + perPage.toNat - 1) % 2 ^ 64 / perPage.toNat = 0 :=
        Nat.div_eq_of_lt (by omega)
      have hone : (t.rows.length + perPage.toNat - 1) / perPage.toNat = 1 :=
        Nat.div_eq_of_lt_le (by omega) (by omega)
      rw [hquot, hone]
      rfl

lemma getPage_eq (h : (page.toNat - 1) * perPage.toNat < 2 ^ 64) :
    getPage t page perPage = Pages.page t.rows.reverse perPage.toNat (page.toNat - 1) := by
  have hoffset : ((if page = 0 then 0 else page - 1) * perPage).toNat = (page.toNat - 1) * perPage.toNat := by
    rw [UInt64.toNat_mul]
    split
    · next hz => simp [hz]
    · next hz =>
      have hpos : 1 ≤ page := by
        rw [UInt64.le_iff_toNat_le]
        have hne : page.toNat ≠ 0 := fun he => hz (UInt64.toNat_inj.mp he)
        exact Nat.one_le_iff_ne_zero.mpr hne
      rw [UInt64.toNat_sub_of_le _ _ hpos]
      exact Nat.mod_eq_of_lt h
  rw [getPage, hoffset, Pages.page]

lemma getPage_counted {i : ℕ} (ht : KeysFit t) (hpage : page.toNat = i + 1)
    (hi : i < Pages.count t.rows.reverse perPage.toNat) :
    getPage t page perPage = Pages.page t.rows.reverse perPage.toNat i := by
  have hle := ht.length_le
  have hoffset := Pages.mul_le_of_lt_count hi
  rw [List.length_reverse] at hoffset
  rw [getPage_eq] <;> rw [hpage, Nat.add_sub_cancel]
  omega

theorem pages_partition (formatTime : Int64 → Option String) (t : TransactionTable) (perPage : UInt64)
    (ht : KeysFit t) (h : 1 ≤ perPage) :
    let load := fun n => loadTransactions formatTime true true t n perPage
    let total := (load 1).totalPages
    (∀ n, (load n).totalPages = total ∧
      (load n).transactions = (getPage t n perPage).map (transactionInfo formatTime)) ∧
    (List.range total.toNat).flatMap (fun i => getPage t (UInt64.ofNat (i + 1)) perPage) = t.rows.reverse ∧
    t.rows.reverse.Pairwise (fun q r => r.1 < q.1) ∧
    (∀ n, 1 ≤ n → n < total → (getPage t n perPage).length = perPage.toNat) ∧
    (∀ n, total < n → (n.toNat - 1) * perPage.toNat < 2 ^ 64 → getPage t n perPage = []) := by
  intro load total
  have htotal : total.toNat = Pages.count t.rows.reverse perPage.toNat := totalPages_eq formatTime ht h
  have hp : 0 < perPage.toNat := h
  refine ⟨fun n => ⟨?_, ?_⟩, ?_, List.pairwise_reverse.mpr t.ordered, ?_, ?_⟩
  · simp only [total, load, loadTransactions]
  · simp only [load, loadTransactions, if_true]
  · have hpages : ∀ i ∈ List.range total.toNat, getPage t (UInt64.ofNat (i + 1)) perPage =
        Pages.page t.rows.reverse perPage.toNat i := by
      intro i hi
      have hi := List.mem_range.mp hi
      have hlt := total.toNat_lt
      apply getPage_counted ht
      · exact UInt64.toNat_ofNat_of_lt' (by rw [UInt64.size]; omega)
      · exact htotal ▸ hi
    rw [List.flatMap_congr hpages, htotal]
    exact Pages.flatMap_page hp
  · intro n h1 hn
    have h1 : 1 ≤ n.toNat := h1
    have hn : n.toNat < total.toNat := hn
    obtain ⟨i, hi⟩ : ∃ i, n.toNat = i + 1 := ⟨n.toNat - 1, by omega⟩
    rw [hi, htotal] at hn
    rw [getPage_counted ht hi (Nat.lt_of_succ_lt hn)]
    exact Pages.length_page hn
  · intro n hn hoffset
    have hn : total.toNat < n.toNat := hn
    rw [getPage_eq hoffset]
    apply Pages.page_eq_nil hp
    omega

def mintRow (hash : String) : Columns :=
  ⟨1, 1, .mint, "", "a", "1050", 0, preHash, hash, "s"⟩

def threeRows : TransactionTable :=
  ((Table.empty.insert (mintRow "x")).insert (mintRow "y")).insert (mintRow "z")

theorem pages_partition_three :
    (List.range (loadTransactions (fun _ => none) true true threeRows 1 2).totalPages.toNat).flatMap
      (fun i => getPage threeRows (UInt64.ofNat (i + 1)) 2) =
    [(3, mintRow "z"), (2, mintRow "y"), (1, mintRow "x")] := by
  have hfit : KeysFit threeRows := by
    intro r hr
    exact lt_of_le_of_lt (threeRows.bounded r hr) (by decide)
  exact (pages_partition (fun _ => none) threeRows 2 hfit (by decide)).2.1

end ZzP2p.Web
