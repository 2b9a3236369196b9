import Mathlib.Data.List.AList
import Mathlib.Tactic
import ZzP2p.Lib.Collect

/-! A tree of directories and files, kept as the finite map from places to entries. An entry lies in a
directory, and a call that fails leaves the tree as it was. -/

namespace ZzP2p.Lib.FileTree

inductive Entry (δ : Type)
  | dir
  | file (data : δ)
deriving DecidableEq

/-- what a caller tells apart: nothing is there, or the way is barred by an entry of the wrong kind -/
inductive Failure
  | notFound
  | other
deriving DecidableEq

variable {ν δ : Type} [DecidableEq ν]

structure Tree (ν δ : Type) [DecidableEq ν] where
  entries : AList (fun _ : List ν => Entry δ)
  root : entries.lookup [] = some .dir
  closed : ∀ place name, place ++ [name] ∈ entries → entries.lookup place = some .dir

namespace Tree

def empty : Tree ν δ where
  entries := AList.singleton [] .dir
  root := by rw [← AList.insert_empty, AList.lookup_insert]
  closed := by
    intro place name h
    rw [AList.mem_keys, AList.keys_singleton] at h
    simp at h

def entry (t : Tree ν δ) (place : List ν) : Option (Entry δ) := t.entries.lookup place

lemma entry_root (t : Tree ν δ) : t.entry [] = some .dir := t.root

lemma mem_entries {t : Tree ν δ} {place : List ν} : place ∈ t.entries ↔ (t.entry place).isSome := by
  rw [entry, AList.lookup_isSome]

lemma entry_parent {t : Tree ν δ} {place : List ν} {name : ν} (h : (t.entry (place ++ [name])).isSome) :
    t.entry place = some .dir := t.closed place name (mem_entries.mpr h)

lemma entry_above {t : Tree ν δ} {place rest : List ν} (hne : rest ≠ [])
    (h : (t.entry (place ++ rest)).isSome) : t.entry place = some .dir := by
  induction rest using List.reverseRecOn with
  | nil => exact absurd rfl hne
  | append_singleton rest name ih =>
    rw [← List.append_assoc] at h
    have hparent := entry_parent h
    by_cases hrest : rest = []
    · rwa [hrest, List.append_nil] at hparent
    · exact ih hrest (by rw [hparent]; rfl)

def isDir (t : Tree ν δ) (place : List ν) : Bool :=
  match t.entry place with
  | some .dir => true
  | _ => false

lemma isDir_iff {t : Tree ν δ} {place : List ν} : t.isDir place = true ↔ t.entry place = some .dir := by
  rw [isDir]
  cases h : t.entry place with
  | none => simp
  | some e => cases e <;> simp

/-- a file stands on the way to the place, or at it -/
def barred (t : Tree ν δ) (place : List ν) : Bool :=
  place.inits.any (fun p => match t.entry p with
    | some (.file _) => true
    | _ => false)

lemma barred_eq_false {t : Tree ν δ} {place : List ν} :
    t.barred place = false ↔ ∀ p, p <+: place → t.entry p = some .dir ∨ t.entry p = none := by
  rw [barred, List.any_eq_false]
  refine forall_congr' (fun p => ?_)
  rw [List.mem_inits]
  refine imp_congr_right (fun _ => ?_)
  cases hp : t.entry p with
  | none => simp
  | some e => cases e <;> simp

def lookup (t : Tree ν δ) (place : List ν) : Except Failure (Entry δ) :=
  match t.entry place with
  | some e => .ok e
  | none => .error (if t.barred place then .other else .notFound)

def readFile (t : Tree ν δ) (place : List ν) : Except Failure δ := do
  match ← t.lookup place with
  | .file data => .ok data
  | .dir => .error .other

def insertFile (t : Tree ν δ) (place : List ν) (data : δ) (hdir : t.entry place.dropLast = some .dir)
    (hfree : t.entry place ≠ some .dir) : Tree ν δ where
  entries := t.entries.insert place (.file data)
  root := by
    have hne : [] ≠ place := by
      rintro rfl
      exact hfree t.root
    rw [AList.lookup_insert_ne hne]
    exact t.root
  closed := by
    intro p name hmem
    have hp : p ≠ place := by
      rintro rfl
      rcases (AList.mem_insert _).mp hmem with he | he
      · simp at he
      · exact hfree (t.closed p name he)
    rw [AList.lookup_insert_ne hp]
    rcases (AList.mem_insert _).mp hmem with he | he
    · rwa [← he, List.dropLast_concat] at hdir
    · exact t.closed p name he

def eraseFile (t : Tree ν δ) (place : List ν) (hfile : t.entry place ≠ some .dir) : Tree ν δ where
  entries := t.entries.erase place
  root := by
    have hne : [] ≠ place := by
      rintro rfl
      exact hfile t.root
    rw [AList.lookup_erase_ne hne]
    exact t.root
  closed := by
    intro p name hmem
    have hdir := t.closed p name (AList.mem_erase.mp hmem).2
    have hp : p ≠ place := by
      rintro rfl
      exact hfile hdir
    rw [AList.lookup_erase_ne hp]
    exact hdir

lemma entry_insertFile (t : Tree ν δ) (place : List ν) (data : δ) (hdir hfree) (p : List ν) :
    (t.insertFile place data hdir hfree).entry p = if p = place then some (.file data) else t.entry p := by
  by_cases hp : p = place
  · rw [if_pos hp, hp]
    exact AList.lookup_insert _
  · rw [if_neg hp]
    exact AList.lookup_insert_ne hp

lemma entry_eraseFile (t : Tree ν δ) (place : List ν) (hfile) (p : List ν) :
    (t.eraseFile place hfile).entry p = if p = place then none else t.entry p := by
  by_cases hp : p = place
  · rw [if_pos hp, hp]
    exact AList.lookup_erase _ _
  · rw [if_neg hp]
    exact AList.lookup_erase_ne hp

/-- a file that is there is emptied and written anew -/
def writeFile (t : Tree ν δ) (place : List ν) (data : δ) : Except Failure (Tree ν δ) := do
  let _ ← t.lookup place.dropLast
  if hdir : t.isDir place.dropLast then
    if hfree : t.isDir place then .error .other
    else .ok (t.insertFile place data (isDir_iff.mp hdir) (fun h => hfree (isDir_iff.mpr h)))
  else .error .other

def removeFile (t : Tree ν δ) (place : List ν) : Except Failure (Tree ν δ) := do
  let _ ← t.lookup place
  if hfile : t.isDir place then .error .other
  else .ok (t.eraseFile place (fun h => hfile (isDir_iff.mpr h)))

def makeDirs (places : List (List ν)) (entries : AList (fun _ : List ν => Entry δ)) :
    AList (fun _ : List ν => Entry δ) := places.foldr (fun p es => es.insert p .dir) entries

lemma lookup_makeDirs (places : List (List ν)) (entries : AList (fun _ : List ν => Entry δ)) (p : List ν) :
    (makeDirs places entries).lookup p = if p ∈ places then some .dir else entries.lookup p := by
  induction places with
  | nil => rfl
  | cons q places ih =>
    rw [makeDirs, List.foldr_cons]
    by_cases hp : p = q
    · rw [hp, AList.lookup_insert, if_pos List.mem_cons_self]
    · rw [AList.lookup_insert_ne hp]
      rw [makeDirs] at ih
      simpa [hp] using ih

def insertDirs (t : Tree ν δ) (place : List ν) : Tree ν δ where
  entries := makeDirs place.inits t.entries
  root := by rw [lookup_makeDirs, if_pos (by simp)]
  closed := by
    intro p name hmem
    rw [← AList.lookup_isSome, lookup_makeDirs] at hmem
    rw [lookup_makeDirs]
    by_cases hp : p <+: place
    · rw [if_pos ((List.mem_inits _ _).mpr hp)]
    · have hname : p ++ [name] ∉ place.inits :=
        fun h => hp ((List.prefix_append p [name]).trans ((List.mem_inits _ _).mp h))
      rw [if_neg hname] at hmem
      rw [if_neg (fun h => hp ((List.mem_inits _ _).mp h))]
      exact t.closed p name (AList.lookup_isSome.mp hmem)

lemma entry_insertDirs (t : Tree ν δ) (place p : List ν) :
    (t.insertDirs place).entry p = if p <+: place then some .dir else t.entry p := by
  simp only [entry, insertDirs, lookup_makeDirs, List.mem_inits]

/-- the directory and all it lies in -/
def createDirAll (t : Tree ν δ) (place : List ν) : Except Failure (Tree ν δ) :=
  if t.barred place then .error .other else .ok (t.insertDirs place)

def children (t : Tree ν δ) (place : List ν) : List ν :=
  (t.entries.keys.filter (fun p => p ≠ [] ∧ p.dropLast = place)).filterMap List.getLast?

/-- the names in a directory, in the order the system lists them -/
def readDir (t : Tree ν δ) (order : MapOrder ν) (place : List ν) : Except Failure (List ν) := do
  match ← t.lookup place with
  | .dir => .ok (order.arrange (t.children place))
  | .file _ => .error .other

lemma mem_children {t : Tree ν δ} {place : List ν} {name : ν} :
    name ∈ t.children place ↔ (t.entry (place ++ [name])).isSome := by
  rw [← mem_entries, AList.mem_keys, children, List.mem_filterMap]
  constructor
  · rintro ⟨p, hp, hlast⟩
    obtain ⟨hmem, hshape⟩ := List.mem_filter.mp hp
    obtain ⟨up, rfl⟩ := List.getLast?_eq_some_iff.mp hlast
    have hup : up = place := by simpa using hshape
    rwa [← hup]
  · intro hmem
    refine ⟨place ++ [name], List.mem_filter.mpr ⟨hmem, ?_⟩, ?_⟩
    · simp
    · simp

lemma nodup_children (t : Tree ν δ) (place : List ν) : (t.children place).Nodup := by
  rw [List.Nodup, children, List.pairwise_filterMap]
  refine (t.entries.keys_nodup.filter _).imp_of_mem ?_
  intro p q hp hq hne name hname name' hname' he
  obtain ⟨up, rfl⟩ := List.getLast?_eq_some_iff.mp hname
  obtain ⟨up', rfl⟩ := List.getLast?_eq_some_iff.mp hname'
  have hup : up = place := by simpa using (List.mem_filter.mp hp).2
  have hup' : up' = place := by simpa using (List.mem_filter.mp hq).2
  exact hne (by rw [hup, hup', he])

variable {t : Tree ν δ} {place : List ν}

lemma lookup_some {e : Entry δ} (h : t.entry place = some e) : t.lookup place = .ok e := by
  rw [lookup, h]

lemma lookup_none (h : t.entry place = none) (hfree : t.barred place = false) :
    t.lookup place = .error .notFound := by
  rw [lookup, h, hfree]
  rfl

lemma readFile_file {data : δ} (h : t.entry place = some (.file data)) : t.readFile place = .ok data := by
  rw [readFile, lookup_some h]
  rfl

lemma readFile_none (h : t.entry place = none) (hfree : t.barred place = false) :
    t.readFile place = .error .notFound := by
  rw [readFile, lookup_none h hfree]
  rfl

lemma writeFile_ok (hdir : t.entry place.dropLast = some .dir) (hfree : t.entry place ≠ some .dir)
    (data : δ) : ∃ t', t.writeFile place data = .ok t' ∧
      ∀ p, t'.entry p = if p = place then some (.file data) else t.entry p := by
  refine ⟨t.insertFile place data hdir hfree, ?_, entry_insertFile t place data hdir hfree⟩
  rw [writeFile, lookup_some hdir]
  simp [Bind.bind, Except.bind, isDir_iff, hdir, hfree]

lemma removeFile_ok {data : δ} (h : t.entry place = some (.file data)) :
    ∃ t', t.removeFile place = .ok t' ∧ ∀ p, t'.entry p = if p = place then none else t.entry p := by
  have hfile : t.entry place ≠ some .dir := by simp [h]
  refine ⟨t.eraseFile place hfile, ?_, entry_eraseFile t place hfile⟩
  rw [removeFile, lookup_some h]
  simp [Bind.bind, Except.bind, isDir_iff, hfile]

lemma removeFile_none (h : t.entry place = none) (hfree : t.barred place = false) :
    t.removeFile place = .error .notFound := by
  rw [removeFile, lookup_none h hfree]
  rfl

lemma createDirAll_ok (h : t.barred place = false) : ∃ t', t.createDirAll place = .ok t' ∧
    ∀ p, t'.entry p = if p <+: place then some .dir else t.entry p := by
  refine ⟨t.insertDirs place, ?_, entry_insertDirs t place⟩
  rw [createDirAll, h]
  rfl

lemma readDir_dir (order : MapOrder ν) (h : t.entry place = some .dir) :
    t.readDir order place = .ok (order.arrange (t.children place)) := by
  rw [readDir, lookup_some h]
  rfl

lemma readDir_none (order : MapOrder ν) (h : t.entry place = none) (hfree : t.barred place = false) :
    t.readDir order place = .error .notFound := by
  rw [readDir, lookup_none h hfree]
  rfl

def file? (t : Tree ν δ) (place : List ν) : Option δ :=
  match t.entry place with
  | some (.file data) => some data
  | _ => none

lemma file?_createDirAll {t' : Tree ν δ} (h : t.createDirAll place = .ok t') (p : List ν) :
    t'.file? p = t.file? p := by
  have hfree : t.barred place = false := by
    by_contra hb
    rw [createDirAll, if_pos (by simpa using hb)] at h
    cases h
  obtain ⟨t₂, hok, hentry⟩ := createDirAll_ok hfree
  rw [h] at hok
  cases hok
  rw [file?, file?, hentry]
  by_cases hp : p <+: place
  · rcases barred_eq_false.mp hfree p hp with he | he
    · rw [if_pos hp, he]
    · rw [if_pos hp, he]
  · rw [if_neg hp]

lemma file?_writeFile {t' : Tree ν δ} {data : δ} (h : t.writeFile place data = .ok t') {p : List ν}
    (hp : p ≠ place) : t'.file? p = t.file? p := by
  have hdir : t.entry place.dropLast = some .dir := by
    rw [writeFile] at h
    cases hl : t.lookup place.dropLast with
    | error e =>
      rw [hl] at h
      cases h
    | ok e =>
      by_contra hne
      rw [hl] at h
      simp [Bind.bind, Except.bind, isDir_iff, hne] at h
  have hfree : t.entry place ≠ some .dir := by
    intro hd
    rw [writeFile, lookup_some hdir] at h
    simp [Bind.bind, Except.bind, isDir_iff, hdir, hd] at h
  obtain ⟨t₂, hok, hentry⟩ := writeFile_ok hdir hfree data
  rw [h] at hok
  cases hok
  rw [file?, file?, hentry, if_neg hp]

end Tree

end ZzP2p.Lib.FileTree
