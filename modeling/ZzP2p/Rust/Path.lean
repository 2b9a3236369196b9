import ZzP2p.Lib.Runs

/-! Paths as texts, the way `PathBuf::join` puts them together, and the place in the directory tree that
a path names. Links between directories are left out. -/

namespace ZzP2p.Rust.Path

open Lib.Runs

/-- a text that can be the name of a directory entry -/
def Plain (s : String) : Prop := s ≠ "" ∧ s ≠ "." ∧ s ≠ ".." ∧ '/' ∉ s.toList

instance (s : String) : Decidable (Plain s) := inferInstanceAs (Decidable (_ ∧ _))

abbrev Name := { s : String // Plain s }

abbrev Place := List Name

def isAbsolute (path : String) : Bool := path.toList.head? = some '/'

def join (base path : String) : String :=
  if isAbsolute path then path
  else if base = "" ∨ base.toList.getLast? = some '/' then base ++ path
  else base ++ "/" ++ path

def components (path : String) : List String := (path.toList.splitOn '/').map String.ofList

def enter (place : Place) (component : String) : Place :=
  if h : Plain component then place ++ [⟨component, h⟩]
  -- the parent of the root is the root
  else if component = ".." then place.dropLast
  else place

def walk (place : Place) (path : String) : Place := (components path).foldl enter place

def resolve (cwd : Place) (path : String) : Place := walk (if isAbsolute path then [] else cwd) path

lemma enter_empty (place : Place) : enter place "" = place := by
  rw [enter, dif_neg (by decide), if_neg (by decide)]

lemma components_sep (base path : String) :
    components (base ++ "/" ++ path) = components base ++ components path := by
  have hl : (base ++ "/" ++ path).toList = base.toList ++ '/' :: path.toList := by simp
  rw [components, hl, List.splitOn_append_cons_self, List.map_append]
  rfl

lemma components_of_notMem {s : String} (h : '/' ∉ s.toList) : components s = [s] := by
  rw [components, List.splitOn_eq_singleton h]
  simp

lemma walk_empty (place : Place) : walk place "" = place := by
  rw [walk, components_of_notMem (by simp)]
  exact enter_empty place

lemma walk_plain (place : Place) {s : String} (h : Plain s) : walk place s = place ++ [⟨s, h⟩] := by
  rw [walk, components_of_notMem h.2.2.2]
  exact dif_pos h

lemma walk_sep (place : Place) (base path : String) :
    walk place (base ++ "/" ++ path) = walk (walk place base) path := by
  rw [walk, components_sep, List.foldl_append]
  rfl

lemma exists_of_getLast_sep {base : String} (h : base.toList.getLast? = some '/') :
    ∃ b : String, base = b ++ "/" := by
  obtain ⟨l, hl⟩ := List.getLast?_eq_some_iff.mp h
  exact ⟨String.ofList l, by rw [← String.toList_inj, hl]; simp⟩

lemma walk_join (place : Place) {path : String} (h : isAbsolute path = false) (base : String) :
    walk place (join base path) = walk (walk place base) path := by
  rw [join, if_neg (by simp [h])]
  split
  · next hb =>
    rcases hb with rfl | hb
    · rw [walk_empty, String.empty_append]
    · obtain ⟨b, rfl⟩ := exists_of_getLast_sep hb
      have hsep := walk_sep place b ""
      rw [String.append_empty, walk_empty] at hsep
      rw [walk_sep, hsep]
  · exact walk_sep place base path

lemma isAbsolute_join {base path : String} (h : isAbsolute path = false) :
    isAbsolute (join base path) = isAbsolute base := by
  rw [join, if_neg (by simp [h])]
  by_cases hb : base = ""
  · simp only [hb, true_or, if_true, String.empty_append, h]
    rfl
  · have hne : base.toList ≠ [] := by simpa using hb
    split
    · simp [isAbsolute, List.head?_append_of_ne_nil _ hne]
    · simp [isAbsolute, List.head?_append_of_ne_nil _ hne]

lemma resolve_join (cwd : Place) {path : String} (h : isAbsolute path = false) (base : String) :
    resolve cwd (join base path) = walk (resolve cwd base) path := by
  rw [resolve, isAbsolute_join h, walk_join _ h]
  rfl

lemma resolve_join_absolute (cwd : Place) {path : String} (h : isAbsolute path = true) (base : String) :
    resolve cwd (join base path) = walk [] path := by
  rw [join, if_pos h, resolve, if_pos h]

/-- steps up and the names entered after them -/
def climb (s : ℕ × Place) (component : String) : ℕ × Place :=
  if h : Plain component then (s.1, s.2 ++ [⟨component, h⟩])
  else if component = ".." then
    if s.2 = [] then (s.1 + 1, []) else (s.1, s.2.dropLast)
  else s

def normalForm (path : String) : ℕ × Place := (components path).foldl climb (0, [])

lemma enter_climb (place : Place) (s : ℕ × Place) (component : String) :
    enter (place.take (place.length - s.1) ++ s.2) component =
      place.take (place.length - (climb s component).1) ++ (climb s component).2 := by
  simp only [enter, climb]
  split
  · rw [List.append_assoc]
  · split
    · split
      · next hs =>
        have hmin : min (min (place.length - s.1) place.length - 1) (place.length - s.1) =
            place.length - (s.1 + 1) := by omega
        rw [hs, List.append_nil, List.append_nil, List.dropLast_eq_take, List.length_take,
          List.take_take, hmin]
      · next hs => rw [List.dropLast_append_of_ne_nil hs]
    · rfl

lemma walk_eq (place : Place) (path : String) :
    walk place path =
      place.take (place.length - (normalForm path).1) ++ (normalForm path).2 := by
  have hrun := foldl_simulates (enter_climb place) (0, []) (components path)
  simpa [walk, normalForm] using hrun

end ZzP2p.Rust.Path
