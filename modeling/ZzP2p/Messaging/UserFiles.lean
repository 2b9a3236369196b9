import ZzP2p.Rust.Path

/-! The files of the user store. Every address is meant to have a directory of its own below `users`;
addresses and relative paths are joined as they come. -/

namespace ZzP2p.Messaging.UserStore

open Rust Rust.Path

def usersDir (basePath : String) : String := join basePath "users"

def userDir (basePath address : String) : String := join (usersDir basePath) address

def chatPath (basePath address : String) : String := join (userDir basePath address) "chat.json"

inductive FileOperation
  | storeFile (relPath : String)
  | readFile (relPath : String)
  | deleteFile (relPath : String)
  | addMessage
  | loadProfile

def accessed (basePath address : String) : FileOperation → String
  | .storeFile relPath => join (userDir basePath address) relPath
  | .readFile relPath => join (userDir basePath address) relPath
  | .deleteFile relPath => join (userDir basePath address) relPath
  | .addMessage => chatPath basePath address
  | .loadProfile => join (userDir basePath address) "profile.json"

def FileOperation.relPath : FileOperation → String
  | .storeFile relPath => relPath
  | .readFile relPath => relPath
  | .deleteFile relPath => relPath
  | .addMessage => "chat.json"
  | .loadProfile => "profile.json"

lemma accessed_eq (basePath address : String) (o : FileOperation) :
    accessed basePath address o = join (userDir basePath address) o.relPath := by
  cases o <;> rfl

/-- strictly below the directory called `address` in `users` -/
def Inside (users : Place) (address : String) (place : Place) : Prop :=
  ∃ rest ≠ [], place.map Subtype.val = users.map Subtype.val ++ address :: rest

/-- The path leads below `dir` again, however far up it goes first. -/
def Returns (dir : Place) (relPath : String) : Prop :=
  let up := if isAbsolute relPath then dir.length else (normalForm relPath).1
  ∃ rest ≠ [], (normalForm relPath).2 = dir.drop (dir.length - up) ++ rest

lemma Inside.plain {users : Place} {address : String} {place : Place} (h : Inside users address place) :
    Plain address := by
  obtain ⟨rest, -, hrest⟩ := h
  have hmem : address ∈ place.map Subtype.val := by simp [hrest]
  obtain ⟨name, -, rfl⟩ := List.mem_map.mp hmem
  exact name.2

lemma inside_iff {users : Place} {address : String} (h : Plain address) (place : Place) :
    Inside users address place ↔ ∃ rest ≠ [], place = (users ++ [⟨address, h⟩]) ++ rest := by
  constructor
  · rintro ⟨rest, hne, hrest⟩
    have hsplit : place.map Subtype.val =
        (users ++ [(⟨address, h⟩ : Name)]).map Subtype.val ++ rest := by
      simpa using hrest
    obtain ⟨l₁, l₂, rfl, h₁, h₂⟩ := List.map_eq_append_iff.mp hsplit
    rw [List.map_injective_iff.mpr Subtype.val_injective h₁]
    exact ⟨l₂, by rintro rfl; exact hne (by simpa using h₂.symm), rfl⟩
  · rintro ⟨rest, hne, rfl⟩
    exact ⟨rest.map Subtype.val, fun he => hne (List.map_eq_nil_iff.mp he), by simp⟩

lemma isAbsolute_of_plain {s : String} (h : Plain s) : isAbsolute s = false := by
  rw [isAbsolute, decide_eq_false_iff_not]
  exact fun hs => h.2.2.2 (List.mem_of_mem_head? hs)

lemma resolve_userDir (cwd : Place) (basePath : String) {address : String} (h : Plain address) :
    resolve cwd (userDir basePath address) = resolve cwd (usersDir basePath) ++ [⟨address, h⟩] := by
  rw [userDir, resolve_join cwd (isAbsolute_of_plain h), walk_plain _ h]

lemma returns_iff (cwd : Place) (base relPath : String) :
    (∃ rest ≠ [], resolve cwd (join base relPath) = resolve cwd base ++ rest) ↔
      Returns (resolve cwd base) relPath := by
  cases ha : isAbsolute relPath with
  | true =>
    rw [resolve_join_absolute cwd ha, walk_eq]
    simp [Returns, ha]
  | false =>
    rw [resolve_join cwd ha, walk_eq]
    generalize resolve cwd base = dir
    have hdir : ∀ (n : ℕ) (rest : Place), dir ++ rest = dir.take n ++ (dir.drop n ++ rest) := by
      intro n rest
      rw [← List.append_assoc, List.take_append_drop]
    simp only [Returns, ha, Bool.false_eq_true, if_false]
    refine exists_congr (fun rest => and_congr_right (fun _ => ?_))
    rw [hdir (dir.length - (normalForm relPath).1) rest, List.append_cancel_left_eq]

def Confined (cwd : Place) (basePath address : String) (o : FileOperation) : Prop :=
  Inside (resolve cwd (usersDir basePath)) address (resolve cwd (accessed basePath address o))

lemma confined_iff_returns (cwd : Place) (basePath : String) {address : String} (h : Plain address)
    (o : FileOperation) :
    Confined cwd basePath address o ↔
      Returns (resolve cwd (usersDir basePath) ++ [⟨address, h⟩]) o.relPath := by
  rw [Confined, accessed_eq, inside_iff h, ← resolve_userDir cwd basePath h]
  exact returns_iff cwd (userDir basePath address) o.relPath

lemma returns_of_plain {s : String} (h : Plain s) (dir : Place) : Returns dir s := by
  have hn : normalForm s = (0, [⟨s, h⟩]) := by
    rw [normalForm, components_of_notMem h.2.2.2]
    simp [climb, h]
  refine ⟨[⟨s, h⟩], List.cons_ne_nil _ _, ?_⟩
  simp [isAbsolute_of_plain h, hn]

theorem confined_iff (cwd : Place) (basePath address : String) (o : FileOperation) :
    Confined cwd basePath address o ↔
      ∃ h : Plain address, match o with
        | .storeFile relPath | .readFile relPath | .deleteFile relPath =>
          Returns (resolve cwd (usersDir basePath) ++ [⟨address, h⟩]) relPath
        | .addMessage | .loadProfile => True := by
  constructor
  · intro hc
    have h := hc.plain
    have hr := (confined_iff_returns cwd basePath h o).mp hc
    refine ⟨h, ?_⟩
    cases o with
    | storeFile relPath => exact hr
    | readFile relPath => exact hr
    | deleteFile relPath => exact hr
    | addMessage => trivial
    | loadProfile => trivial
  · rintro ⟨h, hr⟩
    apply (confined_iff_returns cwd basePath h o).mpr
    cases o with
    | storeFile relPath => exact hr
    | readFile relPath => exact hr
    | deleteFile relPath => exact hr
    | addMessage => exact returns_of_plain (by decide) _
    | loadProfile => exact returns_of_plain (by decide) _

theorem readFile_leaves_directory :
    ¬ ∀ (cwd : Place) (basePath address : String) (o : FileOperation),
      Confined cwd basePath address o := by
  intro h
  have hc := (h [] "/data" "alice" (.readFile "../bob/profile.json"))
  obtain ⟨rest, -, hrest⟩ := hc
  have hplace : (resolve [] (accessed "/data" "alice" (.readFile "../bob/profile.json"))).map
      Subtype.val = ["data", "users", "bob", "profile.json"] := by decide
  have husers : (resolve [] (usersDir "/data")).map Subtype.val = ["data", "users"] := by decide
  rw [hplace, husers] at hrest
  simp at hrest

end ZzP2p.Messaging.UserStore
