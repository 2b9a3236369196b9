import ZzP2p.Lib.Service
import ZzP2p.Messaging.UserDirectory

/-! What the user store is for: a shelf of files for every address. With names that name one directory
entry, every run of calls on the disk answers as the shelf would. -/

namespace ZzP2p.Messaging.UserDirectory

open Rust Rust.Path Lib Lib.FileTree UserStore ProfileCache

section Places

lemma steps_plain {p : String} (h : Plain p) : steps p = [p] := by
  rw [steps, components_of_notMem h.2.2.2]
  simp [h.1, h.2.1]

lemma steps_sep (base p : String) : steps (base ++ "/" ++ p) = steps base ++ steps p := by
  rw [steps, components_sep, List.filter_append]
  rfl

lemma steps_empty : steps "" = [] := by decide

lemma steps_join {p : String} (h : isAbsolute p = false) (base : String) :
    steps (join base p) = steps base ++ steps p := by
  rw [join, if_neg (by simp [h])]
  split
  · next hb =>
    rcases hb with rfl | hb
    · rw [String.empty_append, steps_empty, List.nil_append]
    · obtain ⟨b, rfl⟩ := exists_of_getLast_sep hb
      have hsep := steps_sep b ""
      rw [String.append_empty, steps_empty, List.append_nil] at hsep
      rw [steps_sep, hsep]
  · exact steps_sep base p

lemma enter_of_skipped {c : String} (h : ¬ (c ≠ "" ∧ c ≠ ".")) (place : Place) : enter place c = place := by
  have hc : c = "" ∨ c = "." := by tauto
  rcases hc with rfl | rfl
  · exact enter_empty place
  · rw [enter, dif_neg (by decide), if_neg (by decide)]

lemma foldl_filter_components (place : Place) (cs : List String) :
    (cs.filter (fun c => c ≠ "" ∧ c ≠ ".")).foldl enter place = cs.foldl enter place := by
  induction cs generalizing place with
  | nil => rfl
  | cons c cs ih =>
    by_cases hc : c ≠ "" ∧ c ≠ "."
    · rw [List.filter_cons_of_pos (by simpa using hc), List.foldl_cons, List.foldl_cons, ih]
    · rw [List.filter_cons_of_neg (by simpa using hc), List.foldl_cons, enter_of_skipped hc, ih]

lemma parent_join (cwd : Place) {p : String} (h : Plain p) (base : String) :
    parent cwd (join base p) = some (resolve cwd base) := by
  have habs := isAbsolute_of_plain h
  have hsteps : steps (join base p) = steps base ++ [p] := by rw [steps_join habs, steps_plain h]
  rw [parent, if_neg (by simp [hsteps]), hsteps, List.dropLast_concat, isAbsolute_join habs, steps,
    foldl_filter_components]
  rfl

lemma join_of_ends {p : String} (h : Plain p) (s : String) {q : String} (hq : isAbsolute q = false) :
    join (s ++ p) q = s ++ p ++ "/" ++ q := by
  have hp : p.toList ≠ [] := by simpa using h.1
  have hlast : (s ++ p).toList.getLast? ≠ some '/' := by
    rw [String.toList_append, List.getLast?_append_of_ne_nil _ hp]
    exact fun he => h.2.2.2 (List.mem_of_getLast? he)
  have hne : s ++ p ≠ "" := by
    intro he
    rw [← String.toList_inj, String.toList_append] at he
    exact hp (List.append_eq_nil_iff.mp he).2
  rw [join, if_neg (by simp [hq]), if_neg (not_or.mpr ⟨hne, hlast⟩)]

lemma join_join {p q : String} (h : Plain p) (hq : isAbsolute q = false) (base : String) :
    join base (p ++ "/" ++ q) = join (join base p) q := by
  have hp : p.toList ≠ [] := by simpa using h.1
  have habs : isAbsolute (p ++ "/" ++ q) = false := by
    have hhead : (p ++ "/" ++ q).toList.head? = p.toList.head? := by
      simp [List.head?_append_of_ne_nil _ hp]
    rw [isAbsolute, hhead]
    exact isAbsolute_of_plain h
  simp only [join.eq_def base, habs, isAbsolute_of_plain h, Bool.false_eq_true, if_false]
  split
  · rw [join_of_ends h base hq]
    simp only [String.append_assoc]
  · rw [join_of_ends h (base ++ "/") hq]
    simp only [String.append_assoc]

end Places

def images : Name := ⟨"images", by decide⟩

/-- the files a user directory is made for -/
inductive Slot
  | file (name : Name) (h : name ≠ images)
  | image (name : Name)
deriving DecidableEq

namespace Slot

def relPath : Slot → String
  | file name _ => name.val
  | image name => "images/" ++ name.val

def dir : Slot → Place
  | file _ _ => []
  | image _ => [images]

def name : Slot → Name
  | file name _ => name
  | image name => name

def chat : Slot := .file ⟨"chat.json", by decide⟩ (by decide)

def profile : Slot := .file ⟨"profile.json", by decide⟩ (by decide)

lemma place_injective {σ τ : Slot} (h : σ.dir ++ [σ.name] = τ.dir ++ [τ.name]) : σ = τ := by
  cases σ with
  | file n hn =>
    cases τ with
    | file m hm => simpa [dir, name] using h
    | image m => simp [dir, name] at h
  | image n =>
    cases τ with
    | file m hm => simp [dir, name] at h
    | image m => simpa [dir, name] using h

end Slot

variable (loc : Location)

def place (a : Name) (σ : Slot) : Place := users loc ++ a :: (σ.dir ++ [σ.name])

def holder (a : Name) (σ : Slot) : Place := users loc ++ a :: σ.dir

lemma place_eq (a : Name) (σ : Slot) : place loc a σ = holder loc a σ ++ [σ.name] := by
  simp [place, holder]

lemma resolve_user (a : Name) : resolve loc.cwd (userDir loc.basePath a.val) = users loc ++ [a] :=
  resolve_userDir loc.cwd loc.basePath a.2

lemma resolve_images (a : Name) : resolve loc.cwd (imagesDir loc a.val) = users loc ++ [a, images] := by
  have hwalk := walk_plain (users loc ++ [a]) images.2
  rw [List.append_assoc] at hwalk
  rw [imagesDir, resolve_join loc.cwd (by decide), resolve_user]
  exact hwalk

lemma join_slot (a : Name) (σ : Slot) : ∃ base, resolve loc.cwd base = holder loc a σ ∧
    join (userDir loc.basePath a.val) σ.relPath = join base σ.name.val := by
  cases σ with
  | file n hn => exact ⟨userDir loc.basePath a.val, resolve_user loc a, rfl⟩
  | image n =>
    refine ⟨imagesDir loc a.val, resolve_images loc a, ?_⟩
    exact join_join images.2 (isAbsolute_of_plain n.2) _

lemma resolve_slot (a : Name) (σ : Slot) :
    resolve loc.cwd (join (userDir loc.basePath a.val) σ.relPath) = place loc a σ := by
  obtain ⟨base, hbase, hjoin⟩ := join_slot loc a σ
  rw [hjoin, resolve_join loc.cwd (isAbsolute_of_plain σ.name.2), hbase, walk_plain _ σ.name.2, place_eq]

lemma parent_slot (a : Name) (σ : Slot) :
    parent loc.cwd (join (userDir loc.basePath a.val) σ.relPath) = some (holder loc a σ) := by
  obtain ⟨base, hbase, hjoin⟩ := join_slot loc a σ
  rw [hjoin, parent_join loc.cwd σ.name.2, hbase]

/-- which addresses have a directory, and the files in it -/
structure Shelf where
  known : Set Name
  file : Name → Slot → Option Bytes

def Shelf.empty : Shelf := ⟨∅, fun _ _ => none⟩

structure Represents (disk : Disk) (s : Shelf) : Prop where
  clear : disk.barred (users loc) = false
  known : ∀ a, a ∈ s.known ↔ disk.entry (users loc ++ [a]) = some .dir
  user : ∀ a data, disk.entry (users loc ++ [a]) ≠ some (.file data)
  images : ∀ a data, disk.entry (users loc ++ [a, images]) ≠ some (.file data)
  file : ∀ a σ, disk.entry (place loc a σ) = (s.file a σ).map .file

lemma represents_empty (loc : Location) : Represents loc Tree.empty Shelf.empty := by
  have hnone : ∀ p : Place, p ≠ [] → (Tree.empty : Disk).entry p = none := by
    intro p hp
    rw [Tree.entry, AList.lookup_eq_none, AList.mem_keys]
    simpa [Tree.empty] using hp
  constructor
  · rw [Tree.barred_eq_false]
    intro p _
    by_cases hp : p = []
    · rw [hp]
      exact Or.inl (Tree.entry_root _)
    · exact Or.inr (hnone p hp)
  · intro a
    rw [hnone _ (by simp)]
    simp [Shelf.empty]
  · intro a data
    rw [hnone _ (by simp)]
    simp
  · intro a data
    rw [hnone _ (by simp)]
    simp
  · intro a σ
    rw [hnone _ (by simp [place])]
    rfl

namespace Shelf

def know (s : Shelf) (a : Name) : Shelf := { s with known := insert a s.known }

def put (s : Shelf) (a : Name) (σ : Slot) (data : Bytes) : Shelf where
  known := insert a s.known
  file := Function.update s.file a (Function.update (s.file a) σ (some data))

def remove (s : Shelf) (a : Name) (σ : Slot) : Shelf :=
  { s with file := Function.update s.file a (Function.update (s.file a) σ none) }

lemma put_file (s : Shelf) (a b : Name) (σ τ : Slot) (data : Bytes) :
    (s.put a σ data).file b τ = if b = a ∧ τ = σ then some data else s.file b τ := by
  by_cases hb : b = a
  · subst hb
    by_cases hτ : τ = σ
    · simp [put, hτ]
    · simp [put, hτ]
  · simp [put, hb]

lemma remove_file (s : Shelf) (a b : Name) (σ τ : Slot) :
    (s.remove a σ).file b τ = if b = a ∧ τ = σ then none else s.file b τ := by
  by_cases hb : b = a
  · subst hb
    by_cases hτ : τ = σ
    · simp [remove, hτ]
    · simp [remove, hτ]
  · simp [remove, hb]

end Shelf

section Representation

variable {loc} {disk disk' : Disk} {s : Shelf}

lemma place_inj {a b : Name} {σ τ : Slot} : place loc a σ = place loc b τ ↔ a = b ∧ σ = τ := by
  constructor
  · intro h
    rw [place, place, List.append_cancel_left_eq, List.cons.injEq] at h
    exact ⟨h.1, Slot.place_injective h.2⟩
  · rintro ⟨rfl, rfl⟩
    rfl

lemma place_ne_user (a b : Name) (σ : Slot) : users loc ++ [b] ≠ place loc a σ := by
  intro h
  have hlen := congrArg List.length h
  simp [place] at hlen

lemma place_ne_images (a b : Name) (σ : Slot) : users loc ++ [b, images] ≠ place loc a σ := by
  intro h
  rw [place, List.append_cancel_left_eq, List.cons.injEq] at h
  cases σ with
  | file n hn => exact hn (List.singleton_inj.mp h.2).symm
  | image n => simp [Slot.dir, Slot.name] at h

lemma place_not_above (a b : Name) (σ τ : Slot) : ¬ place loc a σ <+: holder loc b τ := by
  rintro ⟨rest, h⟩
  rw [place, holder, List.append_assoc, List.append_cancel_left_eq, List.cons_append, List.cons.injEq] at h
  cases τ with
  | file n hn => simp [Slot.dir] at h
  | image n =>
    cases σ with
    | file m hm =>
      simp only [Slot.dir, Slot.name, List.nil_append, List.singleton_append, List.cons.injEq] at h
      exact hm h.2.1
    | image m => simp [Slot.dir] at h

lemma above_holder {p : Place} {a : Name} {σ : Slot} (h : p <+: holder loc a σ) :
    p <+: users loc ∨ p = users loc ++ [a] ∨ p = users loc ++ [a, images] := by
  cases σ with
  | file n hn =>
    rcases List.prefix_concat_iff.mp h with hp | hp
    · exact Or.inr (Or.inl hp)
    · exact Or.inl hp
  | image n =>
    have hsplit : holder loc a (.image n) = users loc ++ [a] ++ [images] := by simp [holder, Slot.dir]
    rw [hsplit] at h
    rcases List.prefix_concat_iff.mp h with hp | hp
    · exact Or.inr (Or.inr (by simpa using hp))
    · rcases List.prefix_concat_iff.mp hp with hp | hp
      · exact Or.inr (Or.inl hp)
      · exact Or.inl hp

lemma Represents.holder_not_barred (h : Represents loc disk s) (a : Name) (σ : Slot) :
    disk.barred (holder loc a σ) = false := by
  rw [Tree.barred_eq_false]
  intro p hp
  have hkind : ∀ e : Option (Entry Bytes), (∀ data, e ≠ some (.file data)) → e = some .dir ∨ e = none := by
    intro e he
    cases e with
    | none => exact Or.inr rfl
    | some e => cases e with
      | dir => exact Or.inl rfl
      | file data => exact absurd rfl (he data)
  rcases above_holder hp with hp | rfl | rfl
  · exact Tree.barred_eq_false.mp h.clear p hp
  · exact hkind _ (h.user a)
  · exact hkind _ (h.images a)

lemma user_above_holder {a b : Name} {σ : Slot} : users loc ++ [b] <+: holder loc a σ ↔ b = a := by
  rw [holder, List.prefix_append_right_inj, List.cons_prefix_cons]
  simp

/-- Making the directory of a slot makes the address known and touches no file. -/
lemma Represents.dirs (h : Represents loc disk s) (a : Name) (σ : Slot) :
    ∃ disk', disk.createDirAll (holder loc a σ) = .ok disk' ∧ Represents loc disk' (s.know a) ∧
      disk'.entry (holder loc a σ) = some .dir := by
  obtain ⟨disk', hok, hentry⟩ := Tree.createDirAll_ok (h.holder_not_barred a σ)
  have hkeeps : ∀ p, (∀ data, disk.entry p ≠ some (.file data)) →
      ∀ data, disk'.entry p ≠ some (.file data) := by
    intro p hp data
    rw [hentry]
    split
    · simp
    · exact hp data
  refine ⟨disk', hok, ?_, by rw [hentry, if_pos List.prefix_rfl]⟩
  constructor
  · rw [Tree.barred_eq_false]
    intro p hp
    rw [hentry]
    split
    · exact Or.inl rfl
    · exact Tree.barred_eq_false.mp h.clear p hp
  · intro b
    simp only [hentry, user_above_holder]
    by_cases hb : b = a
    · simp [Shelf.know, hb]
    · simp [Shelf.know, hb, h.known b]
  · exact fun b => hkeeps _ (h.user b)
  · exact fun b => hkeeps _ (h.images b)
  · intro b τ
    rw [hentry, if_neg (place_not_above b a τ σ)]
    exact h.file b τ

lemma Represents.replaced (h : Represents loc disk s) {a : Name} {σ : Slot} {e : Option Bytes}
    {file : Name → Slot → Option Bytes}
    (hentry : ∀ p, disk'.entry p = if p = place loc a σ then e.map .file else disk.entry p)
    (hfile : ∀ b τ, file b τ = if b = a ∧ τ = σ then e else s.file b τ) :
    Represents loc disk' { s with file := file } := by
  have hother : ∀ p, p ≠ place loc a σ → disk'.entry p = disk.entry p :=
    fun p hp => by rw [hentry, if_neg hp]
  constructor
  · rw [Tree.barred_eq_false]
    intro p hp
    have hne : p ≠ place loc a σ := by
      rintro rfl
      exact place_not_above a a σ σ (hp.trans (List.prefix_append _ _))
    rw [hother p hne]
    exact Tree.barred_eq_false.mp h.clear p hp
  · intro b
    rw [hother _ (place_ne_user a b σ)]
    exact h.known b
  · intro b
    rw [hother _ (place_ne_user a b σ)]
    exact h.user b
  · intro b
    rw [hother _ (place_ne_images a b σ)]
    exact h.images b
  · intro b τ
    simp only [hentry, hfile, place_inj]
    split
    · rfl
    · exact h.file b τ

lemma Represents.write (h : Represents loc disk s) {a : Name} {σ : Slot} (ha : a ∈ s.known)
    (hdir : disk.entry (holder loc a σ) = some .dir) (data : Bytes) :
    ∃ disk', disk.writeFile (place loc a σ) data = .ok disk' ∧ Represents loc disk' (s.put a σ data) := by
  have hparent : (place loc a σ).dropLast = holder loc a σ := by rw [place_eq, List.dropLast_concat]
  have hfree : disk.entry (place loc a σ) ≠ some .dir := by
    rw [h.file]
    cases s.file a σ <;> simp
  obtain ⟨disk', hok, hentry⟩ := Tree.writeFile_ok (by rwa [hparent]) hfree data
  refine ⟨disk', hok, ?_⟩
  have hput : s.put a σ data = { s with file := (s.put a σ data).file } := by
    simp [Shelf.put, Set.insert_eq_of_mem ha]
  rw [hput]
  exact h.replaced (e := some data) hentry (fun b τ => Shelf.put_file s a b σ τ data)

/-- a call on the disk that answers as the shelf does, and leaves a disk that represents the shelf -/
def Answers {α : Type} (loc : Location) (m : Call α) (disk : Disk) (answer : Except Fault α × Shelf) : Prop :=
  ∃ disk', m.on disk = (answer.1, disk') ∧ Represents loc disk' answer.2

section Rules

variable {α β : Type} {m : Call α} {s' : Shelf}

lemma Answers.bind {a : α} {f : α → Call β} {answer : Except Fault β × Shelf}
    (h : Answers loc m disk (.ok a, s')) (hf : ∀ disk', Represents loc disk' s' → Answers loc (f a) disk' answer) :
    Answers loc (m >>= f) disk answer := by
  obtain ⟨disk₁, hm, h₁⟩ := h
  obtain ⟨disk₂, hfa, h₂⟩ := hf disk₁ h₁
  exact ⟨disk₂, by rw [on_bind_ok hm, hfa], h₂⟩

lemma Answers.bind_error {e : Fault} {f : α → Call β} (h : Answers loc m disk (.error e, s')) :
    Answers loc (m >>= f) disk (.error e, s') := by
  obtain ⟨disk₁, hm, h₁⟩ := h
  exact ⟨disk₁, on_bind_error hm, h₁⟩

lemma Represents.answers_pure (h : Represents loc disk s) (a : α) : Answers loc (pure a) disk (.ok a, s) :=
  ⟨disk, on_pure a, h⟩

lemma Represents.answers_look (h : Represents loc disk s) (f : Disk → Except Fault α) :
    Answers loc (look f) disk (f disk, s) := by
  refine ⟨disk, ?_, h⟩
  cases hf : f disk with
  | ok a => exact on_look_ok hf
  | error e => exact on_look_error hf

lemma Answers.map {answer : Except Fault α × Shelf} (h : Answers loc m disk answer) (f : α → β) :
    Answers loc (m >>= fun a => pure (f a)) disk (answer.1.map f, answer.2) := by
  obtain ⟨r, s'⟩ := answer
  cases r with
  | ok a => exact h.bind (fun disk' h' => h'.answers_pure (f a))
  | error e => exact h.bind_error

end Rules

lemma Represents.storeFile (h : Represents loc disk s) (a : Name) (σ : Slot) (data : Bytes) :
    Answers loc (storeFile loc a.val σ.relPath data) disk (.ok (), s.put a σ data) := by
  obtain ⟨disk₁, hdirs, h₁, hdir⟩ := h.dirs a σ
  obtain ⟨disk₂, hwrite, h₂⟩ := h₁.write (Set.mem_insert a s.known) hdir data
  refine ⟨disk₂, ?_, by simpa [Shelf.put, Shelf.know] using h₂⟩
  simp only [UserDirectory.storeFile, parent_slot, resolve_slot]
  rw [on_bind_ok (on_change_ok (f := fun disk => disk.createDirAll (holder loc a σ)) hdirs)]
  exact on_change_ok hwrite

lemma Represents.place_not_barred (h : Represents loc disk s) {a : Name} {σ : Slot}
    (hnone : s.file a σ = none) : disk.barred (place loc a σ) = false := by
  rw [Tree.barred_eq_false]
  intro p hp
  rw [place_eq] at hp
  rcases List.prefix_concat_iff.mp hp with rfl | hp
  · rw [← place_eq, h.file, hnone]
    exact Or.inr rfl
  · exact Tree.barred_eq_false.mp (h.holder_not_barred a σ) p hp

lemma Represents.read (h : Represents loc disk s) (a : Name) (σ : Slot) :
    disk.readFile (place loc a σ) = match s.file a σ with
      | some data => .ok data
      | none => .error .notFound := by
  have hfile := h.file a σ
  cases hs : s.file a σ with
  | some data => exact Tree.readFile_file (by rw [hfile, hs]; rfl)
  | none => exact Tree.readFile_none (by rw [hfile, hs]; rfl) (h.place_not_barred hs)

lemma Represents.readFile (h : Represents loc disk s) (a : Name) (σ : Slot) :
    readFile loc disk a.val σ.relPath = .ok (s.file a σ) := by
  rw [UserDirectory.readFile, resolve_slot, h.read]
  cases s.file a σ <;> rfl

lemma Represents.deleteFile (h : Represents loc disk s) (a : Name) (σ : Slot) :
    Answers loc (deleteFile loc a.val σ.relPath) disk (.ok (s.file a σ).isSome, s.remove a σ) := by
  have hfile := h.file a σ
  simp only [Answers, UserDirectory.deleteFile, resolve_slot]
  rw [on_bind_ok on_get]
  cases hs : s.file a σ with
  | some data =>
    rw [hs] at hfile
    obtain ⟨disk', hok, hentry⟩ := Tree.removeFile_ok hfile
    refine ⟨disk', by rw [hok]; exact (on_bind_ok (on_set disk')).trans (on_pure true), ?_⟩
    exact h.replaced (e := none) hentry (fun b τ => Shelf.remove_file s a b σ τ)
  | none =>
    rw [hs] at hfile
    refine ⟨disk, by rw [Tree.removeFile_none hfile (h.place_not_barred hs)]; exact on_pure _, ?_⟩
    have hsame : s.remove a σ = s := by
      have hf : ∀ b τ, (s.remove a σ).file b τ = s.file b τ := by
        intro b τ
        rw [Shelf.remove_file]
        split
        · next hb => rw [hb.1, hb.2, hs]
        · rfl
      rw [Shelf.remove] at hf ⊢
      congr 1
      funext b τ
      exact hf b τ
    rwa [hsame]

end Representation

variable (chats : Json (List ChatMessage)) (profiles : Json UserProfile)

inductive Operation
  | storeFile (a : Name) (σ : Slot) (data : Bytes)
  | deleteFile (a : Name) (σ : Slot)
  | saveImage (a name : Name) (data : Bytes)
  | deleteImage (a name : Name)
  | saveProfile (a : Name) (profile : UserProfile)
  | addMessage (now : ℤ) (a : Name) (content : String) (isSent : Bool) (status : String)
  | updateLastSentStatus (a : Name) (newStatus : String)
  | markAsRead (a : Name)

inductive Reply
  | done
  | existed (b : Bool)
  | message (m : ChatMessage)

def perform : Operation → Call Reply
  | .storeFile a σ data => do
    storeFile loc a.val σ.relPath data
    return .done
  | .deleteFile a σ => do return .existed (← deleteFile loc a.val σ.relPath)
  | .saveImage a name data => do
    saveImage loc a.val name.val data
    return .done
  | .deleteImage a name => do return .existed (← deleteImage loc a.val name.val)
  | .saveProfile a profile => do
    saveProfile loc profiles a.val profile
    return .done
  | .addMessage now a content isSent status => do
    return .message (← addMessage loc chats now a.val content isSent status)
  | .updateLastSentStatus a newStatus => do
    updateLastSentStatus loc chats a.val newStatus
    return .done
  | .markAsRead a => do
    markAsRead loc chats a.val
    return .done

def serve (disk : Disk) (o : Operation) : Except Fault Reply × Disk := (perform loc chats profiles o).on disk

namespace Shelf

def messages (s : Shelf) (a : Name) : Except Fault (List ChatMessage) :=
  match s.file a .chat with
  | some data => parseMessages chats data
  | none => .ok []

def putText (s : Shelf) (a : Name) (σ : Slot) (text : Option String) : Except Fault Unit × Shelf :=
  match text with
  | some text => (.ok (), s.put a σ (utf8 text))
  | none => (.error .invalidData, s)

/-- the chat of an address edited, if it can be read and there is anything to edit -/
def editChat (s : Shelf) (a : Name) (changes : List ChatMessage → Bool)
    (edit : List ChatMessage → List ChatMessage) : Except Fault Unit × Shelf :=
  match s.messages chats a with
  | .error e => (.error e, s)
  | .ok msgs => if changes msgs then s.putText a .chat (chats.toStringPretty (edit msgs)) else (.ok (), s)

def sendMessage (s : Shelf) (now : ℤ) (a : Name) (content : String) (isSent : Bool) (status : String) :
    Except Fault ChatMessage × Shelf :=
  match s.messages chats a with
  | .error e => (.error e, s.know a)
  | .ok msgs =>
    let nextId := (msgs.getLast?.map (fun m => m.id + 1)).getD 1
    let msg : ChatMessage := ⟨nextId, a.val, content, isSent, status, now⟩
    let answer := (s.know a).putText a .chat (chats.toStringPretty (msgs ++ [msg]))
    (answer.1.map (fun _ => msg), answer.2)

def replies {α : Type} (answer : Except Fault α × Shelf) (f : α → Reply) : Except Fault Reply × Shelf :=
  (answer.1.map f, answer.2)

def serve (s : Shelf) : Operation → Except Fault Reply × Shelf
  | .storeFile a σ data => (.ok .done, s.put a σ data)
  | .deleteFile a σ => (.ok (.existed (s.file a σ).isSome), s.remove a σ)
  | .saveImage a name data => (.ok .done, s.put a (.image name) data)
  | .deleteImage a name => (.ok (.existed (s.file a (.image name)).isSome), s.remove a (.image name))
  | .saveProfile a profile =>
    replies ((s.know a).putText a .profile (profiles.toStringPretty profile)) (fun _ => .done)
  | .addMessage now a content isSent status =>
    replies (s.sendMessage chats now a content isSent status) .message
  | .updateLastSentStatus a newStatus =>
    replies (s.editChat chats a (fun msgs => (lastSent msgs).isSome)
      (fun msgs => UserStore.updateLastSentStatus msgs newStatus)) (fun _ => .done)
  | .markAsRead a =>
    replies (s.editChat chats a (fun msgs => msgs.any Files.isUnread) UserStore.markAsRead) (fun _ => .done)

end Shelf

section Operations

variable {loc chats profiles} {disk : Disk} {s : Shelf}

lemma Represents.readMessagesRaw (h : Represents loc disk s) (a : Name) :
    readMessagesRaw loc chats disk a.val = s.messages chats a := by
  have hplace : resolve loc.cwd (chatPath loc.basePath a.val) = place loc a .chat := resolve_slot loc a .chat
  rw [UserDirectory.readMessagesRaw, hplace, h.read, Shelf.messages]
  cases s.file a .chat <;> rfl

lemma Represents.ensureUserDir (h : Represents loc disk s) (a : Name) :
    Answers loc (ensureUserDir loc a.val) disk (.ok (), s.know a) := by
  obtain ⟨disk', hok, hrep, -⟩ := h.dirs a .chat
  refine ⟨disk', on_change_ok ?_, hrep⟩
  rw [resolve_user]
  exact hok

lemma Represents.ensureImagesDir (h : Represents loc disk s) (a name : Name) :
    Answers loc (ensureImagesDir loc a.val) disk (.ok (), s.know a) := by
  obtain ⟨disk', hok, hrep, -⟩ := h.dirs a (.image name)
  refine ⟨disk', on_change_ok ?_, hrep⟩
  rw [resolve_images]
  exact hok

lemma Shelf.know_put (s : Shelf) (a : Name) (σ : Slot) (data : Bytes) :
    (s.know a).put a σ data = s.put a σ data := by
  simp [Shelf.know, Shelf.put]

lemma Represents.storeJson {α : Type} (json : Json α) (h : Represents loc disk s) (a : Name) (σ : Slot)
    (value : α) : Answers loc (storeJson loc json a.val σ.relPath value) disk
      (s.putText a σ (json.toStringPretty value)) := by
  rw [UserDirectory.storeJson]
  cases json.toStringPretty value with
  | some data => exact h.storeFile a σ (utf8 data)
  | none => exact ⟨disk, on_throw _, h⟩

lemma Represents.writeMessagesRaw (h : Represents loc disk s) (a : Name) (msgs : List ChatMessage) :
    Answers loc (writeMessagesRaw loc chats a.val msgs) disk
      (s.putText a .chat (chats.toStringPretty msgs)) := by
  rw [UserDirectory.writeMessagesRaw]
  cases chats.toStringPretty msgs with
  | some data =>
    have hparent : parent loc.cwd (chatPath loc.basePath a.val) = some (holder loc a .chat) :=
      parent_slot loc a .chat
    have hplace : resolve loc.cwd (chatPath loc.basePath a.val) = place loc a .chat :=
      resolve_slot loc a .chat
    obtain ⟨disk₁, hdirs, h₁, hdir⟩ := h.dirs a .chat
    obtain ⟨disk₂, hwrite, h₂⟩ := h₁.write (Set.mem_insert a s.known) hdir (utf8 data)
    refine ⟨disk₂, ?_, by simpa [Shelf.putText, Shelf.know_put] using h₂⟩
    simp only [hparent, hplace]
    have hchange := on_change_ok (f := fun disk => (disk.createDirAll (holder loc a .chat)).mapError
      (fun _ => Failure.other)) (by rw [hdirs]; rfl)
    rw [on_bind_ok hchange]
    exact on_change_ok (by rw [hwrite]; rfl)
  | none => exact ⟨disk, on_throw _, h⟩

lemma Represents.editChat (h : Represents loc disk s) (a : Name) (changes : List ChatMessage → Bool)
    (edit : List ChatMessage → List ChatMessage) :
    Answers loc (look (fun disk => UserDirectory.readMessagesRaw loc chats disk a.val) >>= fun msgs =>
      if changes msgs then UserDirectory.writeMessagesRaw loc chats a.val (edit msgs) else pure ()) disk
      (s.editChat chats a changes edit) := by
  have hlook := h.answers_look (fun disk => UserDirectory.readMessagesRaw loc chats disk a.val)
  rw [h.readMessagesRaw] at hlook
  rw [Shelf.editChat]
  cases hmsgs : s.messages chats a with
  | error e =>
    rw [hmsgs] at hlook
    exact hlook.bind_error
  | ok msgs =>
    rw [hmsgs] at hlook
    refine hlook.bind (fun disk' h' => ?_)
    by_cases hc : changes msgs = true
    · simp only [hc, if_true]
      exact h'.writeMessagesRaw a (edit msgs)
    · simp only [hc]
      exact h'.answers_pure ()

lemma Represents.addMessage (h : Represents loc disk s) (now : ℤ) (a : Name) (content : String)
    (isSent : Bool) (status : String) : Answers loc (addMessage loc chats now a.val content isSent status) disk
      (s.sendMessage chats now a content isSent status) := by
  refine (h.ensureUserDir a).bind (fun disk₁ h₁ => ?_)
  have hlook := h₁.answers_look (fun disk => UserDirectory.readMessagesRaw loc chats disk a.val)
  rw [h₁.readMessagesRaw] at hlook
  have hsame : (s.know a).messages chats a = s.messages chats a := rfl
  rw [hsame] at hlook
  rw [Shelf.sendMessage]
  cases hmsgs : s.messages chats a with
  | error e =>
    rw [hmsgs] at hlook
    exact hlook.bind_error
  | ok msgs =>
    rw [hmsgs] at hlook
    exact hlook.bind (fun disk₂ h₂ => (h₂.writeMessagesRaw a _).map _)

lemma Represents.saveImage (h : Represents loc disk s) (a name : Name) (data : Bytes) :
    Answers loc (saveImage loc a.val name.val data) disk (.ok (), s.put a (.image name) data) := by
  refine (h.ensureImagesDir a name).bind (fun disk' h' => ?_)
  rw [← Shelf.know_put]
  exact h'.storeFile a (.image name) data

lemma Represents.saveProfile (h : Represents loc disk s) (a : Name) (profile : UserProfile) :
    Answers loc (saveProfile loc profiles a.val profile) disk
      ((s.know a).putText a .profile (profiles.toStringPretty profile)) :=
  (h.ensureUserDir a).bind (fun _ h' => h'.storeJson profiles a .profile profile)

lemma Represents.updateLastSentStatus (h : Represents loc disk s) (a : Name) (newStatus : String) :
    Answers loc (updateLastSentStatus loc chats a.val newStatus) disk
      (s.editChat chats a (fun msgs => (lastSent msgs).isSome)
        (fun msgs => UserStore.updateLastSentStatus msgs newStatus)) := h.editChat a _ _

lemma Represents.markAsRead (h : Represents loc disk s) (a : Name) :
    Answers loc (markAsRead loc chats a.val) disk
      (s.editChat chats a (fun msgs => msgs.any Files.isUnread) UserStore.markAsRead) := h.editChat a _ _

lemma serve_follows :
    Service.Follows (Represents loc) (serve loc chats profiles) (Shelf.serve chats profiles) := by
  intro disk s o h
  have hanswers : Answers loc (perform loc chats profiles o) disk (s.serve chats profiles o) := by
    cases o with
    | storeFile a σ data => exact (h.storeFile a σ data).map (fun _ => Reply.done)
    | deleteFile a σ => exact (h.deleteFile a σ).map Reply.existed
    | saveImage a name data => exact (h.saveImage a name data).map (fun _ => Reply.done)
    | deleteImage a name => exact (h.deleteFile a (.image name)).map Reply.existed
    | saveProfile a profile => exact (h.saveProfile a profile).map (fun _ => Reply.done)
    | addMessage now a content isSent status =>
      exact (h.addMessage now a content isSent status).map Reply.message
    | updateLastSentStatus a newStatus => exact (h.updateLastSentStatus a newStatus).map (fun _ => Reply.done)
    | markAsRead a => exact (h.markAsRead a).map (fun _ => Reply.done)
  obtain ⟨disk', hon, hrep⟩ := hanswers
  rw [serve, hon]
  exact ⟨rfl, hrep⟩

end Operations

end ZzP2p.Messaging.UserDirectory
