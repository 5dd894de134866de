import JspEndpoint.FileTree
import Mathlib.Data.List.Basic

/-!
What writing a file does to a tree. A file is written only into a directory, and never in place of
one, so the entry at one place changes and every other entry is as before. Read by its path, the
file holds what was written. A path that leads to a file ends in the name of the file.
-/

namespace JspEndpoint

theorem bind_eq_ok {ε α β : Type} {x : Except ε α} {f : α → Except ε β} {b : β}
    (h : (x >>= f) = .ok b) : ∃ a, x = .ok a ∧ f a = .ok b := by
  cases x with
  | error e => cases h
  | ok a => exact ⟨a, rfl, h⟩

theorem lookup_filter_ne {α β : Type} [DecidableEq α] [BEq α] [LawfulBEq α] {key other : α}
    (ne : other ≠ key) (entries : List (α × β)) :
    (entries.filter (·.1 ≠ key)).lookup other = entries.lookup other := by
  induction entries with
  | nil => rfl
  | cons e entries ih =>
    obtain ⟨at_e, entry⟩ := e
    by_cases same : at_e = key
    · have other_key : (other == at_e) = false := by simpa [same] using ne
      rw [List.filter_cons_of_neg (by simpa using same), ih, List.lookup_cons, other_key]
    · rw [List.filter_cons_of_pos (by simpa using same), List.lookup_cons, List.lookup_cons, ih]

namespace FileTree

variable {tree : FileTree} {place parent : List Text}

/-- The entry shows that a place is a directory: it is one, or it lies below the place. -/
def Shows (place : List Text) (e : List Text × Entry) : Prop :=
  e.1 = place ∧ e.2 = .directory ∨ e.1 ≠ place ∧ place <+: e.1

theorem isDirectory_iff :
    tree.isDirectory place ↔ ((∀ name ∈ place, name = above) ∨ place = [root]) ∨
      ∃ e ∈ tree.entries, Shows place e := by
  simp only [isDirectory, Bool.or_eq_true, List.all_eq_true, decide_eq_true_eq, List.any_eq_true]
  refine or_congr Iff.rfl (exists_congr fun e => and_congr_right fun _ => ?_)
  by_cases same : e.1 = place <;> simp [Shows, same]

theorem isDirectory_of_all_above (h : ∀ name ∈ place, name = above) : tree.isDirectory place :=
  isDirectory_iff.2 (.inl (.inl h))

theorem Shows.prefix_of {e : List Text × Entry} (h : Shows place e) : place <+: e.1 := by
  rcases h with ⟨same, -⟩ | ⟨-, below⟩
  · exact same ▸ List.prefix_rfl
  · exact below

theorem isDirectory_of_above (h : tree.isDirectory parent) (starts : place <+: parent) :
    tree.isDirectory place := by
  obtain ⟨below, rfl⟩ := starts
  by_cases nothing : below = []
  · rwa [nothing, List.append_nil] at h
  · rw [isDirectory_iff] at h ⊢
    rcases h with (all_above | is_root) | ⟨e, he, shows⟩
    · exact .inl (.inl fun name hn => all_above name (List.mem_append_left below hn))
    · obtain rfl : place = [] := by
        cases place with
        | nil => rfl
        | cons name place => simp_all
      exact .inl (.inl (by simp))
    · have longer := shows.prefix_of
      refine .inr ⟨e, he, .inr ⟨?_, (List.prefix_append place below).trans longer⟩⟩
      rintro same
      have size := longer.length_le
      rw [same, List.length_append] at size
      exact nothing (List.eq_nil_of_length_eq_zero (by omega))

theorem isDirectory_of_entryAt? (h : tree.entryAt? place = some .directory) :
    tree.isDirectory place := by
  unfold entryAt? at h
  split at h
  · next found => exact found
  · obtain ⟨front, back, split, -⟩ := List.lookup_eq_some_iff.1 h
    exact isDirectory_iff.2 (.inr ⟨(place, .directory), by simp [split], .inl ⟨rfl, rfl⟩⟩)

theorem entryAt?_of_isDirectory (h : tree.isDirectory place) :
    tree.entryAt? place = some .directory := by
  simp [entryAt?, h]

/-- The tree with a file at a place, instead of what is there. -/
def put (tree : FileTree) (place : List Text) (t : Text) : FileTree :=
  ⟨(place, .file (.text t)) :: tree.entries.filter (·.1 ≠ place)⟩

theorem write_eq_ok_iff {path t : Text} {after : FileTree} :
    tree.write path t = .ok after ↔
      ∃ place, tree.target path = .ok place ∧ after = tree.put place t := by
  cases target : tree.target path with
  | error e => simp [write, target, bind, Except.bind]
  | ok place => simp [write, target, bind, Except.bind, pure, Except.pure, put, eq_comm]

/-- A step that leads to something by its name. -/
def IsName (step : Text) : Prop := step ≠ [] ∧ step ≠ stay ∧ step ≠ above

theorem steps_of_lastStep? {path name : Text} {before : List Text}
    (h : lastStep? path = some (before, name, false)) :
    steps path = before ++ [name] ∧ name ≠ [] := by
  unfold lastStep? at h
  generalize trailing : ((steps path).reverse.takeWhile List.isEmpty).length = n at h
  simp only at h
  split at h
  · cases h
  · next last rest left =>
    obtain ⟨rfl, rfl, none_trailing⟩ : rest.reverse = before ∧ last = name ∧ n = 0 := by
      simpa using h
    subst none_trailing
    rw [List.drop_zero] at left
    refine ⟨by simpa using congrArg List.reverse left, ?_⟩
    rintro rfl
    simp [left] at trailing

theorem target_eq_ok {path : Text} (h : tree.target path = .ok place) :
    ∃ before name parent, path ≠ [] ∧ steps path = before ++ [name] ∧ IsName name ∧
      tree.walk (start path) before = .ok parent ∧ tree.isDirectory parent ∧
      place = parent ++ [name] ∧ ¬tree.isDirectory place := by
  unfold target at h
  split at h
  · cases h
  · next some_path =>
    split at h
    · cases h
    · next before name slash last =>
      cases walked : tree.walk (start path) before with
      | error e => simp [walked, bind, Except.bind] at h
      | ok parent =>
        simp only [walked, bind, Except.bind] at h
        split at h
        · cases h
        · cases h
        · next found =>
          split at h
          · cases h
          · next free =>
            obtain rfl := Except.ok.inj h
            simp only [not_or] at free
            obtain ⟨no_slash, not_stay, not_above, not_directory⟩ := free
            obtain rfl : slash = false := by simpa using no_slash
            obtain ⟨split, ne⟩ := steps_of_lastStep? last
            exact ⟨before, name, parent, by simpa using some_path, split, ⟨ne, not_stay, not_above⟩,
              walked, isDirectory_of_entryAt? found, rfl, not_directory⟩

section Put

variable {name t : Text} {other : List Text}

theorem isDirectory_put (inside : tree.isDirectory parent) (ne : other ≠ parent ++ [name]) :
    (tree.put (parent ++ [name]) t).isDirectory other = tree.isDirectory other := by
  rw [Bool.eq_iff_iff, isDirectory_iff, isDirectory_iff]
  constructor
  · rintro (plain | ⟨e, he, shows⟩)
    · exact .inl plain
    · rcases List.mem_cons.1 he with rfl | he
      · have starts : other <+: parent := by
          rcases List.prefix_concat_iff.1 shows.prefix_of with same | starts
          · exact absurd same ne
          · exact starts
        exact isDirectory_iff.1 (isDirectory_of_above inside starts)
      · exact .inr ⟨e, (List.mem_filter.1 he).1, shows⟩
  · rintro (plain | ⟨e, he, shows⟩)
    · exact .inl plain
    · by_cases same : e.1 = parent ++ [name]
      · -- the file that is replaced lies where the new one does
        have below : other <+: parent ++ [name] := same ▸ shows.prefix_of
        exact .inr ⟨(parent ++ [name], .file (.text t)), by simp [put], .inr ⟨ne.symm, below⟩⟩
      · exact .inr ⟨e, by simp [put, he, same], shows⟩

theorem isDirectory_put_self (free : ¬tree.isDirectory place) :
    ¬(tree.put place t).isDirectory place := by
  rw [isDirectory_iff] at free ⊢
  rintro (plain | ⟨e, he, shows⟩)
  · exact free (.inl plain)
  · rcases List.mem_cons.1 he with rfl | he
    · simp [Shows] at shows
    · exact free (.inr ⟨e, (List.mem_filter.1 he).1, shows⟩)

theorem entryAt?_put (inside : tree.isDirectory parent) (ne : other ≠ parent ++ [name]) :
    (tree.put (parent ++ [name]) t).entryAt? other = tree.entryAt? other := by
  have other_key : (other == parent ++ [name]) = false := by simpa using ne
  rw [entryAt?, entryAt?, isDirectory_put inside ne, put, List.lookup_cons, other_key]
  simp only [lookup_filter_ne ne]

theorem entryAt?_put_self (free : ¬tree.isDirectory place) :
    (tree.put place t).entryAt? place = some (.file (.text t)) := by
  rw [entryAt?, if_neg (isDirectory_put_self free), put, List.lookup_cons_self]

end Put

theorem walk_of_directories {after : FileTree}
    (keeps : ∀ {p}, tree.isDirectory p → after.isDirectory p) {goal : List Text} {path : List Text}
    (h : tree.walk place path = .ok goal) : after.walk place path = .ok goal := by
  induction path generalizing place with
  | nil => exact h
  | cons step rest ih =>
    rw [walk] at h ⊢
    split at h
    · cases h
    · cases h
    · next found =>
      have stays := keeps (isDirectory_of_entryAt? found)
      rw [entryAt?_of_isDirectory stays]
      simp only
      split_ifs at h ⊢ <;> exact ih h

theorem walk_append (tree : FileTree) (place front back : List Text) :
    tree.walk place (front ++ back) = tree.walk place front >>= (tree.walk · back) := by
  induction front generalizing place with
  | nil => rfl
  | cons step rest ih =>
    rw [List.cons_append, walk, walk]
    split
    · rfl
    · rfl
    · split_ifs <;> exact ih _

theorem walk_name {name : Text} (isName : IsName name) (inside : tree.isDirectory place) :
    tree.walk place [name] = .ok (place ++ [name]) := by
  obtain ⟨ne, not_stay, not_above⟩ := isName
  simp [walk, entryAt?_of_isDirectory inside, ne, not_stay, not_above]

/-- The entries of two trees are the same at every other place. -/
def SameExcept (before : FileTree) (place : List Text) (after : FileTree) : Prop :=
  ∀ other, other ≠ place → after.entryAt? other = before.entryAt? other

theorem write_spec {path t : Text} {after : FileTree} (h : tree.write path t = .ok after) :
    ∃ place, tree.target path = .ok place ∧ tree.SameExcept place after ∧
      after.entryAt? place = some (.file (.text t)) ∧ after.read path = .ok t := by
  obtain ⟨place, target, rfl⟩ := write_eq_ok_iff.1 h
  obtain ⟨before, name, parent, some_path, split, isName, walked, inside, rfl, free⟩ :=
    target_eq_ok target
  have written := entryAt?_put_self (t := t) free
  refine ⟨parent ++ [name], target, fun other ne => entryAt?_put inside ne, written, ?_⟩
  have keeps : ∀ {p}, tree.isDirectory p → (tree.put (parent ++ [name]) t).isDirectory p := by
    intro p directory
    have ne : p ≠ parent ++ [name] := by
      rintro rfl
      exact free directory
    rwa [isDirectory_put inside ne]
  have leads : (tree.put (parent ++ [name]) t).walk (start path) (steps path) =
      .ok (parent ++ [name]) := by
    rw [split, walk_append, walk_of_directories keeps walked]
    exact walk_name isName (keeps inside)
  simp [read, find, some_path, leads, written, bind, Except.bind]

/-- Steps up stand before all names. -/
def Tidy (place : List Text) : Prop :=
  ∃ ups names, place = ups ++ names ∧ (∀ step ∈ ups, step = above) ∧ above ∉ names

theorem tidy_start (path : Text) : Tidy (start path) := by
  refine ⟨[], start path, rfl, by simp, ?_⟩
  unfold start
  split
  · decide
  · simp

theorem Tidy.all_above (h : Tidy place) (last : place.getLast? = some above) :
    ∀ step ∈ place, step = above := by
  obtain ⟨ups, names, rfl, all_ups, free⟩ := h
  rcases List.eq_nil_or_concat' names with rfl | ⟨names, name, rfl⟩
  · simpa using all_ups
  · obtain rfl : name = above := by simpa [← List.append_assoc] using last
    exact absurd (by simp) free

theorem Tidy.up (h : Tidy place) : Tidy (up place) := by
  unfold FileTree.up
  split
  · exact ⟨[above], [], rfl, by simp, by simp⟩
  · next name last =>
    split_ifs with is_root is_above
    · exact h
    · have all := h.all_above (is_above ▸ last)
      refine ⟨place ++ [above], [], by simp, ?_, by simp⟩
      simpa [or_imp, forall_and] using all
    · obtain ⟨ups, names, rfl, all_ups, free⟩ := h
      rcases List.eq_nil_or_concat' names with rfl | ⟨names, final, rfl⟩
      · rw [List.append_nil] at last
        exact absurd (all_ups name (List.mem_of_getLast? last)) is_above
      · refine ⟨ups, names, by simp [← List.append_assoc], all_ups, ?_⟩
        exact fun found => free (List.mem_append_left _ found)

/-- Going up from a directory leads to one. Without `Tidy` it need not: a step up after a name is a
place of its own, and nothing need lie there. -/
theorem isDirectory_up (h : Tidy place) (inside : tree.isDirectory place) :
    tree.isDirectory (FileTree.up place) := by
  unfold FileTree.up
  split
  · exact isDirectory_of_all_above (by simp)
  · next name last =>
    split_ifs with is_root is_above
    · exact inside
    · refine isDirectory_of_all_above ?_
      simpa [or_imp, forall_and] using h.all_above (is_above ▸ last)
    · exact isDirectory_of_above inside (List.dropLast_prefix place)

theorem Tidy.walk (h : Tidy place) {path goal : List Text}
    (walked : tree.walk place path = .ok goal) : Tidy goal := by
  induction path generalizing place with
  | nil =>
    obtain rfl := Except.ok.inj walked
    exact h
  | cons step rest ih =>
    rw [FileTree.walk] at walked
    split at walked
    · cases walked
    · cases walked
    · split_ifs at walked with stays goes_up
      · exact ih h walked
      · exact ih h.up walked
      · obtain ⟨ups, names, rfl, all_ups, free⟩ := h
        refine ih ⟨ups, names ++ [step], by simp, all_ups, ?_⟩ walked
        simpa [eq_comm] using ⟨free, goes_up⟩

theorem isName_of_walk {path : Text} {before : List Text} {step : Text}
    (walked : tree.walk (start path) (before ++ [step]) = .ok place)
    (file : ¬tree.isDirectory place) : IsName step := by
  rw [walk_append] at walked
  obtain ⟨middle, reached, last⟩ := bind_eq_ok walked
  have tidy := (tidy_start path).walk reached
  rw [walk] at last
  split at last
  · cases last
  · cases last
  · next found =>
    have inside := isDirectory_of_entryAt? found
    split_ifs at last with stays goes_up
    · obtain rfl := Except.ok.inj last
      exact absurd inside file
    · obtain rfl := Except.ok.inj last
      exact absurd (isDirectory_up tidy inside) file
    · simpa [IsName, not_or, and_assoc] using And.intro stays goes_up

theorem fileName?_of_steps {path name : Text} {before : List Text}
    (split : steps path = before ++ [name]) (isName : IsName name) :
    fileName? path = some name := by
  obtain ⟨ne, not_stay, not_above⟩ := isName
  have kept : (steps path).filter (!·.isEmpty) = before.filter (!·.isEmpty) ++ [name] := by
    simp [split, ne]
  rw [fileName?, kept]
  cases before.filter (!·.isEmpty) with
  | nil => simp [not_stay, not_above]
  | cons first rest =>
    have last : (first :: (rest ++ [name]).filter (· ≠ stay)).getLast? = some name := by
      simp [List.filter_append, not_stay, List.getLast?_cons]
    simp only [List.cons_append, last]
    simp [not_stay, not_above]

theorem fileName?_of_read {path t : Text} (h : tree.read path = .ok t) :
    ∃ before name, steps path = before ++ [name] ∧ fileName? path = some name := by
  obtain ⟨entry, found, text⟩ := bind_eq_ok h
  unfold find at found
  split at found
  · cases found
  · obtain ⟨place, walked, at_place⟩ := bind_eq_ok found
    have file : ¬tree.isDirectory place := by
      intro directory
      rw [entryAt?_of_isDirectory directory] at at_place
      obtain rfl := Except.ok.inj at_place
      cases text
    rcases List.eq_nil_or_concat' (steps path) with none_there | ⟨before, name, split⟩
    · rw [steps, Text.splitOn_eq] at none_there
      exact absurd none_there (List.splitOn_ne_nil '/' path)
    · rw [split] at walked
      exact ⟨before, name, split, fileName?_of_steps split (isName_of_walk walked file)⟩

end FileTree

end JspEndpoint
