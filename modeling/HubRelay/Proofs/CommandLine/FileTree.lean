import HubRelay.CommandLine.FileTree
import Mathlib.Data.List.Forall2

/-!
# A written file is read back

A path is followed through directories, in and out of them, before its last part names a file. Writing
the file puts it into the directory that the other parts lead to. It takes the place of no directory,
so every directory is where it was (`keeps_insert`), and the parts before the last lead to the same
place as before (`Keeps.walk_eq`). There the file is found under its name, so a path that has been
written to is read with what was written (`read_of_write`).

Following a path goes over trees that stand in each other: the things around a directory are kept with
the name by which it has been entered. They `Lead` to a tree when each is what stands under its name in
the next one, and then the names are a way to the tree from the outermost directory.
-/

set_option autoImplicit false

namespace HubRelay.FileTree

variable {t other : FileTree} {name : String} {names : List String} {entry : Entry}

/-! ### Entries -/

theorem get?_cons (name probe : String) (entry : Entry) (others : FileTree) :
    (cons name entry others).get? probe = if name = probe then some entry else others.get? probe := by
  cases entry <;> rfl

/-- An entry stands under its name, and what stands under others is left alone. -/
theorem get?_put (name probe : String) (entry : Entry) (t : FileTree) :
    (t.put name entry).get? probe = if name = probe then some entry else t.get? probe := by
  have hfirst (found : String) (first : Entry) (others : FileTree)
      (ih : (others.put name entry).get? probe =
        if name = probe then some entry else others.get? probe) :
      (if found = name then cons name entry others
        else cons found first (others.put name entry)).get? probe =
        if name = probe then some entry else (cons found first others).get? probe := by
    by_cases hfound : found = name
    · rw [if_pos hfound, get?_cons, get?_cons, hfound]
      split <;> rfl
    · rw [if_neg hfound, get?_cons, get?_cons, ih]
      by_cases hprobe : name = probe
      · rw [if_pos hprobe, if_neg (fun heq ↦ hfound (heq.trans hprobe.symm)), if_pos hprobe]
      · rw [if_neg hprobe, if_neg hprobe]
  induction t with
  | nil => rw [put, get?_cons]
  | file found content others ih => exact hfirst found (.file content) others ih
  | directory found inner others _ ih => exact hfirst found (.directory inner) others ih

theorem inside_eq_of_get? {found : FileTree} (h : t.get? name = some (.directory found)) :
    t.inside name = found := by
  rw [inside, h]

theorem get?_put_directory (name : String) (found t : FileTree) :
    (t.put name (.directory found)).get? name = some (.directory found) :=
  (get?_put name name _ t).trans (if_pos rfl)

/-- On the way to a place directories are entered, or made. -/
theorem insert_cons (entry : Entry) (name : String) (hnames : names ≠ []) (t : FileTree) :
    t.insert entry (name :: names) =
      t.put name (.directory ((t.inside name).insert entry names)) := by
  obtain ⟨next, rest, rfl⟩ := List.exists_cons_of_ne_nil hnames
  rw [insert]

/-! ### Directories at places -/

/-- What is in the directory at a place, given by the names on the way to it. -/
def insideAll : FileTree → List String → FileTree
  | t, [] => t
  | t, name :: rest => insideAll (t.inside name) rest

/-- There is a directory at a place. -/
def HasDirectory : FileTree → List String → Prop
  | _, [] => True
  | t, name :: rest => ∃ found, t.get? name = some (.directory found) ∧ HasDirectory found rest

/-- An entry is put at a place by putting it into the directory around the place. -/
theorem insideAll_insert (t : FileTree) (names : List String) (name : String) (entry : Entry) :
    (t.insert entry (names ++ [name])).insideAll names = (t.insideAll names).put name entry := by
  induction names generalizing t with
  | nil => rfl
  | cons first rest ih =>
    have hrest : rest ++ [name] ≠ [] := List.append_ne_nil_of_right_ne_nil rest (List.cons_ne_nil _ _)
    rw [List.cons_append, insert_cons entry first hrest, insideAll, insideAll,
      inside_eq_of_get? (get?_put_directory first _ t), ih]

theorem HasDirectory.exists_get?_eq (h : t.HasDirectory (names ++ [name])) :
    ∃ found, (t.insideAll names).get? name = some (.directory found) := by
  induction names generalizing t with
  | nil =>
    obtain ⟨found, hfound, -⟩ := h
    exact ⟨found, hfound⟩
  | cons first rest ih =>
    obtain ⟨found, hfound, h⟩ := h
    rw [insideAll, inside_eq_of_get? hfound]
    exact ih h

/-! ### Directories that stay -/

/-- Where the first tree has a directory, the second one has one. -/
def Keeps (t other : FileTree) : Prop := ∀ names, t.HasDirectory names → other.HasDirectory names

namespace Keeps

theorem exists_get?_eq (h : t.Keeps other) {found : FileTree}
    (hfound : t.get? name = some (.directory found)) :
    ∃ kept, other.get? name = some (.directory kept) ∧ found.Keeps kept := by
  obtain ⟨kept, hkept, -⟩ := h [name] ⟨found, hfound, trivial⟩
  refine ⟨kept, hkept, fun names hnames ↦ ?_⟩
  obtain ⟨same, hsame, hinside⟩ := h (name :: names) ⟨found, hfound, hnames⟩
  rw [hkept] at hsame
  cases hsame
  exact hinside

theorem inside (h : t.Keeps other) (name : String) : (t.inside name).Keeps (other.inside name) := by
  rw [FileTree.inside]
  split
  · next found hfound =>
    obtain ⟨kept, hkept, hkeeps⟩ := h.exists_get?_eq hfound
    rwa [inside_eq_of_get? hkept]
  · intro names hnames
    cases names with
    | nil => trivial
    | cons first rest =>
      obtain ⟨found, hfound, -⟩ := hnames
      cases hfound

end Keeps

/-- A file that takes the place of no directory leaves all directories where they are. -/
theorem keeps_insert (content : String) (h : ¬ t.HasDirectory names) :
    t.Keeps (t.insert (.file content) names) := by
  induction names generalizing t with
  | nil => exact absurd trivial h
  | cons name rest ih =>
    intro place hplace
    cases place with
    | nil => trivial
    | cons first more =>
      obtain ⟨found, hfound, hmore⟩ := hplace
      by_cases hfirst : name = first
      · subst hfirst
        have hinside : ¬ found.HasDirectory rest := fun hrest ↦ h ⟨found, hfound, hrest⟩
        have hrest : rest ≠ [] := fun hnil ↦ hinside (hnil ▸ trivial)
        rw [insert_cons _ name hrest, inside_eq_of_get? hfound]
        exact ⟨_, get?_put_directory name _ t, ih hinside more hmore⟩
      · have hother (entry : Entry) :
            (t.put name entry).get? first = some (.directory found) := by
          rw [get?_put, if_neg hfirst, hfound]
        cases rest with
        | nil => exact ⟨found, hother _, hmore⟩
        | cons next others => exact ⟨found, hother _, hmore⟩

/-! ### Moves through directories -/

/-- A part of a path leads from a directory to a directory. The trees around each are given with the
names by which the directories have been entered. -/
inductive Moves : String → FileTree → List (String × FileTree) → FileTree →
    List (String × FileTree) → Prop
  | stay {part : String} {t : FileTree} {outer : List (String × FileTree)}
    (hpart : part = "" ∨ part = ".") : Moves part t outer t outer
  | atTop {t : FileTree} : Moves ".." t [] t []
  | leave {t around : FileTree} {name : String} {further : List (String × FileTree)} :
    Moves ".." t ((name, around) :: further) around further
  | enter {part : String} {t found : FileTree} {outer : List (String × FileTree)}
    (hpart : ¬ (part = "" ∨ part = ".")) (hname : part ≠ "..")
    (hfound : t.get? part = some (.directory found)) : Moves part t outer found ((part, t) :: outer)

section Moves

variable {part : String} {found : FileTree} {outer further : List (String × FileTree)}

/-- After a move the rest of the path is followed from where it has led. -/
theorem Moves.walk_cons (h : Moves part t outer found further) (rest : List String) :
    t.walk outer (part :: rest) = found.walk further rest := by
  have hdots : ¬ (".." = "" ∨ ".." = ".") := by decide
  rw [walk.eq_def]
  dsimp only
  cases h with
  | stay hpart => rw [if_pos hpart]
  | atTop | leave => rw [if_neg hdots, if_pos rfl]
  | enter hpart hname hfound => rw [if_neg hpart, if_neg hname, hfound]

/-- Each part of a path that leads to a directory is a move. -/
theorem exists_moves_of_walk_cons {rest place : List String}
    (h : t.walk outer (part :: rest) = some (.directory place)) :
    ∃ found further, Moves part t outer found further := by
  unfold walk at h
  split at h
  · next hstay => exact ⟨_, _, .stay hstay⟩
  · next hpart =>
    split at h
    · next hleave =>
      subst hleave
      cases outer with
      | nil => exact ⟨_, _, .atTop⟩
      | cons entered further => exact ⟨_, _, .leave⟩
    · next hname =>
      split at h
      · next found hfound => exact ⟨_, _, .enter hpart hname hfound⟩
      · split at h
        · cases h
        · cases h
      · cases h

/-- The same directories have been entered, and each tree keeps the directories of the other one. -/
def KeepAll (outer outerOther : List (String × FileTree)) : Prop :=
  List.Forall₂ (fun a b ↦ a.1 = b.1 ∧ a.2.Keeps b.2) outer outerOther

/-- A move is made in the same way in trees that keep the directories. -/
theorem Moves.exists_moves_of_keeps {outerOther : List (String × FileTree)}
    (h : Moves part t outer found further) (ht : t.Keeps other) (houter : KeepAll outer outerOther) :
    ∃ kept furtherOther, Moves part other outerOther kept furtherOther ∧ found.Keeps kept ∧
      KeepAll further furtherOther := by
  cases h with
  | stay hpart => exact ⟨_, _, .stay hpart, ht, houter⟩
  | atTop =>
    cases houter
    exact ⟨_, _, .atTop, ht, .nil⟩
  | leave =>
    cases houter with
    | cons hhead htail => exact ⟨_, _, .leave, hhead.2, htail⟩
  | enter hpart hname hfound =>
    obtain ⟨kept, hkept, hkeeps⟩ := ht.exists_get?_eq hfound
    exact ⟨_, _, .enter hpart hname hkept, hkeeps, .cons ⟨rfl, ht⟩ houter⟩

/-- A path that leads to a directory leads there as long as the directories are kept. -/
theorem Keeps.walk_eq {outerOther : List (String × FileTree)} {all place : List String}
    (h : t.Keeps other) (houter : KeepAll outer outerOther)
    (hwalk : t.walk outer all = some (.directory place)) :
    other.walk outerOther all = some (.directory place) := by
  induction all generalizing t other outer outerOther with
  | nil =>
    have hnames : outerOther.map (·.1) = outer.map (·.1) := by
      clear hwalk
      induction houter with
      | nil => rfl
      | cons hhead _ ih => rw [List.map_cons, List.map_cons, hhead.1, ih]
    rw [walk] at hwalk ⊢
    rw [hnames]
    exact hwalk
  | cons part rest ih =>
    obtain ⟨found, further, hmoves⟩ := exists_moves_of_walk_cons hwalk
    obtain ⟨kept, furtherOther, hmovesOther, hkeeps, hfurther⟩ := hmoves.exists_moves_of_keeps h houter
    rw [hmoves.walk_cons] at hwalk
    rw [hmovesOther.walk_cons]
    exact ih hkeeps hfurther hwalk

theorem Keeps.follow_eq (h : t.Keeps other) {absolute : Bool} {all place : List String}
    (hfollow : t.follow absolute all = some (.directory place)) :
    other.follow absolute all = some (.directory place) := by
  cases absolute with
  | true => exact h.walk_eq .nil hfollow
  | false =>
    have houter : KeepAll [(home, t)] [(home, other)] := .cons ⟨rfl, h⟩ .nil
    exact (h.inside home).walk_eq houter hfollow

/-! ### Trees that stand in each other -/

/-- From the outermost directory the trees lead to the last one, each by its name. -/
def Lead (root : FileTree) : List (String × FileTree) → FileTree → Prop
  | [], t => t = root
  | (name, around) :: further, t => t = around.inside name ∧ Lead root further around

variable {root : FileTree}

theorem Lead.insideAll_eq (h : Lead root outer t) :
    root.insideAll (outer.map (·.1)).reverse = t := by
  have happend (first : FileTree) (names : List String) (last : String) :
      first.insideAll (names ++ [last]) = (first.insideAll names).inside last := by
    induction names generalizing first with
    | nil => rfl
    | cons name rest ih => exact ih (first.inside name)
  induction outer generalizing t with
  | nil => exact h.symm
  | cons entered further ih =>
    obtain ⟨hinside, haround⟩ := h
    rw [List.map_cons, List.reverse_cons, happend, ih haround, hinside]

theorem Lead.of_moves (h : Lead root outer t) (hmoves : Moves part t outer found further) :
    Lead root further found := by
  cases hmoves with
  | stay => exact h
  | atTop => exact h
  | leave => exact h.2
  | enter _ _ hfound => exact ⟨(inside_eq_of_get? hfound).symm, h⟩

/-- A path goes on from the directory that its first parts lead to. -/
theorem Lead.exists_walk_append {front place : List String} (h : Lead root outer t)
    (hwalk : t.walk outer front = some (.directory place)) :
    ∃ further found, Lead root further found ∧ (further.map (·.1)).reverse = place ∧
      ∀ rest, t.walk outer (front ++ rest) = found.walk further rest := by
  induction front generalizing t outer with
  | nil =>
    rw [walk] at hwalk
    cases hwalk
    exact ⟨outer, t, h, rfl, fun _ ↦ rfl⟩
  | cons part more ih =>
    obtain ⟨next, around, hmoves⟩ := exists_moves_of_walk_cons hwalk
    rw [hmoves.walk_cons] at hwalk
    obtain ⟨further, found, hlead, hplace, hrest⟩ := ih (h.of_moves hmoves) hwalk
    refine ⟨further, found, hlead, hplace, fun rest ↦ ?_⟩
    rw [List.cons_append, hmoves.walk_cons, hrest]

/-- After the parts that lead to a directory the rest of the path is followed from there. -/
theorem exists_follow_append {absolute : Bool} {front place : List String}
    (hfront : t.follow absolute front = some (.directory place)) :
    ∃ outer, (outer.map (·.1)).reverse = place ∧
      ∀ rest, t.follow absolute (front ++ rest) = (t.insideAll place).walk outer rest := by
  obtain ⟨start, entered, hstart, hfollow⟩ : ∃ start entered, Lead t entered start ∧
      ∀ all, t.follow absolute all = start.walk entered all := by
    cases absolute with
    | true => exact ⟨t, [], rfl, fun _ ↦ rfl⟩
    | false => exact ⟨t.inside home, [(home, t)], ⟨rfl, rfl⟩, fun _ ↦ rfl⟩
  rw [hfollow] at hfront
  obtain ⟨outer, found, hlead, rfl, hrest⟩ := hstart.exists_walk_append hfront
  refine ⟨outer, rfl, fun rest ↦ ?_⟩
  rw [hfollow, hrest, hlead.insideAll_eq]

end Moves

/-! ### Writing and reading -/

/-- A name is a part of its own. -/
theorem ne_of_isName (h : isName name = true) : ¬ (name = "" ∨ name = ".") ∧ name ≠ ".." := by
  simp only [isName, Bool.and_eq_true, bne_iff_ne, ne_eq] at h
  obtain ⟨⟨⟨⟨hempty, hdot⟩, hdots⟩, -⟩, -⟩ := h
  exact ⟨not_or.mpr ⟨hempty, hdot⟩, hdots⟩

/-- What it takes to write a file: the parts of its path before the last lead to a directory, the last
one is a name, and the whole path leads to no directory. -/
theorem exists_of_write_eq_some {path content : String} (h : t.write path content = some other) :
    isPath path = true ∧
      (∀ place, t.follow (isAbsolute path) (parts path) ≠ some (.directory place)) ∧
      ∃ front place name, parts path = front ++ [name] ∧ isName name = true ∧
        t.follow (isAbsolute path) front = some (.directory place) ∧
        other = t.insert (.file content) (place ++ [name]) := by
  unfold write at h
  dsimp only at h
  split at h
  · cases h
  · next hpath =>
    rw [Bool.not_eq_true, Bool.not_eq_false'] at hpath
    split at h
    · cases h
    · next hfree =>
      refine ⟨hpath, hfree, ?_⟩
      obtain ⟨names, hsite, rfl⟩ := Option.map_eq_some_iff.mp h
      unfold site? at hsite
      split at hsite
      · next name place hlast hfront =>
        split at hsite
        · next hname =>
          obtain rfl := Option.some.inj hsite
          have hparts : (parts path).dropLast ++ [name] = parts path :=
            List.dropLast_append_getLast? name hlast
          exact ⟨_, place, name, hparts.symm, hname, hfront, rfl⟩
        · cases hsite
      · cases hsite

/-- What is written at a path is read there. -/
theorem read_of_write {path content : String} (h : t.write path content = some other) :
    other.read path = some content := by
  obtain ⟨hpath, hfree, front, place, name, hparts, hname, hfront, rfl⟩ := exists_of_write_eq_some h
  obtain ⟨hpart, hdots⟩ := ne_of_isName hname
  -- No directory is lost, because there is none where the file comes to stand.
  have hnone : ¬ t.HasDirectory (place ++ [name]) := by
    intro hdirectory
    obtain ⟨found, hfound⟩ := hdirectory.exists_get?_eq
    obtain ⟨outer, -, hrest⟩ := exists_follow_append hfront
    have hmoves := (Moves.enter hpart hdots hfound : Moves name _ outer _ _).walk_cons []
    refine hfree ((name :: outer.map (·.1)).reverse) ?_
    rw [hparts, hrest, hmoves, walk]
    rfl
  have hsame := (keeps_insert content hnone).follow_eq hfront
  obtain ⟨outer, -, hrest⟩ := exists_follow_append hsame
  have hfile : ((t.insert (.file content) (place ++ [name])).insideAll place).get? name =
      some (.file content) := by
    rw [insideAll_insert, get?_put, if_pos rfl]
  have hnonempty : path.isEmpty = false := by
    refine Bool.eq_false_iff.mpr fun hempty ↦ hpart (.inl ?_)
    obtain rfl := String.isEmpty_iff.mp hempty
    have hlast := congrArg List.getLast? hparts
    rw [List.getLast?_concat] at hlast
    exact (Option.some.inj hlast).symm
  have hfollow : (t.insert (.file content) (place ++ [name])).follow (isAbsolute path)
      (parts path) = some (.file ((name :: outer.map (·.1)).reverse) content) := by
    rw [hparts, hrest, walk.eq_def]
    dsimp only
    rw [if_neg hpart, if_neg hdots, hfile]
    rfl
  rw [read, find, hnonempty, hpath]
  simp only [Bool.not_true, Bool.or_false, Bool.false_eq_true, if_false, hfollow]

/-- Whether a file can be written does not depend on its content. -/
theorem isSome_write (t : FileTree) (path content other : String) :
    (t.write path content).isSome = (t.write path other).isSome := by
  unfold write
  dsimp only
  split
  · rfl
  · split
    · rfl
    · rw [Option.isSome_map, Option.isSome_map]

end HubRelay.FileTree
