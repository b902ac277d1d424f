import FixBindings.Files.Tree
import Mathlib.Data.List.Infix

/-!
# What writing files does to a tree

A file is saved in two steps: the directories on the way to it are made, as far as they are
missing, and then it is written.  Either step may fail, and what was made before stays.
`FileTree.Changed` says what a series of saved files leaves: where a file was written there lies
the last one that was, and elsewhere nothing is different but for new directories on the way to
some of the files.  `Effect.trans` composes such changes, so that the steps are looked at one by
one (`effect_ensureDirectory`, `effect_put_file`) and a series follows by induction
(`effect_saveAll`).

Looking up a path depends on the directories of the tree alone, and none of them ever goes away
(`Changed.grows`).  So a place that a file was saved at stays ready for the next one
(`Ready.grows`), and saving a series again only puts in place what lies there (`saveAll_again`).

Paths are compared by the locations that they lead to, `FileTree.place`, which leaves open how
many paths lead to one location.
-/

set_option autoImplicit false

namespace FixBindings

/-- The content of a file and the path to write it to. -/
structure FileWrite where
  path : Path
  octets : List UInt8
deriving Repr, DecidableEq

namespace FileTree

variable {t u v : FileTree} {l l' : Location} {e : Entry} {p : Path}

/-! ## Entries -/

@[simp] theorem working_put (t : FileTree) (l : Location) (e : Entry) :
    (t.put l e).working = t.working := by
  rw [put]
  split <;> rfl

theorem ne_nil_of_entry (h : t.entry? l ≠ some .directory) : l ≠ [] := by
  rintro rfl
  exact h rfl

theorem ne_nil_of_absent (h : t.entry? l = none) : l ≠ [] := by
  rintro rfl
  exact absurd h nofun

theorem entry_of_ne_nil (h : l ≠ []) : t.entry? l = t.entries.lookup l := by
  rw [ entry?, if_neg (by simpa using h)]

theorem any_key_iff {entries : List (Location × Entry)} :
    (entries.any fun x => x.1 == l) ↔ entries.lookup l ≠ none := by
  rw [List.any_eq_true, Ne, List.lookup_eq_none_iff, not_forall]
  refine exists_congr fun x => ?_
  rw [Classical.not_imp, bne_iff_ne, not_not, beq_iff_eq, eq_comm]

theorem lookup_map_replace (entries : List (Location × Entry)) :
    (entries.map fun x => if x.1 == l then (x.1, e) else x).lookup l' =
      if l' = l then (entries.lookup l).map fun _ => e else entries.lookup l' := by
  induction entries with
  | nil => simp
  | cons x rest ih =>
    obtain ⟨k, old⟩ := x
    rw [List.map_cons]
    by_cases hk : k = l
    · subst hk
      by_cases hl : l' = k
      · simp [hl]
      · have other : (l' == k) = false := beq_eq_false_iff_ne.2 hl
        simpa [hl, List.lookup_cons, other] using ih
    · by_cases hl : l' = k
      · simp [hl, hk]
      · have other : (l' == k) = false := beq_eq_false_iff_ne.2 hl
        have also : (l == k) = false := beq_eq_false_iff_ne.2 (Ne.symm hk)
        simpa [hk, List.lookup_cons, other, also] using ih

/-- What lies in a tree after something was put at a location. -/
theorem entry_put (h : l ≠ []) (e : Entry) :
    entry? (t.put l e) l' = if l' = l then some e else t.entry? l' := by
  by_cases root : l' = []
  · subst root
    rw [if_neg (Ne.symm h)]
    rfl
  rw [entry_of_ne_nil root, entry_of_ne_nil root, put]
  split
  · rename_i there
    obtain ⟨old, hold⟩ := Option.ne_none_iff_exists'.1 (any_key_iff.1 there)
    rw [lookup_map_replace, hold]
    rfl
  · rename_i absent
    have none : t.entries.lookup l = none := not_not.1 (mt any_key_iff.2 absent)
    rw [List.lookup_append]
    by_cases hl : l' = l
    · simp [hl, none]
    · have other : (l' == l) = false := beq_eq_false_iff_ne.2 hl
      simp [hl, List.lookup_cons, other]

/-- An entry after something was put at a location is that, or lies elsewhere and was there. -/
theorem mem_entries_put {x : Location × Entry} (h : x ∈ (t.put l e).entries) :
    x = (l, e) ∨ x.1 ≠ l ∧ x ∈ t.entries := by
  rw [put] at h
  split at h
  · obtain ⟨y, hy, rfl⟩ := List.mem_map.1 h
    by_cases same : y.1 = l
    · exact Or.inl (by simp [same])
    · exact Or.inr (by simpa [same] using hy)
  · rename_i absent
    rcases List.mem_append.1 h with h | h
    · refine Or.inr ⟨fun same => absent ?_, h⟩
      exact List.any_eq_true.2 ⟨x, h, by simp [same]⟩
    · exact Or.inl (List.mem_singleton.1 h)

/-! ## Looking up paths -/

/-- The location that a path leads to if all on the way are directories. -/
def place (t : FileTree) (p : Path) : Location :=
  p.names.foldl enter (if p.isAbsolute then [] else t.working)

/-- Directories stay directories and files stay files. -/
structure Grows (t u : FileTree) : Prop where
  working : u.working = t.working
  directory : ∀ l, t.entry? l = some .directory → u.entry? l = some .directory
  file : ∀ l octets, t.entry? l = some (.file octets) → ∃ octets', u.entry? l = some (.file octets')

theorem follow_eq {path : String} {names : List String} (h : t.follow path l names = .ok l') :
    l' = names.foldl enter l := by
  induction names generalizing l with
  | nil => exact (Except.ok.inj h).symm
  | cons name rest ih =>
    rw [follow] at h
    split at h
    · exact absurd h nofun
    · exact absurd h nofun
    · split at h
      · exact absurd h nofun
      · exact ih h

theorem locate_eq (h : t.locate p = .ok l) : l = t.place p := by
  rw [locate] at h
  split at h
  · exact absurd h nofun
  · exact follow_eq h

theorem Grows.place (h : Grows t u) (p : Path) : u.place p = t.place p := by
  rw [FileTree.place, FileTree.place, h.working]

theorem Grows.follow (h : Grows t u) {path : String} {names : List String}
    (ok : t.follow path l names = .ok l') : u.follow path l names = .ok l' := by
  induction names generalizing l with
  | nil => exact ok
  | cons name rest ih =>
    rw [FileTree.follow] at ok ⊢
    split at ok
    · exact absurd ok nofun
    · exact absurd ok nofun
    · rename_i there
      split at ok
      · exact absurd ok nofun
      · rename_i short
        simp only [h.directory _ there, if_neg short]
        exact ih ok

/-- What is found in a tree is found in a tree with more directories. -/
theorem Grows.locate (h : Grows t u) (ok : t.locate p = .ok l) : u.locate p = .ok l := by
  rw [FileTree.locate] at ok ⊢
  rw [h.working]
  split at ok
  · exact absurd ok nofun
  · rename_i short
    rw [if_neg short]
    exact h.follow ok

/-- A path that is looked up without a fault. -/
structure Found (t : FileTree) (p : Path) : Prop where
  plain : holdsNul p = false
  located : t.locate p = .ok (t.place p)

/-- A path leads to a directory. -/
structure HasDirectory (t : FileTree) (p : Path) : Prop extends Found t p where
  entry : t.entry? (t.place p) = some .directory

/-- A path leads to a file in a directory. -/
structure Ready (t : FileTree) (p : Path) : Prop extends Found t p where
  parent : t.HasDirectory p.parent
  entry : ∃ octets, t.entry? (t.place p) = some (.file octets)

theorem Found.grows (h : t.Found p) (more : Grows t u) : u.Found p where
  plain := h.plain
  located := more.place p ▸ more.locate h.located

theorem HasDirectory.grows (h : t.HasDirectory p) (more : Grows t u) : u.HasDirectory p where
  toFound := h.toFound.grows more
  entry := more.place p ▸ more.directory _ h.entry

theorem Ready.grows (h : t.Ready p) (more : Grows t u) : u.Ready p where
  toFound := h.toFound.grows more
  parent := h.parent.grows more
  entry := by
    obtain ⟨octets, file⟩ := h.entry
    exact more.place p ▸ more.file _ octets file

/-! ## Single steps

Reading, writing and making a directory differ in what they do where a path leads to. -/

/-- Looks up a path, with a fault of its own for the character NUL, and does something there. -/
def lookUp {α : Type} (t : FileTree) (p : Path) (nul : FileFault)
    (f : Location → Except FileFault α) : Except FileFault α :=
  if holdsNul p then .error nul
  else
    match t.locate p with
    | .error fault => .error fault
    | .ok l => f l

section LookUp

variable {α : Type} {nul : FileFault} {f : Location → Except FileFault α} {a : α}

theorem of_lookUp_eq_ok (h : t.lookUp p nul f = .ok a) : t.Found p ∧ f (t.place p) = .ok a := by
  rw [lookUp] at h
  split at h
  · exact absurd h nofun
  · rename_i plain
    split at h
    · exact absurd h nofun
    · rename_i l located
      obtain rfl := locate_eq located
      exact ⟨⟨by simpa using plain, located⟩, h⟩

theorem Found.lookUp (h : t.Found p) : t.lookUp p nul f = f (t.place p) := by
  rw [FileTree.lookUp, h.plain, h.located]
  rfl

end LookUp

theorem makeDirectory_eq (t : FileTree) (p : Path) : t.makeDirectory p =
    t.lookUp p .nulInDirectory fun l =>
      match t.entry? l with
      | some _ => .error (.exists p.text)
      | none => .ok (t.put l .directory) := by
  rw [makeDirectory, lookUp]
  cases holdsNul p with
  | true => rfl
  | false => cases t.locate p <;> rfl

theorem write_eq (t : FileTree) (p : Path) (octets : List UInt8) : t.write p octets =
    t.lookUp p .nulInFile fun l =>
      match t.entry? l with
      | some .directory => .error (.isDirectory p.text)
      | _ => .ok (t.put l (.file octets)) := by
  rw [write, lookUp]
  cases holdsNul p with
  | true => rfl
  | false => cases t.locate p <;> rfl

theorem read_eq (t : FileTree) (p : Path) : t.read p =
    t.lookUp p .nulInFile fun l =>
      match t.entry? l with
      | none => .error (.notFound p.text)
      | some .directory => .error (.isDirectory p.text)
      | some (.file octets) => .ok octets := by
  rw [read, lookUp]
  cases holdsNul p with
  | true => rfl
  | false => cases t.locate p <;> rfl

/-- What it takes to make a directory, and what comes of it. -/
theorem of_makeDirectory_eq_ok (h : t.makeDirectory p = .ok u) :
    t.Found p ∧ t.entry? (t.place p) = none ∧ u = t.put (t.place p) .directory := by
  rw [makeDirectory_eq] at h
  obtain ⟨found, h⟩ := of_lookUp_eq_ok h
  split at h
  · exact absurd h nofun
  · rename_i absent
    exact ⟨found, absent, (Except.ok.inj h).symm⟩

/-- What it takes to write a file, and what comes of it. -/
theorem of_write_eq_ok {octets : List UInt8} (h : t.write p octets = .ok u) :
    t.Found p ∧ t.entry? (t.place p) ≠ some .directory ∧
      u = t.put (t.place p) (.file octets) := by
  rw [write_eq] at h
  obtain ⟨found, h⟩ := of_lookUp_eq_ok h
  split at h
  · exact absurd h nofun
  · rename_i other
    exact ⟨found, other, (Except.ok.inj h).symm⟩

theorem HasDirectory.isDirectory (h : t.HasDirectory p) : t.isDirectory p = .ok true := by
  rw [FileTree.isDirectory, h.located]
  simp only [h.entry]
  rfl

/-- A directory that is there need not be made. -/
theorem HasDirectory.ensureDirectory (h : t.HasDirectory p) :
    t.ensureDirectory p = (t, none) := by
  have there : t.makeDirectory p = .error (.exists p.text) := by
    rw [makeDirectory_eq, h.lookUp, h.entry]
  have one : t.ensureOne p = .ok t := by
    rw [ensureOne, there]
    simp only [h.isDirectory]
  rw [FileTree.ensureDirectory, one]

/-- A file that is there can be written. -/
theorem Ready.write (h : t.Ready p) (octets : List UInt8) :
    t.write p octets = .ok (t.put (t.place p) (.file octets)) := by
  obtain ⟨old, file⟩ := h.entry
  rw [write_eq, h.lookUp, file]

theorem Ready.read {octets : List UInt8} (h : t.Ready p)
    (file : t.entry? (t.place p) = some (.file octets)) : t.read p = .ok octets := by
  rw [read_eq, h.lookUp, file]

theorem HasDirectory.of_isDirectory (plain : holdsNul p = false) (h : t.isDirectory p = .ok true) :
    t.HasDirectory p := by
  rw [FileTree.isDirectory] at h
  split at h
  · rename_i l located
    obtain rfl := locate_eq located
    exact ⟨⟨plain, located⟩, by simpa using h⟩
  · exact absurd h nofun
  · exact absurd h nofun

/-! ## Changes -/

/-- What was written last at a location. -/
def lastAt (t : FileTree) (writes : List FileWrite) (l : Location) : Option (List UInt8) :=
  (writes.reverse.find? fun w => t.place w.path == l).map FileWrite.octets

/-- A location is one of some directories, or on the way to one of them. -/
def OnTheWay (t : FileTree) (directories : List Path) (l : Location) : Prop :=
  ∃ p ∈ directories, ∃ front, front <+: p.names ∧ l = t.place ⟨p.root, front⟩

/-- **What some writes change in a tree.**  Where something was written, no directory was before,
and there is a file with what was written last.  Anything else is as it was, but for new
directories on the way to some given ones. -/
structure Changed (t u : FileTree) (writes : List FileWrite) (directories : List Path) : Prop where
  working : u.working = t.working
  written : ∀ l octets, t.lastAt writes l = some octets →
    t.entry? l ≠ some .directory ∧ u.entry? l = some (.file octets)
  kept : ∀ l, t.lastAt writes l = none → u.entry? l = t.entry? l ∨
    t.OnTheWay directories l ∧ t.entry? l = none ∧ u.entry? l = some .directory

/-- A change down to the list of the entries, in which a location may occur more than once.  Only
what is looked up first counts, but a tree that is to be the same once more needs all of them. -/
structure Effect (t u : FileTree) (writes : List FileWrite) (directories : List Path) : Prop
    extends Changed t u writes directories where
  settled : ∀ x ∈ u.entries, ∀ octets, t.lastAt writes x.1 = some octets → x.2 = .file octets
  old : ∀ x ∈ u.entries, t.lastAt writes x.1 = none → x ∈ t.entries ∨ t.entry? x.1 = none

section Changes

variable {writes later : List FileWrite} {directories others : List Path}

@[simp] theorem lastAt_nil : t.lastAt [] l = none := rfl

theorem lastAt_append :
    t.lastAt (writes ++ later) l = (t.lastAt later l).or (t.lastAt writes l) := by
  rw [lastAt, lastAt, lastAt, List.reverse_append, List.find?_append, Option.map_or]

theorem lastAt_singleton {w : FileWrite} :
    t.lastAt [w] l = if t.place w.path = l then some w.octets else none := by
  by_cases h : t.place w.path = l <;> simp [lastAt, h]

theorem Grows.lastAt (h : Grows t u) : u.lastAt writes l = t.lastAt writes l := by
  rw [FileTree.lastAt, FileTree.lastAt]
  simp only [h.place]

theorem Grows.onTheWay (h : Grows t u) : u.OnTheWay directories l ↔ t.OnTheWay directories l := by
  simp only [OnTheWay, h.place]

theorem OnTheWay.mono (h : t.OnTheWay directories l) (sub : directories ⊆ others) :
    t.OnTheWay others l := by
  obtain ⟨p, hp, way⟩ := h
  exact ⟨p, sub hp, way⟩

/-- What is on the way to the parent of a directory is on the way to the directory. -/
theorem OnTheWay.of_parent (h : t.OnTheWay [p.parent] l) : t.OnTheWay [p] l := by
  obtain ⟨q, hq, front, short, same⟩ := h
  obtain rfl := List.mem_singleton.1 hq
  exact ⟨p, List.mem_singleton_self p, front, short.trans (List.dropLast_prefix _), same⟩

/-- No change takes a directory away, and none makes one of a file. -/
theorem Changed.grows (h : Changed t u writes directories) : Grows t u where
  working := h.working
  directory l there := by
    cases last : t.lastAt writes l with
    | some octets => exact absurd there (h.written l octets last).1
    | none =>
      rcases h.kept l last with same | ⟨-, absent, -⟩
      · exact same.trans there
      · exact absurd (absent.symm.trans there) nofun
  file l octets there := by
    cases last : t.lastAt writes l with
    | some octets' => exact ⟨octets', (h.written l octets' last).2⟩
    | none =>
      rcases h.kept l last with same | ⟨-, absent, -⟩
      · exact ⟨octets, same.trans there⟩
      · exact absurd (absent.symm.trans there) nofun

/-- The directories that a change may make count only for what is on the way to them. -/
theorem Effect.widen (h : Effect t u writes directories)
    (sub : ∀ l, t.OnTheWay directories l → t.OnTheWay others l) : Effect t u writes others :=
  { h with
    kept := fun l last => (h.kept l last).imp_right fun ⟨way, new⟩ => ⟨sub l way, new⟩ }

theorem Effect.refl (t : FileTree) (directories : List Path) : Effect t t [] directories where
  working := rfl
  written _ _ last := absurd last nofun
  kept _ _ := Or.inl rfl
  settled _ _ _ last := absurd last nofun
  old _ hx _ := Or.inl hx

/-- **One change after another** comes to the writes of the first and then those of the second. -/
theorem Effect.trans (first : Effect t u writes directories) (second : Effect u v later others) :
    Effect t v (writes ++ later) (directories ++ others) := by
  have grows := first.grows
  have last {l : Location} : t.lastAt (writes ++ later) l =
      (u.lastAt later l).or (t.lastAt writes l) := by
    rw [grows.lastAt, lastAt_append]
  refine ⟨⟨second.working.trans first.working, fun l octets h => ?_, fun l h => ?_⟩,
    fun x hx octets h => ?_, fun x hx h => ?_⟩
  · rw [last] at h
    cases new : u.lastAt later l with
    | some octets' =>
      obtain ⟨free, file⟩ := second.written l octets' new
      rw [new, Option.some_or] at h
      exact ⟨fun there => free (grows.directory l there), Option.some.inj h ▸ file⟩
    | none =>
      rw [new, Option.none_or] at h
      obtain ⟨free, file⟩ := first.written l octets h
      rcases second.kept l new with same | ⟨-, absent, -⟩
      · exact ⟨free, same.trans file⟩
      · exact absurd (absent.symm.trans file) nofun
  · rw [last, Option.or_eq_none_iff] at h
    have before := first.kept l h.2
    rcases second.kept l h.1 with same | ⟨way, absent, made⟩
    · rw [same]
      exact before.imp_right fun ⟨way, new⟩ =>
        ⟨way.mono (List.subset_append_left _ _), new⟩
    · rcases before with same | ⟨-, -, made'⟩
      · exact Or.inr ⟨(grows.onTheWay.1 way).mono (List.subset_append_right _ _),
          same.symm.trans absent, made⟩
      · exact absurd (absent.symm.trans made') nofun
  · rw [last] at h
    cases new : u.lastAt later x.1 with
    | some octets' =>
      rw [new, Option.some_or] at h
      exact (second.settled x hx octets' new).trans (congrArg Entry.file (Option.some.inj h))
    | none =>
      rw [new, Option.none_or] at h
      rcases second.old x hx new with there | absent
      · exact first.settled x there octets h
      · exact absurd (absent.symm.trans (first.written x.1 octets h).2) nofun
  · rw [last, Option.or_eq_none_iff] at h
    rcases second.old x hx h.1 with there | absent
    · exact first.old x there h.2
    · rcases first.kept x.1 h.2 with same | ⟨-, -, made⟩
      · exact Or.inr (same.symm.trans absent)
      · exact absurd (absent.symm.trans made) nofun

end Changes

/-! ## Steps -/

variable {w : FileWrite} {fault : FileFault}

/-- Making one directory where nothing lies. -/
theorem effect_put_directory (absent : t.entry? (t.place p) = none) :
    Effect t (t.put (t.place p) .directory) [] [p] := by
  have ne : t.place p ≠ [] := ne_nil_of_absent absent
  refine ⟨⟨working_put _ _ _, fun _ _ last => absurd last nofun, fun l _ => ?_⟩,
    fun _ _ _ last => absurd last nofun, fun x hx _ => ?_⟩
  · rw [entry_put ne]
    by_cases same : l = t.place p
    · subst same
      exact Or.inr ⟨⟨p, List.mem_singleton_self p, p.names, List.prefix_rfl, rfl⟩, absent,
        if_pos rfl⟩
    · exact Or.inl (if_neg same)
  · rcases mem_entries_put hx with rfl | ⟨-, there⟩
    · exact Or.inr absent
    · exact Or.inl there

/-- Writing one file where no directory lies. -/
theorem effect_put_file (free : t.entry? (t.place w.path) ≠ some .directory) :
    Effect t (t.put (t.place w.path) (.file w.octets)) [w] [] := by
  have ne := ne_nil_of_entry free
  refine ⟨⟨working_put _ _ _, fun l octets last => ?_, fun l last => ?_⟩,
    fun x hx octets last => ?_, fun x hx last => ?_⟩
  · rw [lastAt_singleton] at last
    split at last
    · rename_i same
      subst same
      obtain rfl := Option.some.inj last
      exact ⟨free, by rw [entry_put ne, if_pos rfl]⟩
    · exact absurd last nofun
  · rw [lastAt_singleton] at last
    split at last
    · exact absurd last nofun
    · rename_i other
      exact Or.inl (by rw [entry_put ne, if_neg (Ne.symm other)])
  · rw [lastAt_singleton] at last
    split at last
    · rename_i same
      obtain rfl := Option.some.inj last
      rcases mem_entries_put hx with rfl | ⟨other, -⟩
      · rfl
      · exact absurd same.symm other
    · exact absurd last nofun
  · rw [lastAt_singleton] at last
    split at last
    · exact absurd last nofun
    · rename_i other
      rcases mem_entries_put hx with rfl | ⟨-, there⟩
      · exact absurd rfl other
      · exact Or.inl there

/-- Making sure of one directory makes it if nothing lies there, and leaves the tree alone
otherwise. -/
theorem of_ensureOne_eq_ok (h : t.ensureOne p = .ok u) :
    Effect t u [] [p] ∧ u.HasDirectory p := by
  rw [ensureOne] at h
  cases made : t.makeDirectory p with
  | ok u' =>
    obtain rfl : u' = u := by simpa [made] using h
    obtain ⟨found, absent, rfl⟩ := of_makeDirectory_eq_ok made
    have effect := effect_put_directory absent
    refine ⟨effect, found.grows effect.grows, ?_⟩
    rw [effect.grows.place, entry_put (ne_nil_of_absent absent), if_pos rfl]
  | error fault =>
    rw [made] at h
    have plain : holdsNul p = false := by
      cases nul : holdsNul p with
      | false => rfl
      | true =>
        rw [makeDirectory_eq, lookUp, if_pos nul] at made
        obtain rfl := Except.error.inj made
        exact absurd h nofun
    -- two of the faults are passed on, and after any other the directory must have been there
    have there : t.isDirectory p = .ok true ∧ t = u := by
      split at h
      · rename_i same
        exact absurd same nofun
      · exact absurd h nofun
      · exact absurd h nofun
      · split at h
        · exact ⟨‹_›, Except.ok.inj h⟩
        · exact absurd h nofun
        · exact absurd h nofun
    obtain ⟨there, rfl⟩ := there
    exact ⟨.refl t _, .of_isDirectory plain there⟩

/-- **Making a directory with those on the way to it**, whatever comes of it, changes nothing but
that some of them are new. -/
theorem effect_ensureDirectory (t : FileTree) (p : Path) :
    Effect t (t.ensureDirectory p).1 [] [p] := by
  fun_induction FileTree.ensureDirectory t p with
  | case1 p u one => exact (of_ensureOne_eq_ok one).1
  | case2 p path missing long u fault above ih =>
    rw [above] at ih
    exact ih.widen fun l => OnTheWay.of_parent
  | case3 p path missing long u above v one ih =>
    rw [above] at ih
    have below := ih.trans (of_ensureOne_eq_ok one).1
    refine below.widen fun l => ?_
    rintro ⟨q, hq, way⟩
    rcases List.mem_pair.1 hq with rfl | rfl
    · exact OnTheWay.of_parent ⟨_, List.mem_singleton_self _, way⟩
    · exact ⟨_, List.mem_singleton_self _, way⟩
  | case4 p path missing long u above fault one ih =>
    rw [above] at ih
    exact ih.widen fun l => OnTheWay.of_parent
  | case5 p path missing short => exact .refl t _
  | case6 p fault other one => exact .refl t _

theorem hasDirectory_of_ensureDirectory (h : t.ensureDirectory p = (u, none)) :
    u.HasDirectory p := by
  rw [ensureDirectory] at h
  split at h
  · rename_i one
    obtain rfl := congrArg Prod.fst h
    exact (of_ensureOne_eq_ok one).2
  · split at h
    · split at h
      · simp at h
      · split at h
        · rename_i one
          obtain rfl := congrArg Prod.fst h
          exact (of_ensureOne_eq_ok one).2
        · simp at h
    · simp at h
  · simp at h

/-! ## Saving files -/

/-- Saves a file, with the directories on the way to it. -/
def save (t : FileTree) (w : FileWrite) : FileTree × Option FileFault :=
  match t.ensureDirectory w.path.parent with
  | (t, some fault) => (t, some fault)
  | (t, none) =>
    match t.write w.path w.octets with
    | .error fault => (t, some fault)
    | .ok t => (t, none)

/-- Saves files, in order, up to the first fault. -/
def saveAll : FileTree → List FileWrite → FileTree × Option FileFault
  | t, [] => (t, none)
  | t, w :: rest =>
    match t.save w with
    | (t, some fault) => (t, some fault)
    | (t, none) => saveAll t rest

/-- The directories that some files are saved in. -/
def parents (writes : List FileWrite) : List Path := writes.map fun w => w.path.parent

variable {writes : List FileWrite}

/-- **What saving a file does**: the file is written, and it could be written again. -/
theorem effect_save (h : t.save w = (u, none)) :
    Effect t u [w] [w.path.parent] ∧ u.Ready w.path := by
  rw [save] at h
  split at h
  · simp at h
  · rename_i v made
    split at h
    · simp at h
    · rename_i written
      obtain rfl := congrArg Prod.fst h
      obtain ⟨found, free, rfl⟩ := of_write_eq_ok written
      have before := effect_ensureDirectory t w.path.parent
      rw [made] at before
      have effect := effect_put_file free
      have grows := effect.grows
      refine ⟨before.trans effect, found.grows grows,
        (hasDirectory_of_ensureDirectory made).grows grows, w.octets, ?_⟩
      rw [grows.place, entry_put (ne_nil_of_entry free), if_pos rfl]

/-- What is left when saving a file fails. -/
theorem effect_save_fault (h : t.save w = (u, some fault)) :
    Effect t u [] [w.path.parent] := by
  have before := effect_ensureDirectory t w.path.parent
  rw [save] at h
  split at h
  · rename_i made
    obtain rfl := congrArg Prod.fst h
    rwa [made] at before
  · rename_i made
    rw [made] at before
    split at h
    · obtain rfl := congrArg Prod.fst h
      exact before
    · simp at h

/-- A file that is ready for it is put in its place. -/
theorem Ready.save (h : t.Ready w.path) :
    t.save w = (t.put (t.place w.path) (.file w.octets), none) := by
  rw [FileTree.save, h.parent.ensureDirectory]
  simp only [h.write]

/-- **What saving files does.** -/
theorem effect_saveAll (h : t.saveAll writes = (u, none)) :
    Effect t u writes (parents writes) ∧ ∀ w ∈ writes, u.Ready w.path := by
  induction writes generalizing t with
  | nil =>
    obtain rfl := congrArg Prod.fst h
    exact ⟨.refl t _, nofun⟩
  | cons w rest ih =>
    rw [saveAll] at h
    split at h
    · simp at h
    · rename_i v saved
      obtain ⟨first, ready⟩ := effect_save saved
      obtain ⟨later, others⟩ := ih h
      exact ⟨first.trans later, List.forall_mem_cons.2 ⟨ready.grows later.grows, others⟩⟩

/-- Where saving files fails, one of them could not be saved. -/
theorem exists_of_saveAll_fault (h : t.saveAll writes = (u, some fault)) :
    ∃ done w rest v, writes = done ++ w :: rest ∧ t.saveAll done = (v, none) ∧
      v.save w = (u, some fault) := by
  induction writes generalizing t with
  | nil => simp [saveAll] at h
  | cons w rest ih =>
    rw [saveAll] at h
    split at h
    · rename_i failed
      rw [← h]
      exact ⟨[], w, rest, t, rfl, rfl, failed⟩
    · rename_i v saved
      obtain ⟨done, x, rest, v', rfl, before, failed⟩ := ih h
      exact ⟨w :: done, x, rest, v', rfl, by rw [saveAll, saved]; exact before, failed⟩

/-- **What is left when saving files fails**: the writes before the one that fails, and at most some
directories on the way to that one. -/
theorem effect_saveAll_fault (h : t.saveAll writes = (u, some fault)) :
    ∃ done w rest v, writes = done ++ w :: rest ∧ t.saveAll done = (v, none) ∧
      v.save w = (u, some fault) ∧ Effect t u done (parents (done ++ [w])) := by
  obtain ⟨done, w, rest, v, split, before, failed⟩ := exists_of_saveAll_fault h
  have effect := (effect_saveAll before).1.trans (effect_save_fault failed)
  rw [List.append_nil] at effect
  refine ⟨done, w, rest, v, split, before, failed, ?_⟩
  rwa [parents, List.map_append]

/-- A write that no later one comes to the place of is the last one there. -/
theorem lastAt_of_last {front back : List FileWrite}
    (last : ∀ v ∈ back, t.place v.path ≠ t.place w.path) :
    t.lastAt (front ++ w :: back) (t.place w.path) = some w.octets := by
  have none : t.lastAt back (t.place w.path) = none := by
    rw [lastAt, Option.map_eq_none_iff, List.find?_eq_none]
    intro v hv same
    exact last v (List.mem_reverse.1 hv) (beq_iff_eq.1 same)
  have one : t.lastAt (w :: back) (t.place w.path) = some w.octets := by
    rw [← List.singleton_append, lastAt_append, none, lastAt_singleton, if_pos rfl]
    rfl
  rw [lastAt_append, one, Option.some_or]

/-- **What was saved last at a path is read there.** -/
theorem read_saveAll {front back : List FileWrite}
    (h : t.saveAll (front ++ w :: back) = (u, none))
    (last : ∀ v ∈ back, t.place v.path ≠ t.place w.path) : u.read w.path = .ok w.octets := by
  obtain ⟨effect, ready⟩ := effect_saveAll h
  refine (ready w (by simp)).read ?_
  rw [effect.grows.place]
  exact (effect.written _ _ (lastAt_of_last last)).2

/-- The entry of a file is put in its place, wherever the location occurs. -/
theorem put_of_file {octets : List UInt8} (h : t.entry? l = some (.file octets)) (e : Entry) :
    t.put l e =
      { t with entries := t.entries.map fun x => if x.1 == l then (x.1, e) else x } := by
  have ne : l ≠ [] := ne_nil_of_entry (t := t) (by simp [h])
  rw [entry_of_ne_nil ne] at h
  rw [put, if_pos (any_key_iff.2 (by simp [h]))]

/-- Files that are there are put in place one by one, which leaves at each location the last that is
put there. -/
theorem saveAll_of_ready (ready : ∀ w ∈ writes, t.Ready w.path) :
    t.saveAll writes = ({ t with entries := t.entries.map fun x =>
      (x.1, ((t.lastAt writes x.1).map Entry.file).getD x.2) }, none) := by
  induction writes generalizing t with
  | nil => simp [saveAll]
  | cons w rest ih =>
    obtain ⟨first, others⟩ := List.forall_mem_cons.1 ready
    obtain ⟨octets, file⟩ := first.entry
    have grows := (effect_put_file (t := t) (w := w) (by simp [file])).grows
    rw [saveAll, first.save]
    simp only
    rw [ih fun x hx => (others x hx).grows grows]
    simp only [grows.lastAt]
    rw [put_of_file file]
    simp only [List.map_map]
    refine congrArg (fun entries => (FileTree.mk t.working entries, none)) ?_
    refine List.map_congr_left fun x _ => ?_
    rw [← List.singleton_append, lastAt_append, lastAt_singleton, Function.comp_apply]
    by_cases same : x.1 = t.place w.path
    · cases later : t.lastAt rest (t.place w.path) <;> simp [same, later]
    · cases later : t.lastAt rest x.1 <;> simp [same, Ne.symm same, later]

/-- **Saving files again changes nothing.** -/
theorem saveAll_again (h : t.saveAll writes = (u, none)) : u.saveAll writes = (u, none) := by
  obtain ⟨effect, ready⟩ := effect_saveAll h
  rw [saveAll_of_ready ready]
  have same : (u.entries.map fun x =>
      (x.1, ((u.lastAt writes x.1).map Entry.file).getD x.2)) = u.entries := by
    refine (List.map_congr_left fun x hx => ?_).trans (List.map_id _)
    rw [effect.grows.lastAt]
    cases last : t.lastAt writes x.1 with
    | none => rfl
    | some octets => exact Prod.ext rfl (effect.settled x hx octets last).symm
  rw [same]

end FileTree
end FixBindings
