import FixBindings.Proofs.Containment
import FixBindings.Proofs.FileTrees
import FixBindings.Proofs.InnerClasses
import FixBindings.Proofs.Reports
import Mathlib

/-!
# What a run does to the file tree

A run describes the classes of a repository and then saves their source texts one after another.
Every class has a source text, so nothing but a fault of the file tree can end a run of a well-typed
repository, and a run comes to saving files and summing up (`Generation.run_eq`): what it does to
the tree is what `FileTree.saveAll` does, and the summary does not depend on the tree.

`run_effect` collects what follows.  A run that gets through changes nothing but its files and the
directories on the way to them, keeps the last of several texts for one place, reports what it wrote
and found, and can be repeated without a difference; a run that fails leaves what it wrote before.
All of this speaks of the places that paths lead to.  Where no name holds a slash, different paths
of a run lead to different places (`SlashFree.place_inj`).
-/

set_option autoImplicit false

namespace FixBindings

/-! ## Places of classes -/

theorem FileTree.foldl_enter_of_notMem {names : List String} (h : ".." ∉ names) (l : Location) :
    names.foldl enter l = l ++ names := by
  induction names generalizing l with
  | nil => simp
  | cons name rest ih =>
    obtain ⟨first, others⟩ := not_or.1 (mt List.mem_cons.2 h)
    have down : enter l name = l ++ [name] := if_neg (by simpa using Ne.symm first)
    rw [List.foldl_cons, down, ih others, List.append_assoc, List.singleton_append]

namespace Layout

variable {p q m n : String} {output : Path}

theorem parent_notMem_directoryNames (package : String) : ".." ∉ directoryNames package := by
  intro h
  obtain ⟨cs, hcs, same⟩ := List.mem_map.1 (List.mem_filter.1 h).1
  have cs_eq := congrArg String.toList same
  rw [String.toList_ofList] at cs_eq
  exact (Path.of_mem_splitAt hcs).1 (by simp [cs_eq])

/-- Without slashes, the place of a class is below that of the output directory. -/
theorem place_fileOf (t : FileTree) (hp : '/' ∉ p.toList) (hm : '/' ∉ m.toList) :
    t.place (fileOf output p m) = t.place output ++ (directoryNames p ++ [m ++ ".java"]) := by
  have clean : ".." ∉ directoryNames p ++ [m ++ ".java"] := by
    rw [List.mem_append, not_or]
    refine ⟨parent_notMem_directoryNames p, fun h => ?_⟩
    exact fileName_ne (by decide) (List.mem_singleton.1 h).symm
  rw [fileOf_eq output hp hm, FileTree.place, FileTree.place, List.append_assoc,
    List.foldl_append, FileTree.foldl_enter_of_notMem clean]
  rfl

end Layout

/-! ## Writes of a run -/

/-- A write saves the source text of a class in the file of the class. -/
structure Artifact.SavedBy (output : Path) (a : Artifact) (w : FileWrite) : Prop where
  path : w.path = a.path output
  source : ∃ source, Java.render a = .ok source ∧ w.octets = Utf8.encode source

namespace Generation

variable {output : Path} {artifacts : List Artifact} {writes : List FileWrite}

/-- The paths of the writes are the files of the classes. -/
theorem map_path (saved : List.Forall₂ (Artifact.SavedBy output) artifacts writes) :
    writes.map FileWrite.path = artifacts.map (Artifact.path output) := by
  induction saved with
  | nil => rfl
  | cons first _ ih => rw [List.map_cons, List.map_cons, first.path, ih]

theorem exists_writes (output : Path) (h : ∀ a ∈ artifacts, ∃ source, Java.render a = .ok source) :
    ∃ writes, List.Forall₂ (Artifact.SavedBy output) artifacts writes := by
  induction artifacts with
  | nil => exact ⟨[], .nil⟩
  | cons a rest ih =>
    obtain ⟨⟨source, rendered⟩, others⟩ := List.forall_mem_cons.1 h
    obtain ⟨writes, saved⟩ := ih others
    exact ⟨⟨a.path output, Utf8.encode source⟩ :: writes, .cons ⟨rfl, source, rendered, rfl⟩ saved⟩

/-- Sums up that the files of some classes were written. -/
def recorded (output : Path) (report : Report) (artifacts : List Artifact) : Report :=
  artifacts.foldl (fun report a => report.wrote a.kindName (a.path output)) report

theorem writeFile_eq {a : Artifact} {w : FileWrite} (h : a.SavedBy output w) (t : FileTree) :
    writeFile t (a.path output) a = ((t.save w).1, (t.save w).2.map RunFault.file) := by
  obtain ⟨source, rendered, octets⟩ := h.source
  rw [writeFile, FileTree.save, h.path, octets]
  cases t.ensureDirectory (a.path output).parent with
  | mk u fault =>
    cases fault with
    | some fault => rfl
    | none =>
      simp only [rendered]
      cases u.write (a.path output) (Utf8.encode source) <;> rfl

/-- **Writing the files of classes** comes to saving the writes and recording them. -/
theorem writeAll_eq (saved : List.Forall₂ (Artifact.SavedBy output) artifacts writes)
    (t : FileTree) (report : Report) : writeAll output t report artifacts =
      match t.saveAll writes with
      | (u, none) => (u, .ok (recorded output report artifacts))
      | (u, some fault) => (u, .error (.file fault)) := by
  induction saved generalizing t report with
  | nil => rfl
  | @cons a w rest writes first _ ih =>
    simp only [writeAll, writeFile_eq first, FileTree.saveAll]
    cases t.save w with
    | mk u fault =>
      cases fault with
      | some fault => rfl
      | none => exact ih u _

/-! ## Summaries -/

theorem sum_countOne (kind : String) (counts : List (String × Nat)) :
    ((Report.countOne kind counts).map Prod.snd).sum = (counts.map Prod.snd).sum + 1 := by
  induction counts with
  | nil => rfl
  | cons count rest ih =>
    obtain ⟨k, n⟩ := count
    rw [Report.countOne]
    split
    · simp only [List.map_cons, List.sum_cons]
      omega
    · simp only [List.map_cons, List.sum_cons, ih]
      omega

/-- As many classes are counted as are recorded. -/
theorem counts_recorded (output : Path) (report : Report) (artifacts : List Artifact) :
    ((recorded output report artifacts).counts.map Prod.snd).sum =
      (report.counts.map Prod.snd).sum + artifacts.length := by
  induction artifacts generalizing report with
  | nil => rfl
  | cons a rest ih =>
    rw [recorded, List.foldl_cons, ← recorded, ih, Report.wrote, sum_countOne, List.length_cons]
    omega

theorem warnings_recorded (output : Path) (report : Report) (artifacts : List Artifact) :
    (recorded output report artifacts).warnings = report.warnings := by
  induction artifacts generalizing report with
  | nil => rfl
  | cons a rest ih => exact ih _

theorem foldl_warn (report : Report) (texts : List String) :
    texts.foldl Report.warn report =
      { report with warnings := Ledger.addAll report.warnings texts } := by
  induction texts generalizing report with
  | nil => rfl
  | cons text rest ih =>
    rw [List.foldl_cons, ih]
    rfl

variable {r : Repository} {options : Options} {layer : SessionLayer} {output : Path}
  {diagnostics : Ledger} {d : Description} {writes : List FileWrite} {t u : FileTree}
  {report : Report}

/-- The summary of a run that gets through. -/
def summary (r : Repository) (output : Path) (d : Description) (diagnostics : Ledger) : Report :=
  diagnostics.foldl Report.warn (recorded output
    { repositoryName := r.name
      version := r.version
      output
      applicationFields := d.usage.application.length
      sessionFields := d.usage.session.length } d.artifacts)

/-- **A run saves the source texts of the classes**, and the summary depends on nothing else. -/
theorem run_eq (described : (describe options layer r).run [] = (.ok d, diagnostics))
    (saved : List.Forall₂ (Artifact.SavedBy output) d.artifacts writes) (t : FileTree) :
    run t r output options layer =
      match t.saveAll writes with
      | (u, none) => (u, .ok (summary r output d diagnostics))
      | (u, some fault) => (u, .error (.file fault)) := by
  rw [run, described]
  simp only [writeAll_eq saved]
  cases t.saveAll writes with
  | mk u fault => cases fault <;> rfl

/-- **What a run that gets through does.**  It makes the writes, one after another.  The tree
changes by these and by directories on the way to them, and of several writes to one place the
last is read there.  The summary has the paths of the writes, in order, as many as are counted by
kind, and the diagnostics. -/
structure Completes (t u : FileTree) (writes : List FileWrite) (diagnostics : Ledger)
    (report : Report) : Prop where
  performed : t.saveAll writes = (u, none)
  changed : t.Changed u writes (FileTree.parents writes)
  last : ∀ front w back, writes = front ++ w :: back →
    (∀ v ∈ back, t.place v.path ≠ t.place w.path) → u.read w.path = .ok w.octets
  written : report.written = writes.map FileWrite.path
  total : report.total = (report.counts.map Prod.snd).sum
  warnings : report.warnings = diagnostics

/-- **What a run that fails leaves.**  One of the writes fails.  The tree changes by the writes
before it, and by directories on the way to these and to the one that fails. -/
def Aborts (t u : FileTree) (writes : List FileWrite) (fault : RunFault) : Prop :=
  ∃ done w rest v f, writes = done ++ w :: rest ∧ t.saveAll done = (v, none) ∧
    v.save w = (u, some f) ∧ fault = .file f ∧
    t.Changed u done (FileTree.parents (done ++ [w]))

theorem completes_of_saveAll (described : (describe options layer r).run [] = (.ok d, diagnostics))
    (saved : List.Forall₂ (Artifact.SavedBy output) d.artifacts writes)
    (h : t.saveAll writes = (u, none)) :
    Completes t u writes diagnostics (summary r output d diagnostics) := by
  have ran : run t r output options layer = (u, .ok (summary r output d diagnostics)) := by
    rw [run_eq described saved, h]
  have written : (summary r output d diagnostics).written = writes.map FileWrite.path := by
    obtain rfl := (Traced.run_eq_ok_iff.1 (congrArg Prod.fst described)).2
    exact (written_run ran).trans (map_path saved).symm
  have nodup : diagnostics.Nodup := by
    have ledger : ((describe options layer r).run []).2 = diagnostics := congrArg Prod.snd described
    exact ledger ▸ Traced.nodup_run List.nodup_nil _
  refine ⟨h, (FileTree.effect_saveAll h).1.toChanged, ?_, written, ?_, ?_⟩
  · rintro front w back rfl last
    exact FileTree.read_saveAll h last
  · rw [Report.total, written, List.length_map, ← saved.length_eq, summary, foldl_warn]
    simp only [counts_recorded, List.map_nil, List.sum_nil, Nat.zero_add]
  · rw [summary, foldl_warn, warnings_recorded]
    exact Ledger.addAll_of_nodup nodup

end Generation

namespace Repository

variable {r : Repository} {options : Options} {layer : SessionLayer} {output : Path}

/-- **Where names hold no slash, different files lie at different places.** -/
theorem SlashFree.place_inj (free : r.SlashFree) (t : FileTree) {s s' : String × String}
    (hs : s ∈ r.sites options layer) (hs' : s' ∈ r.sites options layer)
    (h : t.place (Layout.fileOf output s.1 s.2) = t.place (Layout.fileOf output s'.1 s'.2)) :
    Layout.fileOf output s.1 s.2 = Layout.fileOf output s'.1 s'.2 := by
  obtain ⟨package, name⟩ := free.sites hs
  obtain ⟨package', name'⟩ := free.sites hs'
  have segment : '/' ∉ (Layout.ofVersion options r.version).segment.toList := free.segment
  have package := Layout.slash_notMem_package segment package
  have package' := Layout.slash_notMem_package segment package'
  rw [Layout.place_fileOf t package name, Layout.place_fileOf t package' name'] at h
  rw [Layout.fileOf_eq output package name, Layout.fileOf_eq output package' name',
    List.append_assoc, List.append_assoc, List.append_cancel_left h]

/-- The file of a write is that of a site. -/
theorem exists_site {writes : List FileWrite} {w : FileWrite}
    (saved : List.Forall₂ (Artifact.SavedBy output) (r.artifacts options layer) writes)
    (hw : w ∈ writes) :
    ∃ site ∈ r.sites options layer, w.path = Layout.fileOf output site.1 site.2 := by
  have path := List.mem_map_of_mem (f := FileWrite.path) hw
  rw [Generation.map_path saved] at path
  obtain ⟨a, ha, same⟩ := List.mem_map.1 path
  exact ⟨a.site, sites_artifacts r options layer ▸ List.mem_map_of_mem ha, same.symm⟩

/-- **What a run does to the file tree.**  The classes of a well-typed repository are described, and
there are the writes of their source texts, whatever the names are.  From any tree, a run that gets
through makes these writes and changes nothing else but directories on the way to them; it can be
repeated, and then nothing changes and the summary is the same.  A run that fails makes the writes
before the one that fails.  Where no name holds a slash, what is read at the path of a write is the
text of the last write to that path. -/
theorem run_effect (typed : r.WellTyped) (options : Options) (layer : SessionLayer)
    (output : Path) :
    ∃ d diagnostics writes, (describe options layer r).run [] = (.ok d, diagnostics) ∧
      List.Forall₂ (Artifact.SavedBy output) d.artifacts writes ∧
      ∀ t u : FileTree,
        (∀ report, Generation.run t r output options layer = (u, .ok report) →
          Generation.Completes t u writes diagnostics report ∧
          (r.SlashFree → ∀ front w back, writes = front ++ w :: back →
            (∀ v ∈ back, v.path ≠ w.path) → u.read w.path = .ok w.octets) ∧
          Generation.run u r output options layer = (u, .ok report)) ∧
        ∀ fault, Generation.run t r output options layer = (u, .error fault) →
          Generation.Aborts t u writes fault := by
  have described : (describe options layer r).run [] =
      (.ok (describe options layer r).value, ((describe options layer r).run []).2) :=
    Prod.ext ((typed.describe_clean options layer).run []) rfl
  have rendered : ∀ a ∈ r.artifacts options layer, ∃ source, Java.render a = .ok source :=
    fun a ha => (mem_artifacts_iff.1 ha).exists_render
  obtain ⟨writes, saved⟩ := Generation.exists_writes output rendered
  refine ⟨_, _, writes, described, saved, fun t u => ⟨fun report h => ?_, fun fault h => ?_⟩⟩
  · rw [Generation.run_eq described saved] at h
    rcases made : t.saveAll writes with ⟨v, _ | fault⟩
    · rw [made] at h
      obtain rfl : v = u := congrArg Prod.fst h
      obtain rfl := Except.ok.inj (congrArg Prod.snd h)
      have completes := Generation.completes_of_saveAll described saved made
      refine ⟨completes, fun free front w back split last => ?_, ?_⟩
      · refine completes.last front w back split fun x hx same => last x hx ?_
        obtain ⟨s, hs, path⟩ := exists_site saved (w := x) (by simp [split, hx])
        obtain ⟨s', hs', path'⟩ := exists_site saved (w := w) (by simp [split])
        rw [path, path'] at same ⊢
        exact free.place_inj t hs hs' same
      · rw [Generation.run_eq described saved, FileTree.saveAll_again made]
    · rw [made] at h
      exact absurd (congrArg Prod.snd h) nofun
  · rw [Generation.run_eq described saved] at h
    rcases made : t.saveAll writes with ⟨v, _ | f⟩
    · rw [made] at h
      exact absurd (congrArg Prod.snd h) nofun
    · rw [made] at h
      obtain rfl : v = u := congrArg Prod.fst h
      obtain rfl := Except.error.inj (congrArg Prod.snd h)
      obtain ⟨done, w, rest, v', split, before, failed, effect⟩ :=
        FileTree.effect_saveAll_fault made
      exact ⟨done, w, rest, v', f, split, before, failed, rfl, effect.toChanged⟩

/-- A tree with nothing but a working directory. -/
def emptyTree : FileTree := .ofWorking ["home"]

/-- A tree with a file where the directory of all packages should be. -/
def blockedTree : FileTree := emptyTree.put ["home", "quickfix"] (.file [])

/-- A run gets through on an empty tree, and fails where a file is in the way. -/
theorem run_effect_oneField :
    Sample.oneField.WellTyped ∧ Sample.oneField.SlashFree ∧ ∃ diagnostics writes,
      (∃ u report, Generation.run emptyTree Sample.oneField {} ⟨{}, rfl⟩ {} = (u, .ok report) ∧
        Generation.Completes emptyTree u writes diagnostics report ∧
        (∀ front w back, writes = front ++ w :: back → (∀ v ∈ back, v.path ≠ w.path) →
          u.read w.path = .ok w.octets) ∧
        Generation.run u Sample.oneField {} ⟨{}, rfl⟩ {} = (u, .ok report)) ∧
      ∃ u fault, Generation.run blockedTree Sample.oneField {} ⟨{}, rfl⟩ {} = (u, .error fault) ∧
        Generation.Aborts blockedTree u writes fault := by
  have free : Sample.oneField.SlashFree :=
    { version := by decide, fields := by decide, components := nofun, groups := nofun
      messages := nofun }
  obtain ⟨d, diagnostics, writes, -, -, effect⟩ :=
    run_effect Sample.oneField_wellTyped ⟨{}, rfl⟩ {} {}
  have through : (Generation.run emptyTree Sample.oneField {} ⟨{}, rfl⟩ {}).2.isOk = true := by
    decide +kernel
  have blocked : (Generation.run blockedTree Sample.oneField {} ⟨{}, rfl⟩ {}).2.isOk = false := by
    decide +kernel
  refine ⟨Sample.oneField_wellTyped, free, diagnostics, writes, ?_, ?_⟩
  · rcases made : Generation.run emptyTree Sample.oneField {} ⟨{}, rfl⟩ {} with ⟨u, fault | report⟩
    · rw [made] at through
      exact absurd through Bool.false_ne_true
    · obtain ⟨completes, texts, again⟩ := (effect _ _).1 report made
      exact ⟨u, report, rfl, completes, texts free, again⟩
  · rcases made : Generation.run blockedTree Sample.oneField {} ⟨{}, rfl⟩ {} with
      ⟨u, fault | report⟩
    · exact ⟨u, fault, rfl, (effect _ _).2 fault made⟩
    · rw [made] at blocked
      exact absurd blocked nofun

end Repository
end FixBindings
