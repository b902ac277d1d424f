import FixBindings.Generation
import FixBindings.Proofs.Artifacts
import FixBindings.Proofs.CaseMapping
import Mathlib.Data.List.Dedup

/-!
# One file for each class

A run writes one file for each class, and the place of the file follows from the package and the
name of the class alone.  So a file is overwritten by a later one where two classes have the same
package and the same name, and `Repository.sites` reads these off the declarations: from ids that
differ nothing follows, because class names come from names, and a name loses its underscores and
blanks on the way and may get a scenario appended.  `files_distinct_iff` says exactly when each
class keeps a file of its own, and `not_files_distinct` shows two messages that share one.

Names may hold slashes, and then files may meet in other ways.  Without slashes the file tells the
class (`SlashFree.file_inj`): the directories tell the packages apart (`Layout.directoryNames_inj`),
since the segment for the version holds no point.
-/

set_option autoImplicit false

namespace FixBindings

/-! ## Splitting and joining -/

namespace Path

variable {separator : Char} {cs : List Char} {s t : String}

theorem splitAt_of_notMem (h : separator ∉ cs) : splitAt separator cs = [cs] := by
  induction cs with
  | nil => rfl
  | cons c rest ih =>
    obtain ⟨hc, hrest⟩ := not_or.1 (mt List.mem_cons.2 h)
    rw [splitAt, if_neg (by simpa using Ne.symm hc), ih hrest]

theorem splitAt_append (h : separator ∉ cs) (rest : List Char) :
    splitAt separator (cs ++ separator :: rest) = cs :: splitAt separator rest := by
  induction cs with
  | nil => simp [splitAt]
  | cons c front ih =>
    obtain ⟨hc, hfront⟩ := not_or.1 (mt List.mem_cons.2 h)
    rw [List.cons_append, splitAt, if_neg (by simpa using Ne.symm hc), ih hfront]

/-- A part holds characters of the text and no separator. -/
theorem of_mem_splitAt {part : List Char} (h : part ∈ splitAt separator cs) :
    separator ∉ part ∧ part ⊆ cs := by
  induction cs generalizing part with
  | nil =>
    obtain rfl := List.mem_singleton.1 h
    exact ⟨List.not_mem_nil, List.Subset.refl _⟩
  | cons c rest ih =>
    rw [splitAt] at h
    split at h
    · rcases List.mem_cons.1 h with rfl | h
      · exact ⟨List.not_mem_nil, List.nil_subset _⟩
      · exact ⟨(ih h).1, List.subset_cons_of_subset c (ih h).2⟩
    · rename_i hc
      have other : separator ≠ c := fun same => hc (by simp [same])
      split at h
      · obtain rfl := List.mem_singleton.1 h
        exact ⟨by simpa using other, by simp⟩
      · rename_i first parts split
        rcases List.mem_cons.1 h with rfl | h
        · have inner := ih (split ▸ List.mem_cons_self)
          exact ⟨by simp [other, inner.1], List.cons_subset_cons c inner.2⟩
        · have inner := ih (split ▸ List.mem_cons_of_mem first h)
          exact ⟨inner.1, List.subset_cons_of_subset c inner.2⟩

theorem splitText_of_notMem (h : separator ∉ s.toList) : splitText separator s = [s] := by
  simp [splitText, splitAt_of_notMem h]

theorem splitText_append (h : '.' ∉ s.toList) :
    splitText '.' (s ++ "." ++ t) = s :: splitText '.' t := by
  have point : ".".toList = ['.'] := rfl
  simp [splitText, point, splitAt_append h]

/-- The path of a name without slashes. -/
theorem ofText_of_slash_notMem (h : '/' ∉ s.toList) :
    ofText s = ⟨"", [s].filter fun name => name != "" && name != "."⟩ := by
  have root : rootOf s = "" := by
    rw [rootOf]
    split
    · rename_i hs
      simp [hs] at h
    · rename_i hs
      simp [hs] at h
    · rename_i hs
      simp [hs] at h
    · rfl
  rw [ofText, root, splitText_of_notMem h]

theorem join_of_slash_notMem (base : Path) (h : '/' ∉ s.toList) :
    base.join s = ⟨base.root, base.names ++ [s].filter fun name => name != "" && name != "."⟩ := by
  rw [join, ofText_of_slash_notMem h]
  rfl

end Path

namespace Layout

variable {package className : String} {output : Path}

/-- The names of the directories for a package below the output directory. -/
def directoryNames (package : String) : List String :=
  (Path.splitText '.' package).filter (· != "")

theorem directoryOf_eq (output : Path) (h : '/' ∉ package.toList) :
    directoryOf output package = ⟨output.root, output.names ++ directoryNames package⟩ := by
  have parts : ∀ part ∈ Path.splitText '.' package, '/' ∉ part.toList ∧ part ≠ "." := by
    intro part hpart
    obtain ⟨cs, hcs, rfl⟩ := List.mem_map.1 hpart
    obtain ⟨point, sub⟩ := Path.of_mem_splitAt hcs
    rw [String.toList_ofList]
    refine ⟨fun slash => h (sub slash), fun same => point ?_⟩
    have cs_eq := congrArg String.toList same
    rw [String.toList_ofList] at cs_eq
    rw [cs_eq]
    decide
  rw [directoryOf, directoryNames]
  generalize Path.splitText '.' package = names at parts
  induction names generalizing output with
  | nil => simp
  | cons name rest ih =>
    obtain ⟨slash, point⟩ := parts name List.mem_cons_self
    rw [List.foldl_cons, Path.join_of_slash_notMem _ slash,
      ih _ fun part hpart => parts part (List.mem_cons_of_mem name hpart)]
    by_cases empty : name = ""
    · simp [empty]
    · simp [empty, point]

theorem fileOf_eq (output : Path) (hp : '/' ∉ package.toList) (hc : '/' ∉ className.toList) :
    fileOf output package className =
      ⟨output.root, output.names ++ directoryNames package ++ [className ++ ".java"]⟩ := by
  have slash : '/' ∉ (className ++ ".java").toList := by
    rw [String.toList_append, List.mem_append, not_or]
    exact ⟨hc, by decide⟩
  have long (short : String) (h : className ++ ".java" = short) : 5 ≤ short.length := by
    rw [← h, String.length_append]
    exact Nat.le_add_left _ _
  have named : className ++ ".java" ≠ "" ∧ className ++ ".java" ≠ "." :=
    ⟨fun same => absurd (long "" same) (by decide), fun same => absurd (long "." same) (by decide)⟩
  rw [fileOf, directoryOf_eq output hp, Path.join_of_slash_notMem _ slash]
  simp [named]

/-- The package for a segment, or the package of its components. -/
def packageFor (segment : String) (components : Bool) : String :=
  libraryPackage ++ "." ++ segment ++ if components then ".component" else ""

/-- The directories of a package.  A segment may be empty, and then it has none. -/
theorem directoryNames_packageFor {segment : String} (h : '.' ∉ segment.toList)
    (components : Bool) : directoryNames (packageFor segment components) =
      "quickfix" :: ([segment].filter (· != "") ++ if components then ["component"] else []) := by
  cases components with
  | false =>
    rw [directoryNames, packageFor, if_neg Bool.false_ne_true, String.append_empty,
      Path.splitText_append (by decide), Path.splitText_of_notMem h]
    simp [libraryPackage]
  | true =>
    have parts : packageFor segment true =
        libraryPackage ++ "." ++ (segment ++ "." ++ "component") := by
      have point : ".component" = "." ++ "component" := rfl
      rw [packageFor, if_pos rfl, point]
      simp only [String.append_assoc]
    have names : [segment, "component"].filter (· != "") =
        [segment].filter (· != "") ++ ["component"] :=
      List.filter_append [segment] ["component"]
    rw [directoryNames, parts, Path.splitText_append (by decide), Path.splitText_append h,
      Path.splitText_of_notMem (by decide), List.filter_cons_of_pos (by decide), names]
    rfl

/-- The packages that classes may lie in. -/
def packages (l : Layout) : List String :=
  [fieldsPackage, l.messagesPackage, l.componentsPackage, ownSessionPackage,
    ownSessionComponentsPackage]

/-- A package of a layout is named for one of three segments. -/
def HasSegment (l : Layout) (segment : String) : Prop :=
  segment = l.segment ∨ segment = "field" ∨ segment = "fixt11"

variable {l : Layout} {s t : String} {a b : Bool}

theorem exists_packageFor (h : package ∈ l.packages) :
    ∃ segment components, package = packageFor segment components ∧ l.HasSegment segment := by
  simp only [packages, List.mem_cons, List.not_mem_nil, or_false] at h
  rcases h with rfl | rfl | rfl | rfl | rfl
  · exact ⟨"field", false, rfl, Or.inr (Or.inl rfl)⟩
  · exact ⟨l.segment, false, by simp [packageFor, messagesPackage], Or.inl rfl⟩
  · exact ⟨l.segment, true, rfl, Or.inl rfl⟩
  · exact ⟨"fixt11", false, rfl, Or.inr (Or.inr rfl)⟩
  · exact ⟨"fixt11", true, rfl, Or.inr (Or.inr rfl)⟩

/-- Only the segment for the version may be empty, and then no other one is `component`. -/
theorem HasSegment.names_ne (hs : l.HasSegment s) (ht : l.HasSegment t) (se : s = "")
    (te : t ≠ "") : (if a then ["component"] else []) ≠
      t :: if b then ["component"] else [] := by
  have empty : l.segment = "" := by
    rcases hs with rfl | rfl | rfl
    · exact se
    · exact absurd se (by decide)
    · exact absurd se (by decide)
  rcases ht with rfl | rfl | rfl
  · exact absurd empty te
  · cases a <;> cases b <;> decide
  · cases a <;> cases b <;> decide

/-- **The directories tell the packages of a layout apart.** -/
theorem directoryNames_inj {p q : String} (point : '.' ∉ l.segment.toList)
    (hp : p ∈ l.packages) (hq : q ∈ l.packages) (h : directoryNames p = directoryNames q) :
    p = q := by
  obtain ⟨s, a, rfl, hs⟩ := exists_packageFor hp
  obtain ⟨t, b, rfl, ht⟩ := exists_packageFor hq
  have points {segment : String} (h : l.HasSegment segment) : '.' ∉ segment.toList := by
    rcases h with rfl | rfl | rfl
    · exact point
    · decide
    · decide
  have same : ∀ {a b : Bool}, (if a then ["component"] else []) =
      (if b then ["component"] else []) → a = b := by decide
  rw [directoryNames_packageFor (points hs), directoryNames_packageFor (points ht)] at h
  have names := (List.cons.inj h).2
  by_cases se : s = "" <;> by_cases te : t = ""
  · subst se te
    rw [same names]
  · exact absurd (by simpa [se, te] using names) (hs.names_ne ht se te)
  · exact absurd (by simpa [se, te] using names.symm) (ht.names_ne hs te se)
  · simp only [List.filter_cons, se, te, bne_iff_ne, ne_eq, not_false_iff, if_true,
      List.filter_nil, List.singleton_append, List.cons.injEq] at names
    rw [names.1, same names.2]

end Layout

/-! ## Sites -/

/-- A class is told by its package and its name. -/
def Artifact.site (a : Artifact) : String × String := (a.package, a.className)

namespace Repository

section Sites

variable (r : Repository) (options : Options) (layer : SessionLayer)

/-- The packages and names of the classes of a repository, in order, as the declarations have
them. -/
def sites : List (String × String) :=
  let l := Layout.ofVersion options r.version
  (describedFields options (r.usage options layer) r.distinct.fields).map
      (fun f => (fieldsPackage, (className f.name).value)) ++
    options.layers.flatMap (fun session =>
      (r.distinct.groups.filter fun g =>
          layer.ownsGroup g == session && (r.field? g.counter).isSome).map
        fun g => (l.componentsPackageOf session, (className g.name).value)) ++
    (describedComponents options layer r.distinct.components).map
      (fun c => (l.componentsPackage, (className c.name).value)) ++
    options.layers.flatMap (fun session =>
      (r.distinct.messages.filter fun m => layer.ownsMessage m == session).map
        fun m => (l.messagesPackageOf session, m.className.value)) ++
    (if options.messageBase then [(l.messagesPackage, "Message")] else []) ++
    [(l.messagesPackage, "MessageFactory"), (l.messagesPackage, "MessageCracker")]

theorem sites_groupClasses (session : Bool) :
    (r.groupClasses options layer session).map Artifact.site =
      (r.distinct.groups.filter fun g =>
          layer.ownsGroup g == session && (r.field? g.counter).isSome).map
        fun g => ((Layout.ofVersion options r.version).componentsPackageOf session,
          (className g.name).value) := by
  simp only [groupClasses, Context.value_describeGroup, context_index, index_field?]
  induction r.distinct.groups with
  | nil => rfl
  | cons g rest ih =>
    cases owned : layer.ownsGroup g == session with
    | false => simpa [List.filter_cons, owned] using ih
    | true =>
      cases counter : r.field? g.counter with
      | none => simpa [List.filter_cons, owned, counter] using ih
      | some f => simpa [List.filter_cons, owned, counter] using ⟨rfl, ih⟩

/-- **The classes lie where the declarations say.** -/
theorem sites_artifacts :
    (r.artifacts options layer).map Artifact.site = r.sites options layer := by
  have single : (r.singleClasses options layer).map Artifact.site =
      (if options.messageBase then
        [((Layout.ofVersion options r.version).messagesPackage, "Message")] else []) ++
      [((Layout.ofVersion options r.version).messagesPackage, "MessageFactory"),
        ((Layout.ofVersion options r.version).messagesPackage, "MessageCracker")] := by
    rw [singleClasses]
    cases options.messageBase <;> rfl
  simp only [artifacts_eq, List.map_append, List.map_flatMap, sites_groupClasses, sites, single,
    fieldClasses, componentClasses, messageClasses, List.map_map, List.append_assoc]
  rfl

end Sites

end Repository

/-! ## Names without slashes -/

/-- Whether a document is a text with a slash. -/
def Document.holdsSlash : Document → Bool
  | .text s => s.toList.contains '/'
  | _ => false

theorem slash_notMem_className {d : Document} (h : d.holdsSlash = false) :
    '/' ∉ (className d).value.toList := by
  have slash : Unicode.BeforeLetters '/' := by decide
  cases d with
  | text s =>
    intro hs
    have there : '/' ∈ s.toList := Naming.mem_of_mem_titleCase slash hs
    simp [Document.holdsSlash, there] at h
  | _ =>
    intro hs
    have there : '/' ∈ "".toList := Naming.mem_of_mem_titleCase slash hs
    exact absurd there (by decide)

theorem Layout.slash_notMem_package {l : Layout} {package : String}
    (segment : '/' ∉ l.segment.toList) (h : package ∈ l.packages) : '/' ∉ package.toList := by
  obtain ⟨s, components, rfl, hs⟩ := exists_packageFor h
  have hs : '/' ∉ s.toList := by
    rcases hs with rfl | rfl | rfl
    · exact segment
    · decide
    · decide
  rw [packageFor, String.toList_append, String.toList_append, List.mem_append, List.mem_append,
    not_or, not_or]
  refine ⟨⟨by decide, hs⟩, ?_⟩
  cases components <;> decide

/-- **Without slashes, a file tells the package and the name of its class.** -/
theorem Layout.fileOf_inj {l : Layout} {p q m n : String} {output : Path}
    (point : '.' ∉ l.segment.toList) (segment : '/' ∉ l.segment.toList) (hp : p ∈ l.packages)
    (hq : q ∈ l.packages) (hm : '/' ∉ m.toList) (hn : '/' ∉ n.toList)
    (h : fileOf output p m = fileOf output q n) : p = q ∧ m = n := by
  rw [fileOf_eq output (slash_notMem_package segment hp) hm,
    fileOf_eq output (slash_notMem_package segment hq) hn, Path.mk.injEq, List.append_assoc,
    List.append_assoc] at h
  have below := List.append_cancel_left h.2
  obtain ⟨directories, names⟩ := List.append_inj' below rfl
  refine ⟨directoryNames_inj point hp hq directories, ?_⟩
  have names := congrArg String.toList (List.cons.inj names).1
  rw [String.toList_append, String.toList_append] at names
  exact String.toList_injective (List.append_cancel_right names)

namespace Repository

/-- No name, no scenario and no version that counts holds a slash. -/
structure SlashFree (r : Repository) : Prop where
  version : '/' ∉ (baseVersion r.version).toList
  fields : ∀ f ∈ r.fields, f.name.holdsSlash = false
  components : ∀ c ∈ r.components, c.name.holdsSlash = false
  groups : ∀ g ∈ r.groups, g.name.holdsSlash = false
  messages : ∀ m ∈ r.messages, m.name.holdsSlash = false ∧ m.scenario.holdsSlash = false

variable {r : Repository} {options : Options} {layer : SessionLayer} {output : Path}

theorem SlashFree.message (free : r.SlashFree) {m : Message} (hm : m ∈ r.messages) :
    '/' ∉ m.className.value.toList := by
  obtain ⟨name, scenario⟩ := free.messages m hm
  have name := slash_notMem_className name
  have scenario := slash_notMem_className scenario
  rw [Message.className]
  cases m.isBase with
  | true => exact name
  | false =>
    show '/' ∉ ((className m.name).value ++ (className m.scenario).value).toList
    rw [String.toList_append, List.mem_append, not_or]
    exact ⟨name, scenario⟩

theorem SlashFree.segment (free : r.SlashFree) : '/' ∉ (segmentOf r.version).toList :=
  fun h => free.version (mem_of_mem_segmentOf (by decide) h).2

theorem mem_packages_componentsPackageOf (l : Layout) (session : Bool) :
    l.componentsPackageOf session ∈ l.packages := by
  rw [Layout.componentsPackageOf, Layout.sessionComponentsPackage]
  cases session <;> cases l.options.separatesSession <;> simp [Layout.packages]

theorem mem_packages_messagesPackageOf (l : Layout) (session : Bool) :
    l.messagesPackageOf session ∈ l.packages := by
  rw [Layout.messagesPackageOf, Layout.sessionMessagesPackage]
  cases session <;> cases l.options.separatesSession <;> simp [Layout.packages]

/-- The classes lie in packages of the layout, and their names hold no slash. -/
theorem SlashFree.sites (free : r.SlashFree) {site : String × String}
    (h : site ∈ r.sites options layer) :
    site.1 ∈ (Layout.ofVersion options r.version).packages ∧ '/' ∉ site.2.toList := by
  simp only [Repository.sites, List.mem_append, List.mem_flatMap, List.mem_map] at h
  rcases h with ((((⟨f, hf, rfl⟩ | ⟨session, -, g, hg, rfl⟩) | ⟨c, hc, rfl⟩) |
    ⟨session, -, m, hm, rfl⟩) | h) | h
  · have declared := distinct_fields_subset (describedFields_subset _ _ _ hf)
    exact ⟨List.mem_cons_self, slash_notMem_className (free.fields f declared)⟩
  · have declared := distinct_groups_subset (List.mem_filter.1 hg).1
    exact ⟨mem_packages_componentsPackageOf _ session,
      slash_notMem_className (free.groups g declared)⟩
  · have declared := distinct_components_subset (describedComponents_subset _ _ _ hc)
    exact ⟨mem_packages_componentsPackageOf _ false,
      slash_notMem_className (free.components c declared)⟩
  · have declared := distinct_messages_subset (List.mem_filter.1 hm).1
    exact ⟨mem_packages_messagesPackageOf _ session, free.message declared⟩
  · split at h
    · obtain rfl := List.mem_singleton.1 h
      exact ⟨mem_packages_messagesPackageOf _ false, (by decide : '/' ∉ "Message".toList)⟩
    · exact absurd h List.not_mem_nil
  · rcases List.mem_pair.1 h with rfl | rfl
    · exact ⟨mem_packages_messagesPackageOf _ false, (by decide : '/' ∉ "MessageFactory".toList)⟩
    · exact ⟨mem_packages_messagesPackageOf _ false, (by decide : '/' ∉ "MessageCracker".toList)⟩

/-- **Where names hold no slash, a file tells its class.** -/
theorem SlashFree.file_inj (free : r.SlashFree) {s t : String × String}
    (hs : s ∈ r.sites options layer) (ht : t ∈ r.sites options layer)
    (h : Layout.fileOf output s.1 s.2 = Layout.fileOf output t.1 t.2) : s = t := by
  obtain ⟨sPackage, sName⟩ := free.sites hs
  obtain ⟨tPackage, tName⟩ := free.sites ht
  have points : '.' ∉ (Layout.ofVersion options r.version).segment.toList :=
    point_notMem_segmentOf r.version
  obtain ⟨package, name⟩ := Layout.fileOf_inj points free.segment sPackage tPackage sName tName h
  exact Prod.ext package name

end Repository

/-! ## Runs -/

/-- A list is as long as the list of its different items exactly if all are different. -/
theorem length_eq_length_dedup_iff {α : Type} [DecidableEq α] (xs : List α) :
    xs.length = xs.dedup.length ↔ xs.Nodup := by
  constructor
  · intro same
    exact List.dedup_eq_self.1 ((List.dedup_sublist xs).eq_of_length same.symm)
  · intro nodup
    rw [List.dedup_eq_self.2 nodup]

/-- The files that are recorded while artifacts are written. -/
theorem Generation.written_writeAll {output : Path} {artifacts : List Artifact} {t t' : FileTree}
    {before after : Report} (h : writeAll output t before artifacts = (t', .ok after)) :
    after.written = before.written ++ artifacts.map (Artifact.path output) := by
  induction artifacts generalizing t before with
  | nil =>
    obtain ⟨-, rfl⟩ := by simpa [writeAll] using h
    simp
  | cons a rest ih =>
    rw [writeAll] at h
    split at h
    · simp at h
    · rw [ih h]
      simp [Report.wrote]

theorem Report.written_warn (report : Report) (texts : List String) :
    (texts.foldl warn report).written = report.written := by
  induction texts generalizing report with
  | nil => rfl
  | cons text rest ih => exact ih _

/-- What a successful run has written. -/
theorem Generation.written_run {t t' : FileTree} {r : Repository} {output : Path}
    {options : Options} {layer : SessionLayer} {report : Report}
    (h : run t r output options layer = (t', .ok report)) :
    report.written = (r.artifacts options layer).map (Artifact.path output) := by
  rw [run] at h
  split at h
  · simp at h
  · rename_i d diagnostics made
    simp only at h
    split at h
    · simp at h
    · rename_i after written
      obtain ⟨rfl, rfl⟩ := by simpa using h
      obtain rfl := (Traced.run_eq_ok_iff.1 (congrArg Prod.fst made)).2
      rw [Report.written_warn, written_writeAll written]
      rfl

namespace Repository

variable {r : Repository}

/-- **When each class has a file of its own.**  A well-typed repository is described without a
fault, and its classes have the files that their sites say.  Where no name holds a slash, the files
are different exactly if no two classes have the same package and name; and for all names, the files
that a successful run counts are as many as the different files that it wrote exactly if all of
them are different. -/
theorem files_distinct_iff (typed : r.WellTyped) (options : Options) (layer : SessionLayer)
    (output : Path) :
    ∃ d, ((describe options layer r).run []).1 = .ok d ∧
      d.artifacts.map (Artifact.path output) =
        (r.sites options layer).map (fun site => Layout.fileOf output site.1 site.2) ∧
      (r.SlashFree → ((d.artifacts.map (Artifact.path output)).Nodup ↔
        (r.sites options layer).Nodup)) ∧
      ∀ t t' report, Generation.run t r output options layer = (t', .ok report) →
        (report.total = report.written.dedup.length ↔
          (d.artifacts.map (Artifact.path output)).Nodup) := by
  have files : (r.artifacts options layer).map (Artifact.path output) =
      (r.sites options layer).map fun site => Layout.fileOf output site.1 site.2 := by
    rw [← sites_artifacts, List.map_map]
    rfl
  refine ⟨_, (typed.describe_clean options layer).run [], files, fun free => ?_,
    fun t t' report written => ?_⟩
  · refine (iff_of_eq (congrArg List.Nodup files)).trans ?_
    exact ⟨List.Nodup.of_map _, fun nodup =>
      nodup.map_on fun s hs t ht same => free.file_inj hs ht same⟩
  · rw [Report.total, Generation.written_run written]
    exact length_eq_length_dedup_iff _

theorem files_distinct_iff_oneField :
    Sample.oneField.WellTyped ∧ Sample.oneField.SlashFree ∧ ∃ d t' report,
      ((describe ⟨{}, rfl⟩ {} Sample.oneField).run []).1 = .ok d ∧
      Generation.run (.ofWorking ["home"]) Sample.oneField {} ⟨{}, rfl⟩ {} = (t', .ok report) ∧
      ((d.artifacts.map (Artifact.path {})).Nodup ↔ (Sample.oneField.sites ⟨{}, rfl⟩ {}).Nodup) ∧
      (report.total = report.written.dedup.length ↔
        (d.artifacts.map (Artifact.path {})).Nodup) := by
  have free : Sample.oneField.SlashFree :=
    { version := by decide, fields := by decide, components := nofun, groups := nofun
      messages := nofun }
  obtain ⟨d, described, -, distinct, counted⟩ :=
    files_distinct_iff Sample.oneField_wellTyped ⟨{}, rfl⟩ {} {}
  have success : (Generation.run (.ofWorking ["home"]) Sample.oneField {} ⟨{}, rfl⟩ {}).2.isOk =
      true := by decide +kernel
  rcases made : Generation.run (.ofWorking ["home"]) Sample.oneField {} ⟨{}, rfl⟩ {} with
    ⟨t', fault | report⟩
  · rw [made] at success
    exact absurd success Bool.false_ne_true
  · exact ⟨Sample.oneField_wellTyped, free, d, t', report, described, rfl, distinct free,
      counted _ _ _ made⟩

/-- A scenario `List` of one message, and another message whose name reads the same. -/
def orderLists : Repository where
  version := "FIX.4.4"
  messages :=
    [{ name := "Order", msgType := "D", scenario := "List" },
      { name := "OrderList", msgType := "E" }]

/-- The class of the message `OrderList` takes the file of the class of the scenario `List` of the
message `Order`, and no diagnostic says so. -/
theorem not_files_distinct :
    ¬∀ (r : Repository) (options : Options) (layer : SessionLayer) (output : Path), r.WellTyped →
      ((Index.ofRepository r).run []).2 = [] →
      ∃ d, ((describe options layer r).run []).1 = .ok d ∧
        (d.artifacts.map (Artifact.path output)).Nodup := by
  intro h
  have typed : orderLists.WellTyped := ⟨nofun, nofun, nofun, nofun, by decide⟩
  obtain ⟨d, hd, distinct⟩ := h orderLists ⟨{}, rfl⟩ {} {} typed (by decide +kernel)
  obtain rfl := (Traced.run_eq_ok_iff.1 hd).2
  have sites : (orderLists.artifacts ⟨{}, rfl⟩ {}).map Artifact.site =
      [("quickfix.fix44", "OrderList"), ("quickfix.fix44", "OrderList"),
        ("quickfix.fix44", "MessageFactory"), ("quickfix.fix44", "MessageCracker")] := by
    rw [sites_artifacts]
    decide +kernel
  have files : (orderLists.artifacts ⟨{}, rfl⟩ {}).map (Artifact.path {}) =
      ((orderLists.artifacts ⟨{}, rfl⟩ {}).map Artifact.site).map fun site =>
        Layout.fileOf {} site.1 site.2 := by
    rw [List.map_map]
    rfl
  have nodup := List.Nodup.of_map _ (files ▸ distinct)
  rw [sites] at nodup
  exact absurd nodup (by decide)

end Repository
end FixBindings
