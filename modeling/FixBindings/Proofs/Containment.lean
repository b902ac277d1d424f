import FixBindings.Proofs.DistinctFiles

/-!
# Files below the output directory

A run is to write below its output directory and nowhere else.  The file of a class lies where its
package and its name say, and both come from names and a version that a document may hold anything
in: a slash in front makes a path of its own, and `..` climbs.

`Path.Below` says that a path lies below another once each `..` has taken back the name before it.
`Layout.Confined` says which packages and class names give paths below the output directory
whatever that directory is (`Layout.below_fileOf_iff`): no part starts with a slash, and the class
name climbs no higher than the package has directories.  `contained_iff` carries this over to runs,
and `not_contained` shows a field that is written next to the output directory.
-/

set_option autoImplicit false

namespace FixBindings

/-! ## Taking back names -/

namespace Path

variable {names taken rest : List String} {depth : Nat}

/-- The names of a relative path up to some name, last one first: `..` takes back the name before
it, if there is one that can be taken back. -/
def follow (taken : List String) (name : String) : List String :=
  if name = ".." then
    if taken.head?.getD ".." = ".." then ".." :: taken else taken.tail
  else name :: taken

/-- The names of a relative path in which each `..` has taken back the name before it. -/
def resolve (names : List String) : List String := (names.foldl follow []).reverse

/-- A path leads to a place within the directory of another one. -/
structure Below (output p : Path) : Prop where
  root : p.root = output.root
  names : ∃ rest, rest ≠ [] ∧ ".." ∉ rest ∧ resolve p.names = output.names ++ rest

/-- Whether names that are followed from some depth never climb above where the depth is counted
from, and end below it. -/
def staysWithin : Nat → List String → Bool
  | depth, [] => decide (0 < depth)
  | depth, name :: rest =>
    if name = ".." then decide (0 < depth) && staysWithin (depth - 1) rest
    else staysWithin (depth + 1) rest

theorem follow_of_ne {name : String} (h : name ≠ "..") : follow taken name = name :: taken :=
  if_neg h

theorem foldl_follow_of_notMem (h : ".." ∉ names) :
    names.foldl follow taken = names.reverse ++ taken := by
  induction names generalizing taken with
  | nil => rfl
  | cons name rest ih =>
    obtain ⟨first, others⟩ := not_or.1 (mt List.mem_cons.2 h)
    rw [List.foldl_cons, follow_of_ne (Ne.symm first), ih others]
    simp

theorem staysWithin_append (h : ".." ∉ names) :
    staysWithin depth (names ++ rest) = staysWithin (depth + names.length) rest := by
  induction names generalizing depth with
  | nil => rfl
  | cons name names ih =>
    obtain ⟨first, others⟩ := not_or.1 (mt List.mem_cons.2 h)
    rw [List.cons_append, staysWithin, if_neg (Ne.symm first), ih others, List.length_cons]
    congr 1
    omega

/-- Names that stay within take back none of the names that were there before. -/
theorem foldl_follow_of_staysWithin {top base : List String} (clean : ".." ∉ top)
    (h : staysWithin top.length names) :
    ∃ left, left ≠ [] ∧ ".." ∉ left ∧ names.foldl follow (top ++ base) = left ++ base := by
  induction names generalizing top with
  | nil =>
    have positive : 0 < top.length := of_decide_eq_true h
    exact ⟨top, List.ne_nil_of_length_pos positive, clean, rfl⟩
  | cons name rest ih =>
    rw [staysWithin] at h
    by_cases up : name = ".."
    · rw [if_pos up, Bool.and_eq_true] at h
      cases top with
      | nil => exact absurd h.1 (by decide)
      | cons last top =>
        obtain ⟨first, others⟩ := not_or.1 (mt List.mem_cons.2 clean)
        have back : follow (last :: top ++ base) name = top ++ base := by
          simp [follow, up, Ne.symm first]
        rw [List.foldl_cons, back]
        exact ih others h.2
    · rw [if_neg up] at h
      have clean : ".." ∉ name :: top := by simp [clean, Ne.symm up]
      rw [List.foldl_cons, follow_of_ne up]
      exact ih clean h

/-- A `..` that has nothing to take back stays in front. -/
theorem exists_foldl_follow (front : List String) :
    ∃ front', names.foldl follow (front ++ [".."]) = front' ++ [".."] := by
  induction names generalizing front with
  | nil => exact ⟨front, rfl⟩
  | cons name rest ih =>
    have kept : ∃ front', follow (front ++ [".."]) name = front' ++ [".."] := by
      rw [follow]
      split
      · split
        · exact ⟨".." :: front, rfl⟩
        · rename_i other
          cases front with
          | nil => exact absurd rfl other
          | cons last front => exact ⟨front, rfl⟩
      · exact ⟨name :: front, rfl⟩
    obtain ⟨front', same⟩ := kept
    rw [List.foldl_cons, same]
    exact ih front'

/-- Names that do not stay within lead nowhere or climb. -/
theorem foldl_follow_of_not_staysWithin {top : List String} (clean : ".." ∉ top)
    (h : staysWithin top.length names = false) :
    names.foldl follow top = [] ∨ ".." ∈ names.foldl follow top := by
  induction names generalizing top with
  | nil =>
    refine Or.inl (List.length_eq_zero_iff.1 ?_)
    simpa [staysWithin] using h
  | cons name rest ih =>
    rw [staysWithin] at h
    by_cases up : name = ".."
    · rw [if_pos up] at h
      cases top with
      | nil =>
        have first : follow [] name = [] ++ [".."] := by simp [follow, up]
        obtain ⟨front, climbs⟩ := @exists_foldl_follow rest []
        rw [List.foldl_cons, first, climbs]
        exact Or.inr (by simp)
      | cons last top =>
        obtain ⟨first, others⟩ := not_or.1 (mt List.mem_cons.2 clean)
        have back : follow (last :: top) name = top := by simp [follow, up, Ne.symm first]
        rw [List.foldl_cons, back]
        exact ih others (by simpa using h)
    · rw [if_neg up] at h
      have clean : ".." ∉ name :: top := by simp [clean, Ne.symm up]
      rw [List.foldl_cons, follow_of_ne up]
      exact ih clean h

/-- Names that stay within lead below any directory that does not climb itself. -/
theorem exists_resolve_append {output : List String} (clean : ".." ∉ output)
    (h : staysWithin 0 names) :
    ∃ rest, rest ≠ [] ∧ ".." ∉ rest ∧ resolve (output ++ names) = output ++ rest := by
  obtain ⟨left, ne, free, same⟩ :=
    @foldl_follow_of_staysWithin names [] output.reverse List.not_mem_nil h
  refine ⟨left.reverse, by simpa using ne, by simpa using free, ?_⟩
  rw [List.nil_append] at same
  rw [resolve, List.foldl_append, foldl_follow_of_notMem clean, List.append_nil, same,
    List.reverse_append, List.reverse_reverse]

/-- Names that lead to a place without climbing stay within. -/
theorem staysWithin_of_resolve (ne : resolve names ≠ []) (clean : ".." ∉ resolve names) :
    staysWithin 0 names := by
  by_contra outside
  rw [Bool.not_eq_true] at outside
  rcases foldl_follow_of_not_staysWithin List.not_mem_nil outside with empty | climbs
  · exact ne (by rw [resolve, empty, List.reverse_nil])
  · exact clean (List.mem_reverse.2 climbs)

/-! ## Roots -/

theorem root_join (base : Path) (s : String) :
    (base.join s).root = "" ↔ base.root = "" ∧ rootOf s = "" := by
  show (append base (ofText s)).root = "" ↔ _
  rw [append]
  have root : (ofText s).root = rootOf s := rfl
  by_cases relative : rootOf s = "" <;> simp [root, relative]

theorem names_join {base : Path} {s : String} (h : rootOf s = "") :
    (base.join s).names = base.names ++ (ofText s).names := by
  have root : ((ofText s).root == "") = true := beq_iff_eq.2 h
  show (append base (ofText s)).names = _
  rw [append, if_pos root]

theorem root_foldl_join (base : Path) (parts : List String) :
    (parts.foldl join base).root = "" ↔ base.root = "" ∧ ∀ part ∈ parts, rootOf part = "" := by
  induction parts generalizing base with
  | nil => simp
  | cons part parts ih => rw [List.foldl_cons, ih, root_join, List.forall_mem_cons, and_assoc]

theorem names_foldl_join (base : Path) {parts : List String}
    (h : ∀ part ∈ parts, rootOf part = "") :
    (parts.foldl join base).names =
      base.names ++ parts.flatMap fun part => (ofText part).names := by
  induction parts generalizing base with
  | nil => simp
  | cons part parts ih =>
    obtain ⟨first, others⟩ := List.forall_mem_cons.1 h
    rw [List.foldl_cons, ih _ others, names_join first, List.flatMap_cons, List.append_assoc]

end Path

/-! ## Classes -/

namespace Layout

open FixBindings.Path

variable {package className : String} {output : Path}

/-- The names of the directories of a package, whose parts may hold slashes. -/
def packageNames (package : String) : List String :=
  (splitText '.' package).flatMap fun part => (ofText part).names

/-- No part of a package and no class name starts with a slash, and the class name climbs no higher
than the package has directories. -/
structure Confined (package className : String) : Prop where
  parts : ∀ part ∈ splitText '.' package, rootOf part = ""
  name : rootOf (className ++ ".java") = ""
  depth : staysWithin (packageNames package).length (ofText (className ++ ".java")).names

instance : Decidable (Confined package className) :=
  decidable_of_iff ((∀ part ∈ splitText '.' package, rootOf part = "") ∧
      rootOf (className ++ ".java") = "" ∧
      staysWithin (packageNames package).length (ofText (className ++ ".java")).names)
    ⟨fun ⟨parts, name, depth⟩ => ⟨parts, name, depth⟩,
      fun ⟨parts, name, depth⟩ => ⟨parts, name, depth⟩⟩

/-- The directories of a package never climb, because its parts hold no points. -/
theorem parent_notMem_packageNames (package : String) : ".." ∉ packageNames package := by
  intro h
  obtain ⟨part, hpart, there⟩ := List.mem_flatMap.1 h
  obtain ⟨cs, hcs, rfl⟩ := List.mem_map.1 hpart
  obtain ⟨name, hname, same⟩ := List.mem_map.1 (List.mem_filter.1 there).1
  obtain ⟨point, -⟩ := of_mem_splitAt hcs
  obtain ⟨-, sub⟩ := of_mem_splitAt hname
  rw [String.toList_ofList] at sub
  have name_eq := congrArg String.toList same
  rw [String.toList_ofList] at name_eq
  exact point (sub (by simp [name_eq]))

theorem root_fileOf : (fileOf output package className).root = "" ↔
    output.root = "" ∧ (∀ part ∈ splitText '.' package, rootOf part = "") ∧
      rootOf (className ++ ".java") = "" := by
  rw [fileOf, root_join, directoryOf, root_foldl_join, and_assoc]

theorem names_fileOf (hp : ∀ part ∈ splitText '.' package, rootOf part = "")
    (hc : rootOf (className ++ ".java") = "") : (fileOf output package className).names =
      output.names ++ (packageNames package ++ (ofText (className ++ ".java")).names) := by
  rw [fileOf, names_join hc, directoryOf, names_foldl_join output hp, List.append_assoc]
  rfl

/-- **Which classes are written below the output directory, whatever it is.** -/
theorem below_fileOf_iff : (∀ output : Path, output.root = "" → ".." ∉ output.names →
      Below output (fileOf output package className)) ↔ Confined package className := by
  have within : staysWithin 0 (packageNames package ++ (ofText (className ++ ".java")).names) =
      staysWithin (packageNames package).length (ofText (className ++ ".java")).names := by
    rw [staysWithin_append (parent_notMem_packageNames package), Nat.zero_add]
  constructor
  · intro below
    -- the working directory has no name that a class could climb out of and back into
    obtain ⟨root, rest, ne, clean, names⟩ := below {} rfl List.not_mem_nil
    obtain ⟨-, hp, hc⟩ := root_fileOf.1 root
    rw [names_fileOf hp hc, List.nil_append] at names
    refine ⟨hp, hc, within ▸ staysWithin_of_resolve ?_ ?_⟩
    · rw [names]
      exact ne
    · rw [names]
      exact clean
  · rintro ⟨hp, hc, depth⟩ output relative clean
    refine ⟨(root_fileOf.2 ⟨relative, hp, hc⟩).trans relative.symm, ?_⟩
    rw [names_fileOf hp hc]
    exact exists_resolve_append clean (within.trans depth)

/-- A class may climb out of the two directories of its package, but no higher. -/
example : Confined "quickfix.field" "../../List" ∧ ¬Confined "quickfix.field" "../../../List" := by
  decide +kernel

/-- The name of a file is no shorter than its extension. -/
theorem fileName_ne {short : String} (h : short.length < 5) : className ++ ".java" ≠ short := by
  rintro rfl
  rw [String.length_append] at h
  exact absurd h (Nat.not_lt.2 (Nat.le_add_left 5 className.length))

/-- Without slashes nothing starts at a root and nothing climbs. -/
theorem confined_of_slash_notMem (hp : '/' ∉ package.toList) (hc : '/' ∉ className.toList) :
    Confined package className := by
  have slash : '/' ∉ (className ++ ".java").toList := by
    rw [String.toList_append, List.mem_append, not_or]
    exact ⟨hc, by decide⟩
  have root {s : String} (h : '/' ∉ s.toList) : rootOf s = "" :=
    congrArg Path.root (ofText_of_slash_notMem h)
  refine ⟨fun part hpart => root ?_, root slash, ?_⟩
  · obtain ⟨cs, hcs, rfl⟩ := List.mem_map.1 hpart
    rw [String.toList_ofList]
    exact fun there => hp ((of_mem_splitAt hcs).2 there)
  · have only : ([className ++ ".java"].filter fun name => name != "" && name != ".") =
        [className ++ ".java"] := by
      simp [fileName_ne (show "".length < 5 by decide), fileName_ne (show ".".length < 5 by decide)]
    rw [ofText_of_slash_notMem slash, only, staysWithin,
      if_neg (fileName_ne (show "..".length < 5 by decide)), staysWithin]
    exact decide_eq_true (Nat.succ_pos _)

end Layout

/-! ## Runs -/

namespace Repository

variable {r : Repository}

/-- Everything that is written of a repository lies below the output directory. -/
def StaysBelow (artifacts : List Artifact) : Prop :=
  ∀ output : Path, output.root = "" → ".." ∉ output.names →
    ∀ a ∈ artifacts, Path.Below output (a.path output)

theorem SlashFree.confined {options : Options} {layer : SessionLayer} (free : r.SlashFree) :
    ∀ site ∈ r.sites options layer, Layout.Confined site.1 site.2 := by
  intro site hsite
  obtain ⟨package, name⟩ := free.sites hsite
  have segment : '/' ∉ (Layout.ofVersion options r.version).segment.toList := free.segment
  exact Layout.confined_of_slash_notMem (Layout.slash_notMem_package segment package) name

theorem staysBelow_iff {options : Options} {layer : SessionLayer} :
    StaysBelow (r.artifacts options layer) ↔
      ∀ site ∈ r.sites options layer, Layout.Confined site.1 site.2 := by
  rw [← sites_artifacts, List.forall_mem_map]
  constructor
  · exact fun below a ha => Layout.below_fileOf_iff.1 fun output relative clean =>
      below output relative clean a ha
  · exact fun confined output relative clean a ha =>
      Layout.below_fileOf_iff.2 (confined a ha) output relative clean

/-- **When a run stays below its output directory.**  A well-typed repository is described without
a fault, and its classes are written below each relative output directory that does not climb
exactly if the packages and class names of all of them are confined.  They are where no name holds a
slash. -/
theorem contained_iff (typed : r.WellTyped) (options : Options) (layer : SessionLayer) :
    ∃ d, ((describe options layer r).run []).1 = .ok d ∧
      (StaysBelow d.artifacts ↔
        ∀ site ∈ r.sites options layer, Layout.Confined site.1 site.2) ∧
      (r.SlashFree → StaysBelow d.artifacts) :=
  ⟨_, (typed.describe_clean options layer).run [], staysBelow_iff,
    fun free => staysBelow_iff.2 free.confined⟩

theorem contained_iff_oneField :
    Sample.oneField.WellTyped ∧ Sample.oneField.SlashFree ∧ ∃ d,
      ((describe ⟨{}, rfl⟩ {} Sample.oneField).run []).1 = .ok d ∧ StaysBelow d.artifacts := by
  have free : Sample.oneField.SlashFree :=
    { version := by decide, fields := by decide, components := nofun, groups := nofun
      messages := nofun }
  obtain ⟨d, described, -, below⟩ := contained_iff Sample.oneField_wellTyped ⟨{}, rfl⟩ {}
  exact ⟨Sample.oneField_wellTyped, free, d, described, below free⟩

/-- A field whose name climbs. -/
def climbingField : Repository where
  version := "FIX.4.4"
  fields := [{ id := 1, name := "../../../Evil", type := "String" }]

/-- The class of a field is written next to the output directory. -/
theorem not_contained :
    ¬∀ (r : Repository) (options : Options) (layer : SessionLayer), r.WellTyped →
      ∃ d, ((describe options layer r).run []).1 = .ok d ∧ StaysBelow d.artifacts := by
  intro h
  have typed : climbingField.WellTyped := by
    refine ⟨fun f hf => ?_, nofun, nofun, nofun, nofun⟩
    obtain rfl := List.mem_singleton.1 hf
    exact ⟨rfl, rfl, Or.inl rfl⟩
  obtain ⟨d, hd, below⟩ := h climbingField ⟨{}, rfl⟩ {} typed
  obtain rfl := (Traced.run_eq_ok_iff.1 hd).2
  have sites : climbingField.sites ⟨{}, rfl⟩ {} =
      [("quickfix.field", "../../../Evil"), ("quickfix.fix44", "MessageFactory"),
        ("quickfix.fix44", "MessageCracker")] := by decide +kernel
  have confined := staysBelow_iff.1 below ("quickfix.field", "../../../Evil") (by simp [sites])
  exact absurd confined (by decide +kernel)

end Repository
end FixBindings
