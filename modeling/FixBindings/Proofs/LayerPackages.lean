import FixBindings.Proofs.CaseMapping
import FixBindings.Proofs.ReferenceClosure
import FixBindings.Proofs.SourceLines
import Mathlib

/-!
# References between the packages of the two layers

With a package of its own for the session layer, the classes of its messages and of its groups
(`Repository.OfSession`) refer to components and groups in the session components package, and all
other classes to those in the components package of the application.  Where a class lies is decided by its declaration
alone: the groups of the session layer have classes in its package, and everything else in that of
the application.  So a reference from one layer to a declaration of the other keeps the name of
the class and misses its package, and `describe_components_routed` says exactly when a reference
is met.

For that, a qualified name has to say which package it is of.  Class names are arbitrary texts and
may hold points, but the segment for a version holds none, and this is enough
(`Layout.qualified_inj`).
-/

set_option autoImplicit false

namespace FixBindings

/-! ## Qualified names -/

namespace Layout

/-- The components package of either layer is named for a segment without a point. -/
theorem exists_segment (options : Options) (version : String) (session : Bool) :
    ∃ segment : String, '.' ∉ segment.toList ∧
      (ofVersion options version).componentsPackageOf session =
        libraryPackage ++ "." ++ segment ++ ".component" := by
  have own : ∃ segment : String, '.' ∉ segment.toList ∧
      (ofVersion options version).componentsPackage =
        libraryPackage ++ "." ++ segment ++ ".component" :=
    ⟨_, point_notMem_segmentOf version, rfl⟩
  cases session with
  | false => exact own
  | true =>
    rw [componentsPackageOf, if_pos rfl, sessionComponentsPackage]
    split
    · exact ⟨"fixt11", by decide, rfl⟩
    · exact own

/-- **A qualified name determines its package and its class name**, although class names may hold
points. -/
theorem qualified_inj {options : Options} {version : String} {s t : Bool} {m n : String}
    (h : (ofVersion options version).componentsPackageOf s ++ "." ++ m =
      (ofVersion options version).componentsPackageOf t ++ "." ++ n) :
    (ofVersion options version).componentsPackageOf s =
      (ofVersion options version).componentsPackageOf t ∧ m = n := by
  obtain ⟨p, hp, hs⟩ := exists_segment options version s
  obtain ⟨q, hq, ht⟩ := exists_segment options version t
  rw [hs, ht] at h ⊢
  have point : ".component".toList = '.' :: "component".toList := rfl
  have h := congrArg String.toList h
  simp only [String.toList_append, List.append_assoc, List.append_cancel_left_eq, point,
    List.cons_append] at h
  obtain ⟨hpq, hmn⟩ := Java.append_separator_inj hp hq h
  obtain rfl := String.toList_injective hpq
  simp only [List.append_cancel_left_eq] at hmn
  exact ⟨rfl, String.toList_injective hmn⟩

end Layout

namespace Repository

section Routes

variable (r : Repository) (options : Options) (layer : SessionLayer)

/-- A declaration has a class of the name in the package: a group with a declared counter in the
components package of its layer, or a component in that of the application. -/
def Routes (package name : String) : Prop :=
  (∃ g ∈ r.distinct.groups, (r.field? g.counter).isSome ∧
    (r.context options layer).layout.componentsPackageOf (layer.ownsGroup g) = package ∧
    (className g.name).value = name) ∨
  ∃ c ∈ describedComponents options layer r.distinct.components,
    (r.context options layer).layout.componentsPackage = package ∧
    (className c.name).value = name

variable {r options layer} {a : Artifact} {name qualified : String}

/-- The classes of components and groups are those that the declarations route. -/
theorem routes_iff (included : options.excludeSession = false) (package name : String) :
    r.Routes options layer package name ↔ ∃ b ∈ r.artifacts options layer,
      b.isComponent ∧ b.package = package ∧ b.className = name := by
  constructor
  · rintro (⟨g, hg, hc, rfl, rfl⟩ | ⟨c, hc, rfl, rfl⟩)
    · obtain ⟨counter, hc⟩ := Option.isSome_iff_exists.1 hc
      exact described_group layer included (group?_eq_some_iff.2 ⟨hg, rfl⟩) hc
    · exact ⟨_, mem_artifacts_iff.2 (.component hc), rfl, rfl, rfl⟩
  · rintro ⟨b, hb, component, rfl, rfl⟩
    cases mem_artifacts_iff.1 hb with
    | group hg hc => exact Or.inl ⟨_, hg, by rw [hc]; rfl, rfl, rfl⟩
    | component hc => exact Or.inr ⟨_, hc, rfl, rfl⟩
    | _ => exact absurd component Bool.false_ne_true

/-- **Which references between classes are met, with a package of its own for the session layer.**
A well-typed repository is described without a fault.  Whatever component or group class some class
refers to is one in the components package of the layer that the class itself belongs to, which is
the session layer for session messages and for groups that only they use.  A class of its name is
generated, and it is generated in that very package exactly when a declaration of that class name
is routed there. -/
theorem describe_components_routed (typed : r.WellTyped)
    (included : options.excludeSession = false) (separate : options.dedicatedSession = true)
    (ledger : Ledger) :
    ∃ d, ((describe options layer r).run ledger).1 = .ok d ∧
      ∀ a ∈ d.artifacts, ∀ name qualified,
        (Accessor.component name qualified).Within a.accessors →
        qualified = a.referencePackage ++ "." ++ name ∧
        (¬r.OfSession layer a ∧ a.referencePackage = d.layout.componentsPackage ∨
          r.OfSession layer a ∧ a.referencePackage = Layout.ownSessionComponentsPackage) ∧
        (∃ b ∈ d.artifacts, b.isComponent ∧ b.className = name) ∧
        ((∃ b ∈ d.artifacts, b.isComponent ∧ b.qualifiedName = qualified) ↔
          r.Routes options layer a.referencePackage name) := by
  refine ⟨_, (typed.describe_clean options layer).run ledger, fun a ha name qualified hx => ?_⟩
  have emitted := mem_artifacts_iff.1 ha
  obtain ⟨rfl, generated⟩ := emitted.named_component included hx
  obtain ⟨session, ofSession, home⟩ := emitted.referencePackage_eq typed hx
  refine ⟨rfl, ?_, generated, ?_⟩
  · rw [describe_layout, home, ← ofSession]
    cases session with
    | false => exact Or.inl ⟨Bool.false_ne_true, rfl⟩
    | true =>
      have separates : options.separatesSession = true := by
        simp [Options.separatesSession, Options.emitsSession, included, separate]
      exact Or.inr ⟨rfl, if_pos separates⟩
  · rw [routes_iff included]
    constructor
    · rintro ⟨b, hb, component, same⟩
      obtain ⟨other, package⟩ := (mem_artifacts_iff.1 hb).package_of_isComponent component
      rw [Artifact.qualifiedName, package, home] at same
      obtain ⟨packages, className⟩ := Layout.qualified_inj same
      exact ⟨b, hb, component, (package.trans packages).trans home.symm, className⟩
    · rintro ⟨b, hb, component, package, className⟩
      exact ⟨b, hb, component, by rw [Artifact.qualifiedName, package, className]⟩

theorem describe_components_routed_sample :
    (Sample.repository "FIX.4.4").WellTyped ∧ ∃ d,
      ((describe { compatible := rfl } {} (Sample.repository "FIX.4.4")).run []).1 = .ok d ∧
      ∀ a ∈ d.artifacts, ∀ name qualified,
        (Accessor.component name qualified).Within a.accessors →
        qualified = a.referencePackage ++ "." ++ name ∧
        (¬(Sample.repository "FIX.4.4").OfSession {} a ∧
            a.referencePackage = d.layout.componentsPackage ∨
          (Sample.repository "FIX.4.4").OfSession {} a ∧
            a.referencePackage = Layout.ownSessionComponentsPackage) ∧
        (∃ b ∈ d.artifacts, b.isComponent ∧ b.className = name) ∧
        ((∃ b ∈ d.artifacts, b.isComponent ∧ b.qualifiedName = qualified) ↔
          (Sample.repository "FIX.4.4").Routes { compatible := rfl } {} a.referencePackage name) :=
  ⟨Sample.wellTyped _, describe_components_routed (Sample.wellTyped _) rfl rfl []⟩

end Routes

/-- A session message that refers to a component. -/
def sessionInstrument : Repository where
  version := "FIX.4.4"
  components := [{ id := 10, name := "Inst" }]
  messages :=
    [{ name := "Logon", msgType := "A", category := "Session", members := [.component 10] }]

/-- A session message refers to the component in the package of its layer, where there is none:
the class lies in the package of the application. -/
theorem not_componentsClosed_of_separate :
    ¬∀ (r : Repository) (options : Options) (layer : SessionLayer), r.WellTyped →
      options.excludeSession = false → options.dedicatedSession = true →
      ∃ d, ((describe options layer r).run []).1 = .ok d ∧ d.ComponentsClosed := by
  intro h
  have typed : sessionInstrument.WellTyped :=
    ⟨nofun, nofun, by decide, nofun, by decide⟩
  obtain ⟨d, hd, closed⟩ := h sessionInstrument { compatible := rfl } {} typed rfl rfl
  obtain rfl := (Traced.run_eq_ok_iff.1 hd).2
  have references : (describe { compatible := rfl } {} sessionInstrument).value.artifacts.flatMap
      Artifact.accessors = [.component "Inst" "quickfix.fixt11.component.Inst"] := by cbv
  have components : ((describe { compatible := rfl } {} sessionInstrument).value.artifacts.filter
      Artifact.isComponent).map Artifact.qualifiedName = ["quickfix.fix44.component.Inst"] := by cbv
  obtain ⟨a, ha, hx⟩ := List.mem_flatMap.1 (references ▸ List.mem_singleton_self _)
  obtain ⟨b, hb, component, same⟩ := closed a ha _ _ (.here hx)
  have generated := List.mem_map_of_mem (f := Artifact.qualifiedName)
    (List.mem_filter.2 ⟨hb, component⟩)
  rw [components, same] at generated
  exact absurd generated (by decide)

end Repository
end FixBindings
