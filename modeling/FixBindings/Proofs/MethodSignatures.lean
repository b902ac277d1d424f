import FixBindings.Proofs.InnerClasses
import FixBindings.Proofs.LayerPackages
import FixBindings.Proofs.Methods
import Mathlib.Data.List.Nodup
import Mathlib.Data.List.Pairwise

/-!
# The methods of a class

What the methods of a class are told apart by is the name together with the type of the parameter,
and the same cannot be declared twice.  The accessors of a class are told apart by their kind and
name (`Emits.apart`), but the names of methods are derived from these, so whether the methods are
apart too is a question of its own.

Methods with a parameter are told apart by its type: types of fields lie in the package of fields,
and no components package can be taken for it, whatever the version is (`fieldClass_ne_qualified`).
Methods without a parameter are told apart by their names, but for one case: the method for a
component `Parties` is called what the method for a field `PartiesComponent` is called.
`methods_distinct_iff` says that there is no other.
-/

set_option autoImplicit false

namespace FixBindings
namespace Java

/-! ## Signatures -/

/-- The signatures of the methods of an accessor. -/
def signatures (x : Accessor) : List (String × Option String) :=
  (methods x).map Method.signature

theorem signatures_field (name : String) (id : Int) :
    signatures (.field name id) =
      [("set", some (Accessor.fieldClass name)), ("get", some (Accessor.fieldClass name)),
        ("get" ++ name, none), ("isSet", some (Accessor.fieldClass name)),
        ("isSet" ++ name, none)] := rfl

theorem signatures_component (name cls : String) :
    signatures (.component name cls) =
      [("set", some cls), ("get", some cls), ("get" ++ name ++ "Component", none)] := rfl

theorem get_ne_isSet (s t : String) : "get" ++ s ≠ "isSet" ++ t := by
  intro same
  have first := congrArg (fun text => text.toList.head?) same
  simp at first

theorem fieldClass_injective : Function.Injective Accessor.fieldClass := by
  intro s t same
  simpa [Accessor.fieldClass, ← String.toList_inj] using same

/-- The methods of one accessor have signatures of their own. -/
theorem nodup_signatures (x : Accessor) : (signatures x).Nodup := by
  cases x with
  | field name id => simp [signatures_field]
  | component name cls => simp [signatures_component]
  | group => exact List.nodup_nil

theorem disjoint_fields {m n : String} (h : m ≠ n) (i j : Int) :
    (signatures (.field m i)).Disjoint (signatures (.field n j)) := by
  have types := (fieldClass_injective.ne h).symm
  have other := (get_ne_isSet m n).symm
  simp [signatures_field, types, h.symm, get_ne_isSet, other]

theorem disjoint_components {m n p q : String} (h : m ≠ n) (types : p ≠ q) :
    (signatures (.component m p)).Disjoint (signatures (.component n q)) := by
  simp [signatures_component, types.symm, h.symm]

/-- The methods of a field and of a component meet in nothing but those without a parameter. -/
theorem disjoint_field_component_iff {m n q : String} {i : Int}
    (types : Accessor.fieldClass m ≠ q) :
    (signatures (.field m i)).Disjoint (signatures (.component n q)) ↔ m ≠ n ++ "Component" := by
  have get : "get" ++ n ++ "Component" = "get" ++ m ↔ m = n ++ "Component" := by
    rw [String.append_assoc, String.append_right_inj, eq_comm]
  have isSet : "get" ++ n ++ "Component" ≠ "isSet" ++ m := by
    rw [String.append_assoc]
    exact get_ne_isSet _ m
  simp [signatures_field, signatures_component, types.symm, get, isSet]

/-- **Methods have signatures of their own but for one case**, where accessors are told apart by
their kind and name and no class of a field is one of a component. -/
theorem nodup_signatures_iff {as : List Accessor} {package : String}
    (apart : as.Pairwise fun x y => Accessor.sameSlot x y = false)
    (qualified : ∀ n q, .component n q ∈ as → q = package ++ "." ++ n)
    (types : ∀ m i n q, .field m i ∈ as → .component n q ∈ as → Accessor.fieldClass m ≠ q) :
    (as.flatMap signatures).Nodup ↔
      ∀ m i n q, .field m i ∈ as → .component n q ∈ as → m ≠ n ++ "Component" := by
  rw [List.nodup_flatMap]
  constructor
  · rintro ⟨-, pairs⟩ m i n q hm hn
    have symm : Std.Symm (Function.onFun List.Disjoint signatures) :=
      ⟨fun _ _ disjoint => disjoint.symm⟩
    exact (disjoint_field_component_iff (types m i n q hm hn)).1 (pairs.forall hm hn nofun)
  · intro names
    refine ⟨fun x _ => nodup_signatures x, apart.imp_of_mem fun {x y} hx hy slots => ?_⟩
    have named (h : x.kind = y.kind) : x.name ≠ y.name := by
      intro same
      rw [(x.sameSlot_iff y).2 (Prod.ext h same)] at slots
      exact absurd slots.symm Bool.false_ne_true
    cases x with
    | field m i =>
      cases y with
      | field n j => exact disjoint_fields (named rfl) i j
      | component n q =>
        exact (disjoint_field_component_iff (types m i n q hx hy)).2 (names m i n q hx hy)
      | group => exact List.disjoint_nil_right _
    | component n q =>
      cases y with
      | field m i =>
        exact ((disjoint_field_component_iff (types m i n q hy hx)).2 (names m i n q hy hx)).symm
      | component m p =>
        refine disjoint_components (named rfl) ?_
        rw [qualified n q hx, qualified m p hy]
        exact fun same => named rfl (String.append_right_inj _ |>.1 same)
      | group => exact List.disjoint_nil_right _
    | group => exact List.disjoint_nil_left _

end Java

/-! ## Types of parameters -/

/-- No class name begins with a small `c`. -/
theorem className_ne_component (name : Document) (rest : String) :
    (className name).value ≠ "component." ++ rest := by
  intro same
  have value : (className name).value =
      Naming.titleCase (Traced.ofExcept "" name.toText).value := rfl
  rw [value, Naming.titleCase] at same
  have first := congrArg (fun text => text.toList.head?) same
  rw [String.toList_ofList] at first
  obtain ⟨c, image⟩ := Naming.exists_mem_upperImage_of_head? (d := 'c') (first.trans (by simp))
  -- the only character with this image would be `c` itself, whose image is the capital
  obtain rfl := Unicode.Unreached.eq_of_mem_upperImage (by decide +kernel) image
  exact absurd image (by decide)

/-- The class of a field is not that of a component or group, whatever the version is. -/
theorem fieldClass_ne_qualified (options : Options) (version : String) (session : Bool)
    (name : Document) (other : String) :
    Accessor.fieldClass (className name).value ≠
      (Layout.ofVersion options version).componentsPackageOf session ++ "." ++ other := by
  obtain ⟨segment, point, package⟩ := Layout.exists_segment options version session
  intro same
  rw [package] at same
  have split : ("field".toList ++ '.' :: (className name).value.toList) =
      segment.toList ++ '.' :: ("component." ++ other).toList := by
    have h := congrArg String.toList same
    simpa [Accessor.fieldClass, fieldsPackage, libraryPackage] using h
  exact className_ne_component name other
    (String.toList_injective (Java.append_separator_inj (by decide) point split).2)

/-! ## The classes of a repository -/

/-- A class that an artifact has accessors for: its own, or an inner class at any depth. -/
inductive Artifact.HasClass (a : Artifact) : List Accessor → Prop
  | own : HasClass a a.accessors
  | inner {name : String} {counter delimiter : Int} {order : List Int} {as : List Accessor}
      (h : (Accessor.group name counter delimiter order as).Within a.accessors) : HasClass a as

theorem Artifact.HasClass.within {a : Artifact} {as : List Accessor} (h : a.HasClass as)
    {x : Accessor} (hx : x ∈ as) : x.Within a.accessors := by
  cases h with
  | own => exact .here hx
  | inner within =>
    exact (Accessor.Within.inside (List.mem_singleton_self _) (.here hx)).trans within

namespace Repository

variable {r : Repository} {options : Options} {layer : SessionLayer} {a : Artifact}

/-- No two accessors of a class are of one kind and have one name. -/
theorem Emits.apart (h : r.Emits options layer a) {as : List Accessor} (class_ : a.HasClass as) :
    as.Pairwise fun x y => Accessor.sameSlot x y = false := by
  cases class_ with
  | inner within => exact (h.coherent within).apart
  | own =>
    cases h with
    | group => exact pairwise_firstOf _ _
    | component => exact pairwise_firstOf _ _
    | message => exact pairwise_firstOf _ _
    | _ => exact List.Pairwise.nil

/-- **When the methods of every class are told apart.**  A well-typed repository is described
without a fault.  What its classes print for their accessors, inner classes apart, are methods, and
two methods of a class have one name and one type of the parameter exactly if some field of the
class has the name of a component of the class with `Component` appended. -/
theorem methods_distinct_iff (typed : r.WellTyped) (options : Options) (layer : SessionLayer) :
    ∃ d, ((describe options layer r).run []).1 = .ok d ∧
      ∀ a ∈ d.artifacts, ∀ as, a.HasClass as →
        (∀ level, (as.filter fun x => !x.isUnit).flatMap (Java.accessLines level) =
          (as.flatMap Java.methods).flatMap (Java.Method.lines level)) ∧
        (((as.flatMap Java.methods).map Java.Method.signature).Nodup ↔
          ∀ m i n q, .field m i ∈ as → .component n q ∈ as → m ≠ n ++ "Component") := by
  refine ⟨_, (typed.describe_clean options layer).run [], fun a ha as class_ => ?_⟩
  have emitted := mem_artifacts_iff.1 ha
  refine ⟨Java.flatMap_accessLines as, ?_⟩
  have qualified (n q : String) (hn : .component n q ∈ as) : q = a.referencePackage ++ "." ++ n :=
    (emitted.describes (class_.within hn)).component_inv.1
  rw [List.map_flatMap]
  refine Java.nodup_signatures_iff (emitted.apart class_) qualified fun m i n q hm hn => ?_
  obtain ⟨f, -, rfl⟩ := (emitted.describes (class_.within hm)).field_inv
  obtain ⟨session, -, package⟩ := emitted.referencePackage_eq typed (class_.within hn)
  rw [qualified n q hn, package]
  exact fieldClass_ne_qualified options r.version session f.name n

theorem methods_distinct_iff_sample :
    (Sample.repository "FIX.4.4").WellTyped ∧ ∃ d,
      ((describe { compatible := rfl } {} (Sample.repository "FIX.4.4")).run []).1 = .ok d ∧
      ∀ a ∈ d.artifacts, ∀ as, a.HasClass as →
        (∀ level, (as.filter fun x => !x.isUnit).flatMap (Java.accessLines level) =
          (as.flatMap Java.methods).flatMap (Java.Method.lines level)) ∧
        (((as.flatMap Java.methods).map Java.Method.signature).Nodup ↔
          ∀ m i n q, .field m i ∈ as → .component n q ∈ as → m ≠ n ++ "Component") :=
  ⟨Sample.wellTyped _, methods_distinct_iff (Sample.wellTyped _) _ _⟩

/-- A message with a component and a field that is named for its class. -/
def namedComponent : Repository where
  version := "FIX.4.4"
  fields := [{ id := 1, name := "PartiesComponent", type := "String" }]
  components := [{ id := 10, name := "Parties" }]
  messages := [{ name := "Order", msgType := "D", members := [.field 1, .component 10] }]

/-- The class of a message declares a method twice where a field has the name that the method for a
component is given. -/
theorem not_methods_distinct :
    ¬∀ (r : Repository) (options : Options) (layer : SessionLayer), r.WellTyped →
      ∃ d, ((describe options layer r).run []).1 = .ok d ∧ ∀ a ∈ d.artifacts, ∀ as, a.HasClass as →
        ((as.flatMap Java.methods).map Java.Method.signature).Nodup := by
  intro h
  have typed : namedComponent.WellTyped := by
    refine ⟨fun f hf => ?_, nofun, by decide, nofun, by decide⟩
    obtain rfl := List.mem_singleton.1 hf
    exact ⟨rfl, rfl, Or.inl rfl⟩
  obtain ⟨d, hd, distinct⟩ := h namedComponent { compatible := rfl } {} typed
  obtain rfl := (Traced.run_eq_ok_iff.1 hd).2
  have classes : ((describe { compatible := rfl } {} namedComponent).value.artifacts.filter
      Artifact.isMessage).map Artifact.accessors = [[.field "PartiesComponent" 1,
        .component "Parties" "quickfix.fix44.component.Parties"]] := by cbv
  obtain ⟨a, ha, accessors⟩ := List.mem_map.1 (classes ▸ List.mem_singleton_self _)
  have nodup := distinct a (List.mem_filter.1 ha).1 a.accessors .own
  rw [accessors] at nodup
  exact absurd nodup (by decide)

end Repository
end FixBindings
