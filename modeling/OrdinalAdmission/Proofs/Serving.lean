import Mathlib.Data.List.Pairwise
import Mathlib.Data.List.Perm.Subperm
import OrdinalAdmission.Proofs.Distinct
import OrdinalAdmission.Proofs.Dressing

/-!
# Which declared ports are served

The first port with the name of a declared one serves it: it has the host port that is asked for,
moved by the ordinal. A later declaration with the same name takes that port over, and this is the
only way in which a binding is lost. Declarations without a name count as having one name, so of
these only the last is served, and not every declared port is, even where no name is declared twice
(`bindings_kept`).
-/

namespace OrdinalAdmission.HostPort

open Kube

-- ---------------------------------------------------------------------------
-- Ports that serve declared ones
-- ---------------------------------------------------------------------------

structure IsServedBy (ordinal : UInt32) (declared port : ContainerPort) : Prop where
  name : port.name = declared.name
  hostPort : ∃ base moved, declared.hostPort = some base ∧ port.hostPort = some moved ∧
    moved.toInt = base.toInt + ordinal.toNat

/-- Every declared port is served by one of `ports`, and no two by the same one. -/
def Serves (ordinal : UInt32) (declared ports : List ContainerPort) : Prop :=
  ∃ serving, serving.Subperm ports ∧ List.Forall₂ (IsServedBy ordinal) declared serving

/-- The declared ports that no later one with the same name takes over. -/
def latest (declared : List ContainerPort) : List ContainerPort :=
  declared.pwFilter fun port later => port.name ≠ later.name

section
variable {ordinal : UInt32} {declared before after : List ContainerPort}

theorem Serves.nameless_le (h : Serves ordinal declared after) :
    declared.countP (·.name = none) ≤ after.countP (·.name = none) := by
  obtain ⟨serving, hsub, hserved⟩ := h
  have hequal : declared.countP (·.name = none) = serving.countP (·.name = none) := by
    clear hsub
    induction hserved with
    | nil => rfl
    | cons hs _ ih => rw [List.countP_cons, List.countP_cons, ih, hs.name]
  exact hequal ▸ hsub.countP_le _

-- ---------------------------------------------------------------------------
-- The last declaration of a name
-- ---------------------------------------------------------------------------

theorem forall_mem_latest {name : Option String} :
    (∀ later ∈ latest declared, name ≠ later.name) ↔ ∀ later ∈ declared, name ≠ later.name := by
  refine List.forall_mem_pwFilter (a := ({ name } : ContainerPort)) ?_ declared
  intro x y z hne
  by_cases hxy : x.name = y.name
  · exact .inr (hxy ▸ hne)
  · exact .inl hxy

theorem getLast?_of_mem_latest {port : ContainerPort} (h : port ∈ latest declared) :
    (declared.filter (·.name = port.name)).getLast? = some port := by
  induction declared with
  | nil => cases h
  | cons head rest ih =>
    by_cases hkept : ∀ later ∈ latest rest, head.name ≠ later.name
    · rw [latest, List.pwFilter_cons_of_pos hkept] at h
      rcases List.mem_cons.mp h with rfl | hm
      · have hnone : rest.filter (·.name = port.name) = [] := by
          rw [List.filter_eq_nil_iff]
          intro later hlater
          simpa using (forall_mem_latest.mp hkept later hlater).symm
        rw [List.filter_cons_of_pos (by simp), hnone]
        rfl
      · rw [List.filter_cons_of_neg (by simpa using hkept port hm)]
        exact ih hm
    · rw [latest, List.pwFilter_cons_of_neg hkept] at h
      -- The head is taken over, so it is not the last of its name.
      by_cases hname : head.name = port.name
      · rw [List.filter_cons_of_pos (by simpa using hname), List.getLast?_cons, ih h]
        rfl
      · rw [List.filter_cons_of_neg (by simpa using hname)]
        exact ih h

theorem latest_of_nodup (h : (declared.map (·.name)).Nodup) : latest declared = declared :=
  List.pwFilter_eq_self.mpr (List.pairwise_map.mp h)

theorem nodup_names (hnamed : (declared.filterMap (·.name)).Nodup)
    (hnameless : declared.countP (·.name = none) ≤ 1) : (declared.map (·.name)).Nodup := by
  rw [List.nodup_iff_count_le_one] at hnamed ⊢
  intro name
  cases name with
  | none =>
    simpa only [List.count, List.countP_map, Function.comp_def, beq_eq_decide] using hnameless
  | some name =>
    have honce := hnamed name
    rw [List.count_filterMap] at honce
    simpa [List.count, List.countP_map, Function.comp_def] using honce

-- ---------------------------------------------------------------------------
-- What binding serves
-- ---------------------------------------------------------------------------

def serving (ports : List ContainerPort) (declared : ContainerPort) : ContainerPort :=
  (ports.find? (·.name = declared.name)).getD declared

theorem IsBound.isServedBy_serving (h : IsBound ordinal declared before after)
    {port : ContainerPort} (hport : port ∈ latest declared) :
    serving after port ∈ after ∧ IsServedBy ordinal port (serving after port) := by
  have hname : port.name ∈ declared.map (·.name) :=
    List.mem_map_of_mem (List.pwFilter_subset _ hport)
  obtain ⟨source, last, base, moved, -, hlast, hbase, hmoved, -, -, hfound⟩ := h.first _ hname
  obtain rfl : port = last := Option.some.inj ((getLast?_of_mem_latest hport).symm.trans hlast)
  rw [serving, hfound, Option.getD_some]
  have hsource := List.find?_some hfound
  exact ⟨List.mem_of_find?_eq_some hfound, by simpa using hsource, base, moved, hbase, rfl, hmoved⟩

theorem IsBound.serves_latest (h : IsBound ordinal declared before after) :
    Serves ordinal (latest declared) after := by
  refine ⟨(latest declared).map (serving after), List.subperm_of_subset ?_ ?_, ?_⟩
  · -- Ports with different names are different.
    refine List.pairwise_map.mpr ((List.pairwise_pwFilter declared).imp_of_mem ?_)
    intro one other hone hother hne hsame
    have hname := (h.isServedBy_serving hone).2.name
    rw [hsame, (h.isServedBy_serving hother).2.name] at hname
    exact hne hname.symm
  · intro port hport
    obtain ⟨own, hown, rfl⟩ := List.mem_map.mp hport
    exact (h.isServedBy_serving hown).1
  · rw [List.forall₂_map_right_iff, List.forall₂_same]
    exact fun port hport => (h.isServedBy_serving hport).2

theorem isBound_dress {entries : List Entry} {container : Container}
    (hfits : ∀ entry ∈ entriesFor container.name entries, entry.Fits ordinal) :
    IsBound ordinal (asked container.name entries) (container.ports.getD [])
      ((dress ordinal entries container).ports.getD []) := by
  have hports : (dress ordinal entries container).ports.getD [] =
      portPlacing.placeAll ((asked container.name entries).map (bindingAt ordinal))
        (container.ports.getD []) := by
    rw [← boundIn_of_fits hfits]
    exact Placing.getD_updates bindIn_eq_place _ container.ports
  rw [hports]
  exact isBound_placeAll (fun port hport =>
    ⟨(mem_asked.mp hport).2, not_overflows_of_mem_asked hfits hport⟩) _

theorem nameless_dress_le (ordinal : UInt32) (entries : List Entry) (container : Container) :
    ((dress ordinal entries container).ports.getD []).countP (·.name = none) ≤
      max 1 ((container.ports.getD []).countP (·.name = none)) := by
  simpa only [portNames, List.count, List.countP_map, Function.comp_def, beq_eq_decide]
    using (NamesRespected.dress ordinal entries container).ports none

structure Kept (ordinal : UInt32) (declared before after : List ContainerPort) : Prop where
  /-- Nothing but a later declaration with the same name costs a binding. -/
  latest : Serves ordinal (latest declared) after
  /-- None is lost where no name is declared twice and one port at most is declared without one. -/
  all : (declared.filterMap (·.name)).Nodup → declared.countP (·.name = none) ≤ 1 →
    Serves ordinal declared after
  /-- Where there was one nameless port at most, there is no other way to keep them all. -/
  all_iff : (declared.filterMap (·.name)).Nodup → before.countP (·.name = none) ≤ 1 →
    (Serves ordinal declared after ↔ declared.countP (·.name = none) ≤ 1)

theorem kept_dress {entries : List Entry} {container : Container}
    (hfits : ∀ entry ∈ entriesFor container.name entries, entry.Fits ordinal) :
    Kept ordinal (asked container.name entries) (container.ports.getD [])
      ((dress ordinal entries container).ports.getD []) := by
  have hlatest := (isBound_dress hfits).serves_latest
  have hall : ((asked container.name entries).filterMap (·.name)).Nodup →
      (asked container.name entries).countP (·.name = none) ≤ 1 →
      Serves ordinal (asked container.name entries)
        ((dress ordinal entries container).ports.getD []) := by
    intro hnamed hnameless
    rwa [latest_of_nodup (nodup_names hnamed hnameless)] at hlatest
  refine ⟨hlatest, hall, fun hnamed hbefore => ⟨fun hserves => ?_, hall hnamed⟩⟩
  have hafter := nameless_dress_le ordinal entries container
  have hserved := hserves.nameless_le
  omega

end

/-- What binding the host ports of a configuration keeps, container by container. A binding is lost
to a later declaration with the same name and in no other way; nameless ports have one name in this,
so where no name is declared twice all bindings are kept if one port at most is nameless, and for a
container with no second nameless port they are kept only then. -/
theorem bindings_kept (config : Qualified Config) (ordinal : UInt32) (spec : PodSpec)
    (happlies : config.appliesTo ordinal = true) (hok : (mutate config ordinal spec).2 = none) :
    List.Forall₂ (fun before after : Container =>
        Kept ordinal (asked before.name config.value.containers) (before.ports.getD [])
          (after.ports.getD []))
      spec.containers (mutate config ordinal spec).1.containers := by
  rw [mutate_of_applies happlies] at hok ⊢
  rw [applyEntries_ok hok, List.forall₂_map_right_iff, List.forall₂_same]
  exact fun container hm => kept_dress fun entry he => fits_of_applyEntries_ok hok hm he

def scattered : List Entry :=
  [{ name := "a", ports := [{ name := some "http", hostPort := some 80 }, { hostPort := some 90 }] },
    { name := "a", ports := [{ name := some "admin", hostPort := some 80 }, {}] }]

def exposed : Container :=
  { name := "a"
    ports := some [{ name := some "http", hostPort := some 1 },
      { name := some "http", hostPort := some 2 }, { containerPort := 7 }] }

theorem bindings_kept_scattered :
    (forAll scattered).appliesTo 3 = true ∧
    (mutate (forAll scattered) 3 { containers := [exposed] }).2 = none ∧
    ((asked "a" scattered).filterMap (·.name)).Nodup ∧
    (asked "a" scattered).length = 3 ∧
    ∃ after, (mutate (forAll scattered) 3 { containers := [exposed] }).1.containers = [after] ∧
      Serves 3 (asked "a" scattered) (after.ports.getD []) := by
  have happlies : (forAll scattered).appliesTo 3 = true := by decide +kernel
  have hok : (mutate (forAll scattered) 3 { containers := [exposed] }).2 = none := by
    decide +kernel
  have hnamed : ((asked "a" scattered).filterMap (·.name)).Nodup := by decide +kernel
  have hall := bindings_kept (forAll scattered) 3 { containers := [exposed] } happlies hok
  obtain ⟨after, rest, hkept, hrest, hafter⟩ := List.forall₂_cons_left_iff.mp hall
  obtain rfl := List.forall₂_nil_left_iff.mp hrest
  exact ⟨happlies, hok, hnamed, by decide +kernel, after, hafter,
    hkept.all hnamed (by decide +kernel)⟩

def anonymous : List Entry :=
  [{ name := "a", ports := [{ containerPort := 1, hostPort := some 80 },
    { containerPort := 2, hostPort := some 90 }] }]

/-- Of two ports without a name only the second is served. -/
theorem not_kept_anonymous :
    (forAll anonymous).appliesTo 3 = true ∧
    ((asked "a" anonymous).filterMap (·.name)).Nodup ∧
    ({ containerPort := 1, hostPort := some 80 } : ContainerPort) ∈ asked "a" anonymous ∧
    ∃ after, mutate (forAll anonymous) 3 { containers := [{ name := "a" }] } =
        ({ containers := [after] }, none) ∧
      ∀ port ∈ after.ports.getD [], port.hostPort ≠ some 83 := by
  refine ⟨by decide +kernel, by decide +kernel, by decide +kernel,
    { name := "a"
      ports := some [{ containerPort := 1, hostPort := some 93 }]
      env := some [{ name := "POD_ORDINAL", value := some "3" },
        { name := "PORT_", value := some "93" }] }, ?_, ?_⟩
  · decide +kernel
  · decide +kernel

end OrdinalAdmission.HostPort
