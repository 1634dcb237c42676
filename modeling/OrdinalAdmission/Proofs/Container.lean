import OrdinalAdmission.Feature.Handler

/-!
# What the features make of a container

Both features treat every container by itself and look at nothing of it but its name and the lists
they extend. `HostPort.dress` and `MountVolume.furnish` say what a whole configuration makes of one
container, list by list; `HostPort.applyEntries_ok` and `MountVolume.Config.apply_eq` read the work
on the containers of a spec as these. Names never change, whether the work succeeds or not.
-/

namespace OrdinalAdmission

open Kube

-- ---------------------------------------------------------------------------
-- Lists that may be absent
-- ---------------------------------------------------------------------------

section
variable {α β : Type} {step : α → List β → List β}

/-- The list after `step` for every item in turn. Without items an absent list stays absent. -/
def updates (step : α → List β → List β) (items : List α) (list : Option (List β)) :
    Option (List β) :=
  if items.isEmpty then list
  else some (items.foldl (fun list item => step item list) (list.getD []))

@[simp] theorem updates_nil (list : Option (List β)) : updates step [] list = list := rfl

theorem updates_append (xs ys : List α) (list : Option (List β)) :
    updates step (xs ++ ys) list = updates step ys (updates step xs list) := by
  cases xs with
  | nil => rfl
  | cons x xs =>
    cases ys with
    | nil => simp [updates]
    | cons y ys => simp [updates, List.foldl_append]

theorem updates_concat (f : α → List β) {items : List α} (h : items ≠ [])
    (list : Option (List β)) :
    updates (fun item list => list ++ f item) items list =
      some (list.getD [] ++ items.flatMap f) := by
  simp only [updates, List.isEmpty_iff, h, if_false, List.foldl_append_eq_append, List.flatMap_def]

theorem getD_updates_append (f : α → List β) (items : List α) (list : Option (List β)) :
    (updates (fun item list => list ++ f item) items list).getD [] =
      list.getD [] ++ items.flatMap f := by
  cases items with
  | nil => simp
  | cons item rest => rw [updates_concat f (by simp), Option.getD_some]

theorem updates_eq_none_iff {items : List α} {list : Option (List β)} :
    updates step items list = none ↔ list = none ∧ items = [] := by
  cases items <;> simp [updates]

theorem updates_snoc (f : α → β) {items : List α} (h : items ≠ []) (list : Option (List β)) :
    updates (fun item list => list ++ [f item]) items list =
      some (list.getD [] ++ items.map f) := by
  rw [updates_concat (fun item => [f item]) h, List.map_eq_flatMap]

end

-- ---------------------------------------------------------------------------
-- Host ports
-- ---------------------------------------------------------------------------

namespace HostPort

def entriesFor (name : String) (entries : List Entry) : List Entry :=
  entries.filter (·.name == name)

theorem mem_entriesFor {name : String} {entries : List Entry} {entry : Entry} :
    entry ∈ entriesFor name entries ↔ entry ∈ entries ∧ entry.name = name := by
  simp [entriesFor]

def boundIn (ordinal : UInt32) (name : String) (entries : List Entry) : List Binding :=
  (entriesFor name entries).flatMap fun entry => (bindings ordinal entry.ports).1

def toldTo (ordinal : UInt32) (name : String) (entries : List Entry) : List EnvVar :=
  (entriesFor name entries).flatMap fun entry => announced ordinal (bindings ordinal entry.ports).1

/-- A container after all entries took effect. -/
def dress (ordinal : UInt32) (entries : List Entry) (container : Container) : Container :=
  { container with
    ports := updates Binding.bindIn (boundIn ordinal container.name entries) container.ports
    env := updates setVariable (toldTo ordinal container.name entries) container.env }

section
variable {ordinal : UInt32}

@[simp] theorem dress_name (entries : List Entry) (container : Container) :
    (dress ordinal entries container).name = container.name := rfl

@[simp] theorem dress_nil (container : Container) : dress ordinal [] container = container := rfl

theorem dress_append (first second : List Entry) (container : Container) :
    dress ordinal (first ++ second) container =
      dress ordinal second (dress ordinal first container) := by
  simp [dress, boundIn, toldTo, entriesFor, updates_append]

theorem bindPorts_eq (found : List Binding) (container : Container) :
    bindPorts found container =
      { container with ports := updates Binding.bindIn found container.ports } := by
  unfold bindPorts updates
  split <;> rfl

theorem bindPorts_name (found : List Binding) (container : Container) :
    (bindPorts found container).name = container.name := by
  rw [bindPorts_eq]

theorem dress_named {entry : Entry} {container : Container} (h : container.name = entry.name) :
    dress ordinal [entry] container =
      announce ordinal (bindings ordinal entry.ports).1
        (bindPorts (bindings ordinal entry.ports).1 container) := by
  rw [bindPorts_eq]
  simp [dress, boundIn, toldTo, entriesFor, h, announce, announced, updates]

theorem dress_unnamed {entry : Entry} {container : Container} (h : container.name ≠ entry.name) :
    dress ordinal [entry] container = container := by
  simp [dress, boundIn, toldTo, entriesFor, Ne.symm h]

theorem names_updateFirst {p : Container → Bool} {f : Container → Container}
    (h : ∀ container, (f container).name = container.name) (containers : List Container) :
    (updateFirst p f containers).map (·.name) = containers.map (·.name) := by
  induction containers with
  | nil => rfl
  | cons container rest ih =>
    rw [updateFirst]
    split <;> simp [h, ih]

theorem Entry.names_apply (entry : Entry) (ordinal : UInt32) (containers : List Container) :
    (entry.apply ordinal containers).1.map (·.name) = containers.map (·.name) := by
  unfold Entry.apply
  split
  · simp only [List.map_map]
    refine List.map_congr_left fun container _ => ?_
    simp only [Function.comp]
    split
    · simp [announce, bindPorts_name]
    · rfl
  · simp only
    split
    · exact names_updateFirst (bindPorts_name _) containers
    · rfl

theorem Entry.apply_ok {entry : Entry} {containers : List Container}
    (h : (entry.apply ordinal containers).2 = none) :
    (entry.apply ordinal containers).1 = containers.map (dress ordinal [entry]) := by
  have dressed : ∀ container : Container, dress ordinal [entry] container =
      if container.name == entry.name then
        announce ordinal (bindings ordinal entry.ports).1
          (bindPorts (bindings ordinal entry.ports).1 container)
      else container := by
    intro container
    by_cases hn : container.name = entry.name
    · simp [dress_named hn, hn]
    · simp [dress_unnamed hn, hn]
  unfold Entry.apply at h ⊢
  split
  · next found hb =>
    refine List.map_congr_left fun container _ => ?_
    rw [dressed, hb]
  · next found port hb =>
    rw [hb] at h
    simp only at h
    split at h
    · cases h
    · next hany =>
      -- No container has the name, so the bindings found before the failing port matter to none.
      rw [if_neg hany]
      have hne : ∀ container ∈ containers, dress ordinal [entry] container = id container := by
        intro container hm
        refine dress_unnamed fun hn => hany ?_
        exact List.any_eq_true.mpr ⟨container, hm, by simpa using hn⟩
      rw [List.map_congr_left hne, List.map_id]

theorem names_applyEntries (ordinal : UInt32) (entries : List Entry)
    (containers : List Container) :
    (applyEntries ordinal entries containers).1.map (·.name) = containers.map (·.name) := by
  induction entries generalizing containers with
  | nil => rfl
  | cons entry rest ih =>
    have hn := entry.names_apply ordinal containers
    rw [applyEntries]
    split
    · next left he => rw [ih, ← hn, he]
    · next left error he => rw [← hn, he]

theorem applyEntries_ok {entries : List Entry} {containers : List Container}
    (h : (applyEntries ordinal entries containers).2 = none) :
    (applyEntries ordinal entries containers).1 = containers.map (dress ordinal entries) := by
  induction entries generalizing containers with
  | nil => exact (List.map_id containers).symm
  | cons entry rest ih =>
    rw [applyEntries] at h ⊢
    split at h
    · next left he =>
      have hok : (entry.apply ordinal containers).2 = none := by rw [he]
      have hleft : left = containers.map (dress ordinal [entry]) := by
        rw [← Entry.apply_ok hok, he]
      rw [ih h, hleft, List.map_map]
      refine List.map_congr_left fun container _ => ?_
      exact (dress_append [entry] rest container).symm
    · cases h

theorem mutate_of_applies {config : Qualified Config} (h : config.appliesTo ordinal = true)
    (spec : PodSpec) :
    mutate config ordinal spec =
      ({ spec with
          containers := (applyEntries ordinal config.value.containers spec.containers).1 },
        (applyEntries ordinal config.value.containers spec.containers).2) := by
  simp [mutate, h]

end

end HostPort

-- ---------------------------------------------------------------------------
-- Volume mounts
-- ---------------------------------------------------------------------------

namespace MountVolume

def furnish (entries : List Entry) (container : Container) : Container :=
  { container with
    volumeMounts := updates (fun entry mounts => mounts ++ entry.volumeMounts)
      (entries.filter (·.name == container.name)) container.volumeMounts }

@[simp] theorem furnish_name (entries : List Entry) (container : Container) :
    (furnish entries container).name = container.name := rfl

theorem furnish_append (first second : List Entry) (container : Container) :
    furnish (first ++ second) container = furnish second (furnish first container) := by
  simp only [furnish, List.filter_append, updates_append]

theorem Entry.apply_eq (entry : Entry) (containers : List Container) :
    entry.apply containers = containers.map (furnish [entry]) := by
  unfold Entry.apply
  refine List.map_congr_left fun container _ => ?_
  by_cases h : container.name = entry.name
  · simp [furnish, h, updates]
  · simp [furnish, h, Ne.symm h]

theorem Config.apply_eq (config : Config) (ordinal : UInt32) (spec : PodSpec) :
    config.apply ordinal spec =
      { spec with
        volumes := some (spec.volumes.getD [] ++ config.volumes.map (qualifyVolume ordinal))
        containers := spec.containers.map (furnish config.containers) } := by
  have folded : ∀ (entries : List Entry) (containers : List Container),
      entries.foldl (fun containers entry => entry.apply containers) containers =
        containers.map (furnish entries) := by
    intro entries
    induction entries with
    | nil => exact fun containers => (List.map_id containers).symm
    | cons entry rest ih =>
      intro containers
      rw [List.foldl_cons, ih, Entry.apply_eq, List.map_map]
      exact List.map_congr_left fun container _ => (furnish_append [entry] rest container).symm
  simp [Config.apply, folded]

end MountVolume

end OrdinalAdmission
