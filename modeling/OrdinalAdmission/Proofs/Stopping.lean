import OrdinalAdmission.Proofs.Dressing

/-!
# What a feature that stops leaves

A feature that finds no configuration, one that it cannot read or one that is not meant for the
ordinal leaves the spec as it is. Mounting volumes never stops. Binding host ports stops at the
first port out of range of an entry that names a container: the entries before have taken effect by
then, and of this entry nothing but the bindings before the port, in the first container that it
names. For their variables it was too early (`Stop.Leaves`, `stopping_confined`).
-/

namespace OrdinalAdmission

open Kube

-- ---------------------------------------------------------------------------
-- Features that do nothing
-- ---------------------------------------------------------------------------

/-- What a feature answers that was not set to work. -/
inductive Idle : Except MutationError Effect → Prop where
  | notConfigured : Idle (.ok .notConfigured)
  | excluded : Idle (.ok .excluded)
  | refused {error : MutationError} : error.isParseError = true → Idle (.error error)

namespace Feature

variable {annotations : Annotations.Collection} {ordinal : UInt32} {spec : PodSpec}

theorem applyDeclared_of_idle {α : Type} {declared : Except MutationError (Option (Qualified α))}
    {work : Qualified α → PodSpec → PodSpec × Option MutationError}
    (hwork : ∀ config error, (work config spec).2 = some error → error.isParseError = false)
    (hidle : Idle (applyDeclared declared work ordinal spec).2) :
    (applyDeclared declared work ordinal spec).1 = spec := by
  unfold applyDeclared at hidle ⊢
  split
  · rfl
  · rfl
  · next config =>
    split
    · next happlies =>
      simp only [if_pos happlies] at hidle
      split at hidle
      · cases hidle
      · next left error hstopped =>
        cases hidle with
        | refused hparse =>
          have hnot := hwork config error (by rw [hstopped])
          rw [hparse] at hnot
          cases hnot
    · rfl

theorem apply_of_idle (feature : Feature)
    (hidle : Idle (feature.apply annotations ordinal spec).2) :
    (feature.apply annotations ordinal spec).1 = spec := by
  cases feature with
  | hostPort =>
    refine applyDeclared_of_idle (fun config error herror => ?_) hidle
    by_cases happlies : config.appliesTo ordinal = true
    · rw [HostPort.mutate_of_applies happlies, HostPort.applyEntries_error_iff] at herror
      obtain ⟨entry, -, port, base, -, -, rfl⟩ := herror
      rfl
    · simp [HostPort.mutate, happlies] at herror
  | mountVolume =>
    refine applyDeclared_of_idle (fun config error herror => ?_) hidle
    cases herror

theorem isParseError_of_declared? {α : Type} {feature : Feature} {codec : Codec α}
    {error : MutationError} (h : feature.declared? codec annotations = .error error) :
    error.isParseError = true := by
  obtain ⟨fault, -, rfl⟩ := mapError_eq_error_iff.mp h
  cases fault <;> rfl

end Feature

namespace HostPort

-- ---------------------------------------------------------------------------
-- Where the work stops
-- ---------------------------------------------------------------------------

/-- A port of an entry, with the ports before and behind it in the entry and the entries before and
behind this one. -/
structure Stop where
  before : List Entry
  entry : Entry
  after : List Entry
  served : List ContainerPort
  port : ContainerPort
  unserved : List ContainerPort

namespace Stop

def error (stop : Stop) (ordinal : UInt32) : MutationError :=
  .portOutOfRange stop.entry.name (stop.port.name.getD "") (stop.port.hostPort.getD 0) ordinal

/-- The port stands there in the entries, and is the first of its entry that is out of range. -/
structure IsIn (stop : Stop) (ordinal : UInt32) (entries : List Entry) : Prop where
  entries : entries = stop.before ++ stop.entry :: stop.after
  ports : stop.entry.ports = stop.served ++ stop.port :: stop.unserved
  fits : ∀ port ∈ stop.served, ¬ Overflows ordinal port
  overflows : Overflows ordinal stop.port

/-- What is left of the spec that the entries before made: the first container that the entry names
has the bindings before the port, and nothing else changes. -/
inductive Leaves (stop : Stop) (ordinal : UInt32) (made : PodSpec) : PodSpec → Prop where
  | bound {front back : List Container} {container : Container}
      {ports : Option (List ContainerPort)} :
      made.containers = front ++ container :: back →
      (∀ other ∈ front, other.name ≠ stop.entry.name) → container.name = stop.entry.name →
      Binds ordinal (stop.served.filter Asks) container.ports ports →
      Leaves stop ordinal made { made with containers := front ++ { container with ports } :: back }

end Stop

section
variable {ordinal : UInt32} {stop : Stop} {entries : List Entry} {config : Qualified Config}
  {spec made left : PodSpec}

theorem mutate_of_excluded (h : config.appliesTo ordinal = false) (spec : PodSpec) :
    mutate config ordinal spec = (spec, none) := by
  simp [mutate, h]

theorem updateFirst_split {p : Container → Bool} {f : Container → Container}
    {front back : List Container} {container : Container} (hfront : ∀ other ∈ front, ¬ p other)
    (hcontainer : p container = true) :
    updateFirst p f (front ++ container :: back) = front ++ f container :: back := by
  induction front with
  | nil => simp [updateFirst, hcontainer]
  | cons other front ih =>
    obtain ⟨hother, hrest⟩ := List.forall_mem_cons.mp hfront
    rw [List.cons_append, updateFirst, if_neg hother, ih hrest, List.cons_append]

theorem applyEntries_append {before after : List Entry} {containers made : List Container}
    (h : applyEntries ordinal before containers = (made, none)) :
    applyEntries ordinal (before ++ after) containers = applyEntries ordinal after made := by
  induction before generalizing containers with
  | nil =>
    obtain rfl : containers = made := congrArg Prod.fst h
    rfl
  | cons entry rest ih =>
    rw [applyEntries] at h
    rw [List.cons_append, applyEntries]
    split at h
    · exact ih h
    · cases h

theorem mutate_append {qualifier : String} {before after : List Entry}
    (h : mutate ⟨qualifier, { containers := before }⟩ ordinal spec = (made, none)) :
    mutate ⟨qualifier, { containers := before ++ after }⟩ ordinal spec =
      mutate ⟨qualifier, { containers := after }⟩ ordinal made := by
  by_cases hqualifies : qualifies qualifier ordinal = true
  · simp only [mutate, Qualified.appliesTo, hqualifies, if_true] at h ⊢
    obtain ⟨rfl, hnone⟩ := Prod.mk.inj h
    rw [applyEntries_append (Prod.ext rfl hnone)]
  · simp only [mutate, Qualified.appliesTo, hqualifies] at h ⊢
    obtain ⟨rfl, -⟩ := Prod.mk.inj h
    rfl

theorem Stop.IsIn.bindings_eq (h : stop.IsIn ordinal entries) :
    bindings ordinal stop.entry.ports =
      ((stop.served.filter Asks).map (bindingAt ordinal), some stop.port) := by
  rw [h.ports, bindings_append_of_fits h.fits, bindings_cons_of_overflows h.overflows,
    List.append_nil]

theorem Stop.IsIn.apply_entry (h : stop.IsIn ordinal entries) {front back : List Container}
    {container : Container} (hfront : ∀ other ∈ front, other.name ≠ stop.entry.name)
    (hname : container.name = stop.entry.name) :
    stop.entry.apply ordinal (front ++ container :: back) =
      (front ++ { container with
        ports := updates Binding.bindIn ((stop.served.filter Asks).map (bindingAt ordinal))
          container.ports } :: back, some (stop.error ordinal)) := by
  have hany : (front ++ container :: back).any (fun container => container.name == stop.entry.name)
      = true := by
    simp [hname]
  rw [Entry.apply, h.bindings_eq]
  simp only [hany, if_true]
  rw [updateFirst_split (by simpa using hfront) (by simpa using hname), bindPorts_eq]
  rfl

theorem Stop.IsIn.asks_and_fits (h : stop.IsIn ordinal entries) :
    ∀ port ∈ stop.served.filter Asks, Asks port ∧ ¬ Overflows ordinal port := by
  intro port hport
  obtain ⟨hserved, hasks⟩ := List.mem_filter.mp hport
  exact ⟨of_decide_eq_true hasks, h.fits port hserved⟩

theorem exists_stop {containers : List Container} {error : MutationError}
    (h : (applyEntries ordinal entries containers).2 = some error) :
    ∃ stop : Stop, stop.IsIn ordinal entries ∧ stop.entry.name ∈ containers.map (·.name) ∧
      (applyEntries ordinal stop.before containers).2 = none := by
  obtain ⟨entry, hentry, -⟩ := applyEntries_error_iff.mp h
  obtain ⟨hnamed, hports⟩ := hentry.mem.2
  obtain ⟨before, after, hentries, hbefore⟩ := hentry.exists_split
  obtain ⟨port, hport⟩ := exists_first.mpr hports
  obtain ⟨served, unserved, hsplit, hfits⟩ := hport.exists_split
  refine ⟨⟨before, entry, after, served, port, unserved⟩,
    ⟨hentries, hsplit, hfits, hport.mem.2⟩, hnamed, ?_⟩
  cases hmade : (applyEntries ordinal before containers).2 with
  | none => rfl
  | some error =>
    obtain ⟨failing, hfailing, -⟩ := applyEntries_error_iff.mp hmade
    exact absurd hfailing.mem.2 (hbefore failing hfailing.mem.1)

theorem exists_leaves (hstop : stop.IsIn ordinal entries)
    (hnamed : stop.entry.name ∈ made.containers.map (·.name)) :
    ∃ left, stop.Leaves ordinal made left := by
  obtain ⟨named, hm, hname⟩ := List.mem_map.mp hnamed
  obtain ⟨container, hcontainer⟩ :=
    exists_first (P := fun container => container.name = stop.entry.name).mpr ⟨named, hm, hname⟩
  obtain ⟨front, back, hsplit, hfront⟩ := hcontainer.exists_split
  exact ⟨_, .bound hsplit hfront hcontainer.mem.2 (binds_updates hstop.asks_and_fits _)⟩

theorem mutate_of_leaves (happlies : config.appliesTo ordinal = true)
    (hstop : stop.IsIn ordinal config.value.containers)
    (hmade : mutate ⟨config.qualifier, { containers := stop.before }⟩ ordinal spec = (made, none))
    (hleaves : stop.Leaves ordinal made left) :
    mutate config ordinal spec = (left, some (stop.error ordinal)) := by
  obtain ⟨hsplit, hfront, hname, hbinds⟩ := hleaves
  obtain rfl := hbinds.unique (binds_updates hstop.asks_and_fits _)
  have hconfig : config = ⟨config.qualifier,
      { containers := stop.before ++ stop.entry :: stop.after }⟩ := by
    rw [← hstop.entries]
  have happlies' : Qualified.appliesTo ⟨config.qualifier,
      ({ containers := stop.entry :: stop.after } : Config)⟩ ordinal = true := happlies
  rw [hconfig, mutate_append hmade, mutate_of_applies happlies']
  simp only [hsplit, applyEntries, hstop.apply_entry hfront hname]

/-- The work stops with an error exactly at a port out of range whose entry names a container, after
entries that take effect. -/
theorem mutate_stops_iff {error : MutationError} :
    mutate config ordinal spec = (left, some error) ↔ config.appliesTo ordinal = true ∧
      ∃ (stop : Stop) (made : PodSpec), stop.IsIn ordinal config.value.containers ∧
        mutate ⟨config.qualifier, { containers := stop.before }⟩ ordinal spec = (made, none) ∧
        stop.Leaves ordinal made left ∧ error = stop.error ordinal := by
  constructor
  · intro h
    have happlies : config.appliesTo ordinal = true := by
      by_contra hnot
      simp [mutate, hnot] at h
    have herror := congrArg Prod.snd h
    rw [mutate_of_applies happlies] at herror
    obtain ⟨stop, hstop, hnamed, hbefore⟩ := exists_stop herror
    have happlies' : Qualified.appliesTo ⟨config.qualifier,
        ({ containers := stop.before } : Config)⟩ ordinal = true := happlies
    have hmade := mutate_of_applies happlies' spec
    rw [hbefore] at hmade
    rw [← names_applyEntries ordinal stop.before spec.containers] at hnamed
    obtain ⟨left', hleaves⟩ : ∃ left', stop.Leaves ordinal
        { spec with containers := (applyEntries ordinal stop.before spec.containers).1 } left' :=
      exists_leaves hstop hnamed
    have hsame := h.symm.trans (mutate_of_leaves happlies hstop hmade hleaves)
    rw [Prod.mk.injEq, Option.some_inj] at hsame
    obtain ⟨rfl, rfl⟩ := hsame
    exact ⟨happlies, stop, _, hstop, hmade, hleaves, rfl⟩
  · rintro ⟨happlies, stop, made, hstop, hmade, hleaves, rfl⟩
    exact mutate_of_leaves happlies hstop hmade hleaves

end

end HostPort

namespace Feature

theorem apply_mountVolume {annotations : Annotations.Collection} {ordinal : UInt32}
    {config : Qualified MountVolume.Config}
    (hdeclared : MountVolume.declared? annotations = .ok (some config))
    (happlies : config.appliesTo ordinal = true) (spec : PodSpec) :
    mountVolume.apply annotations ordinal spec =
      (MountVolume.mutate config ordinal spec, .ok .applied) := by
  simp [apply, applyDeclared, hdeclared, happlies]

theorem isParseError_of_apply_mountVolume {annotations : Annotations.Collection}
    {ordinal : UInt32} {spec : PodSpec} {error : MutationError}
    (h : (mountVolume.apply annotations ordinal spec).2 = .error error) :
    error.isParseError = true := by
  cases apply_error_iff.mp h with
  | volumes hdeclared => exact isParseError_of_declared? hdeclared

/-- A feature that is not set to work leaves the spec as it is, and so does its work under a
qualifier that keeps the ordinal out. Once it is set to work mounting volumes comes to its end; no
error of this feature is raised later than in reading. Binding host ports stops exactly at a port
out of range of an entry that names a container, and leaves what the entries before make of the
spec, with the ports before that one bound in the first container that the entry names. -/
theorem stopping_confined :
    (∀ (feature : Feature) annotations ordinal spec,
      Idle (feature.apply annotations ordinal spec).2 →
        (feature.apply annotations ordinal spec).1 = spec) ∧
    (∀ config ordinal spec, config.appliesTo ordinal = false →
      HostPort.mutate config ordinal spec = (spec, none)) ∧
    (∀ config ordinal spec, config.appliesTo ordinal = false →
      MountVolume.mutate config ordinal spec = spec) ∧
    (∀ annotations ordinal spec config, MountVolume.declared? annotations = .ok (some config) →
      config.appliesTo ordinal = true → mountVolume.apply annotations ordinal spec =
        (MountVolume.mutate config ordinal spec, .ok .applied)) ∧
    (∀ annotations ordinal spec error,
      (mountVolume.apply annotations ordinal spec).2 = .error error →
        error.isParseError = true) ∧
    ∀ (config : Qualified HostPort.Config) ordinal spec left error,
      HostPort.mutate config ordinal spec = (left, some error) ↔
        config.appliesTo ordinal = true ∧ ∃ (stop : HostPort.Stop) (made : PodSpec),
          stop.IsIn ordinal config.value.containers ∧
          HostPort.mutate ⟨config.qualifier, { containers := stop.before }⟩ ordinal spec =
            (made, none) ∧
          stop.Leaves ordinal made left ∧ error = stop.error ordinal := by
  refine ⟨fun feature _ _ _ => feature.apply_of_idle,
    fun _ _ spec h => HostPort.mutate_of_excluded h spec, fun config ordinal spec h => ?_,
    fun _ _ spec _ hdeclared h => apply_mountVolume hdeclared h spec,
    fun _ _ _ _ => isParseError_of_apply_mountVolume, fun _ _ _ _ _ => HostPort.mutate_stops_iff⟩
  simp [MountVolume.mutate, h]

def crossing : List HostPort.Entry :=
  [{ name := "a", ports := [{ name := some "http", hostPort := some 80 }] },
    { name := "c", ports := [{ hostPort := some 65535 }] },
    { name := "a"
      ports := [{ name := some "http", hostPort := some 90 }, { hostPort := some 0 },
        { name := some "tls", hostPort := some 443 },
        { name := some "top", hostPort := some 65535 },
        { name := some "rest", hostPort := some 1 }] },
    { name := "b" }]

def crossed (first second : Option (List ContainerPort)) (told : Option (List EnvVar)) : PodSpec :=
  { containers := [{ name := "a", ports := first, env := told },
      { name := "a", ports := second, env := told }, { name := "b" }] }

def mounting (configuration : String) : Annotations.Collection :=
  .ofList [(⟨"mount-volume", "-3"⟩, configuration)]

theorem stopping_confined_midway :
    let plain := crossed none none none
    let left := crossed
      (some [{ name := some "http", hostPort := some 93 },
        { name := some "tls", hostPort := some 446 }])
      (some [{ name := some "http", hostPort := some 83 }])
      (some [{ name := "POD_ORDINAL", value := some "3" },
        { name := "PORT_http", value := some "83" }])
    (mountVolume.apply (mounting "") 3 plain).2 =
      .error (.undecodable mountVolume .truncated) ∧
    (mountVolume.apply (mounting "") 3 plain).1 = plain ∧
    mountVolume.apply (mounting r#"{"volumes": [{"name": "v"}]}"#) 3 plain =
      (MountVolume.mutate ⟨"-3", { volumes := [{ name := "v" }] }⟩ 3 plain, .ok .applied) ∧
    MountVolume.mutate ⟨"4-", {}⟩ 3 plain = plain ∧
    HostPort.mutate ⟨"4-", { containers := crossing }⟩ 3 plain = (plain, none) ∧
    HostPort.mutate ⟨"-3", { containers := crossing }⟩ 3 plain =
      (left, some (.portOutOfRange "a" "top" 65535 3)) ∧
    ∃ (stop : HostPort.Stop) (made : PodSpec), stop.IsIn 3 crossing ∧
      HostPort.mutate ⟨"-3", { containers := stop.before }⟩ 3 plain = (made, none) ∧
      stop.Leaves 3 made left ∧ .portOutOfRange "a" "top" 65535 3 = stop.error 3 := by
  intro plain left
  obtain ⟨hidle, hbinds, hmounts, hmounted, hparse, hstops⟩ := stopping_confined
  have houtside : qualifies "4-" 3 = false := by decide +kernel
  have hwithin : qualifies "-3" 3 = true := by decide +kernel
  have hunread : (mountVolume.apply (mounting "") 3 plain).2 =
      .error (.undecodable mountVolume .truncated) := by
    decide +kernel
  have hread : MountVolume.declared? (mounting r#"{"volumes": [{"name": "v"}]}"#) =
      .ok (some ⟨"-3", { volumes := [{ name := "v" }] }⟩) := by
    decide +kernel
  have hstopped : HostPort.mutate ⟨"-3", { containers := crossing }⟩ 3 plain =
      (left, some (.portOutOfRange "a" "top" 65535 3)) := by
    decide +kernel
  refine ⟨hunread, hidle _ _ _ _ ?_, hmounted _ _ plain _ hread hwithin,
    hmounts _ _ plain houtside, hbinds _ _ plain houtside, hstopped,
    ((hstops _ _ _ _ _).mp hstopped).2⟩
  rw [hunread]
  exact .refused (hparse _ _ _ _ hunread)

end Feature

end OrdinalAdmission
