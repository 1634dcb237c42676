import Mathlib.Data.List.Forall2
import OrdinalAdmission.Proofs.CommandLine
import OrdinalAdmission.Proofs.Reporting

/-!
# One source for every command

A command that arguments give has its object from a file or from the cluster, never from both and
never from neither. The options given are looked at as a list of entries (`Lists`), so order and
spelling are out of the way once they are read: `settle_nil_eq_ok_iff` says which lists make
settings, `Source.ofSettings_of_makes` what source is among these, and `checkPresence_eq_ok_iff`
that what excludes a file is also what a file may be left out for. `load` is where a command turns
to its source. The one fault that an input without a source runs into (`load_eq_nameless_iff`) is
out of reach for what `parse` gives; `one_source` puts all of this together.
-/

namespace OrdinalAdmission.Command

open Kube

-- ---------------------------------------------------------------------------
-- Settings made of options
-- ---------------------------------------------------------------------------

def Unrepeated (flags : List Flag) : Prop :=
  ∀ flag : Flag, flag.repeatable = false → flags.count flag ≤ 1

def Makes (entry : Flag × String) (setting : Setting) : Prop :=
  Setting.make entry.2 entry.1 = .ok setting

section
variable {flags : List Flag} {given : List (Flag × String)} {settings made : List Setting}

theorem Unrepeated.left {more : List Flag} (h : Unrepeated (flags ++ more)) : Unrepeated flags := by
  intro flag hflag
  have hall := h flag hflag
  rw [List.count_append] at hall
  omega

theorem unrepeated_snoc_iff {flag : Flag} (h : Unrepeated flags) :
    Unrepeated (flags ++ [flag]) ↔ (flag.repeatable = false → flag ∉ flags) := by
  constructor
  · intro hall hflag hm
    have hcount := hall flag hflag
    have hpos := List.count_pos_iff.mpr hm
    rw [List.count_append, List.count_singleton_self] at hcount
    omega
  · intro hfresh other hother
    rw [List.count_append]
    by_cases hsame : flag = other
    · subst hsame
      simp [List.count_eq_zero.mpr (hfresh hother)]
    · simpa [List.count_singleton, hsame] using h other hother

theorem add_eq_ok_iff {flag : Flag} {value : String} {added : List Setting} :
    Progress.add settings flag value = .ok added ↔
      (flag.repeatable = false → flag ∉ settings.map Setting.flag) ∧
        ∃ setting, Makes (flag, value) setting ∧ settings ++ [setting] = added := by
  rw [Progress.add]
  split
  · next hrepeated =>
    refine iff_of_false (by simp) fun h => ?_
    simp only [Bool.and_eq_true, Bool.not_eq_true', List.any_eq_true, beq_iff_eq] at hrepeated
    exact h.1 hrepeated.1 (List.mem_map.mpr hrepeated.2)
  · next hfresh =>
    have hfresh : flag.repeatable = false → flag ∉ settings.map Setting.flag := by
      simpa using hfresh
    rw [and_iff_right hfresh]
    simp only [Makes]
    cases Setting.make value flag <;> simp [Except.map]

theorem settle_eq_ok_iff {result : List Setting} (h : Unrepeated (settings.map Setting.flag)) :
    settle settings given = .ok result ↔ ∃ made, List.Forall₂ Makes given made ∧
      Unrepeated (settings.map Setting.flag ++ given.map Prod.fst) ∧
      settings ++ made = result := by
  induction given generalizing settings with
  | nil =>
    have hsettle : settle settings [] = .ok settings := rfl
    simp [hsettle, h]
  | cons entry rest ih =>
    obtain ⟨flag, value⟩ := entry
    simp only [settle_cons, bind_eq_ok_iff, add_eq_ok_iff]
    have hflags : ∀ setting, Makes (flag, value) setting →
        (settings ++ [setting]).map Setting.flag = settings.map Setting.flag ++ [flag] := by
      intro setting hmakes
      rw [List.map_append, List.map_singleton, Setting.flag_of_make hmakes]
    constructor
    · rintro ⟨_, ⟨hfresh, setting, hmakes, rfl⟩, hrest⟩
      have hadded := hflags setting hmakes ▸ (unrepeated_snoc_iff h).mpr hfresh
      obtain ⟨made, hmade, hall, rfl⟩ := (ih hadded).mp hrest
      refine ⟨setting :: made, .cons hmakes hmade, ?_, by simp⟩
      simpa [hflags setting hmakes] using hall
    · rintro ⟨_, hmade, hall, rfl⟩
      cases hmade with
      | @cons _ setting _ made hmakes hmade =>
        have hall : Unrepeated (settings.map Setting.flag ++ [flag] ++ rest.map Prod.fst) := by
          simpa using hall
        refine ⟨_, ⟨(unrepeated_snoc_iff h).mp hall.left, setting, hmakes, rfl⟩, ?_⟩
        have hadded := hflags setting hmakes ▸ hall.left
        refine (ih hadded).mpr ⟨made, hmade, ?_, by simp⟩
        rwa [hflags setting hmakes]

/-- Options are settled where every value makes a setting and no single option comes twice. -/
theorem settle_nil_eq_ok_iff :
    settle [] given = .ok made ↔
      List.Forall₂ Makes given made ∧ Unrepeated (given.map Prod.fst) := by
  have hnone : Unrepeated (([] : List Setting).map Setting.flag) := fun _ _ => by simp
  simp [settle_eq_ok_iff hnone]

theorem exists_forall₂_iff {α β : Type} {r : α → β → Prop} {items : List α} :
    (∃ made, List.Forall₂ r items made) ↔ ∀ item ∈ items, ∃ value, r item value := by
  induction items with
  | nil => simp
  | cons item rest ih =>
    rw [List.forall_mem_cons, ← ih]
    constructor
    · rintro ⟨_, _ | ⟨hitem, hrest⟩⟩
      exact ⟨⟨_, hitem⟩, _, hrest⟩
    · rintro ⟨⟨value, hitem⟩, made, hrest⟩
      exact ⟨value :: made, .cons hitem hrest⟩

theorem findSome?_of_makes {flag : Flag} {value? : Setting → Option String}
    (hmade : List.Forall₂ Makes given made)
    (h : ∀ entry ∈ given, ∀ setting, Makes entry setting →
      value? setting = if entry.1 = flag then some entry.2 else none) :
    made.findSome? value? = given.lookup flag := by
  induction hmade with
  | nil => rfl
  | @cons entry setting rest made hmakes _ ih =>
    rw [List.findSome?_cons, h entry List.mem_cons_self setting hmakes, List.lookup_cons,
      ih fun other ho => h other (List.mem_cons_of_mem _ ho)]
    by_cases hsame : entry.1 = flag
    · simp [hsame]
    · have hother : (flag == entry.1) = false := beq_eq_false_iff_ne.mpr (Ne.symm hsame)
      simp [hsame, hother]

theorem count_eq_isSome_lookup (h : Unrepeated (given.map Prod.fst)) {flag : Flag}
    (hflag : flag.repeatable = false) :
    (given.map Prod.fst).count flag = (given.lookup flag).isSome.toNat := by
  have hgiven : (given.lookup flag).isSome = true ↔ flag ∈ given.map Prod.fst := by
    rw [List.lookup_isSome_iff]
    simp [@eq_comm _ flag]
  have hcount := h flag hflag
  by_cases hm : flag ∈ given.map Prod.fst
  · have hpos := List.count_pos_iff.mpr hm
    rw [hgiven.mpr hm, Bool.toNat_true]
    omega
  · rw [List.count_eq_zero.mpr hm, Bool.eq_false_iff.mpr (hgiven.not.mpr hm), Bool.toNat_false]

end

-- ---------------------------------------------------------------------------
-- The source among the settings
-- ---------------------------------------------------------------------------

namespace Subcommand

def name : Subcommand → String
  | mutate => "mutate"
  | preview => "preview"

def naming : Subcommand → Flag
  | mutate => .pod
  | preview => .statefulSet

theorem ofName?_eq_some_iff {text : String} {subcommand : Subcommand} :
    ofName? text = some subcommand ↔ text = subcommand.name := by
  constructor
  · intro h
    unfold ofName? at h
    split at h <;> cases h <;> rfl
  · rintro rfl
    cases subcommand <;> rfl

end Subcommand

def subcommand : Command → Subcommand
  | .mutate .. => .mutate
  | .preview .. => .preview

section
variable {subcommand : Subcommand} {entry : Flag × String} {setting : Setting}
  {given : List (Flag × String)} {settings made : List Setting} {source : Source} {input : Input}
  {command : Command}

theorem path?_of_makes (h : Makes entry setting) :
    setting.path? = if entry.1 = .file then some entry.2 else none := by
  obtain ⟨flag, value⟩ := entry
  obtain rfl := Setting.flag_of_make h
  cases setting with
  | file path =>
    obtain rfl : value = path := Setting.file.inj (Except.ok.inj h)
    rfl
  | _ => rfl

theorem object?_of_makes (hflag : entry.1 ∈ subcommand.flags) (h : Makes entry setting) :
    setting.object? = if entry.1 = subcommand.naming then some entry.2 else none := by
  obtain ⟨flag, value⟩ := entry
  obtain rfl := Setting.flag_of_make h
  cases setting with
  | pod name =>
    obtain rfl : value = name := Setting.pod.inj (Except.ok.inj h)
    cases subcommand with
    | mutate => rfl
    | preview =>
      have hflag : Flag.pod ∈ Subcommand.preview.flags := hflag
      exact absurd hflag (by decide)
  | statefulSet name =>
    obtain rfl : value = name := Setting.statefulSet.inj (Except.ok.inj h)
    cases subcommand with
    | mutate =>
      have hflag : Flag.statefulSet ∈ Subcommand.mutate.flags := hflag
      exact absurd hflag (by decide)
    | preview => rfl
  | _ => cases subcommand <;> rfl

theorem Source.ofSettings_of_makes (hflags : ∀ entry ∈ given, entry.1 ∈ subcommand.flags)
    (hmade : List.Forall₂ Makes given made) :
    Source.ofSettings made =
      { path? := given.lookup .file, name? := given.lookup subcommand.naming } := by
  rw [ofSettings, findSome?_of_makes hmade fun _ _ _ => path?_of_makes,
    findSome?_of_makes hmade fun entry hentry _ => object?_of_makes (hflags entry hentry)]

theorem source_foldl_set : (settings.foldl Input.set input).source = input.source := by
  induction settings generalizing input with
  | nil => rfl
  | cons setting rest ih =>
    rw [List.foldl_cons, ih]
    cases setting <;> rfl

theorem properties_foldl_set (hmade : List.Forall₂ Makes given made) :
    (made.foldl Input.set input).properties =
      input.properties ++ (given.filter (·.1 = .property)).map Prod.snd := by
  induction hmade generalizing input with
  | nil => simp
  | @cons entry setting rest made hmakes _ ih =>
    obtain ⟨flag, value⟩ := entry
    obtain rfl := Setting.flag_of_make hmakes
    rw [List.foldl_cons, ih]
    cases setting with
    | property text =>
      obtain rfl : value = text := Setting.property.inj (Except.ok.inj hmakes)
      simp [Input.set, Setting.flag]
    | _ => simp [Input.set, Setting.flag]

theorem any_flag_of_makes (hmade : List.Forall₂ Makes given made) (flag : Flag) :
    made.any (·.flag == flag) = (given.lookup flag).isSome := by
  induction hmade with
  | nil => rfl
  | @cons entry setting rest made hmakes _ ih =>
    rw [List.any_cons, ih, Setting.flag_of_make hmakes, List.lookup_cons, Bool.beq_comm]
    cases flag == entry.1 <;> rfl

/-- In both subcommands the option that excludes a file is the one that stands in for it. -/
theorem checkPresence_eq_ok_iff :
    checkPresence subcommand settings = .ok () ↔
      settings.any (·.flag == .file) = !settings.any (·.flag == subcommand.naming) := by
  have hchecks : ∀ file naming : Bool,
      (if (file && naming) = true then .error .severalSources
        else if (!file && !naming) = true then .error .missingSource
        else .ok () : Except UsageError Unit) = .ok () ↔ file = !naming := by decide
  cases subcommand <;>
    simpa only [checkPresence, Subcommand.flags, Subcommand.conflictsWith,
      Subcommand.requiredUnless, Subcommand.naming, List.any_cons, List.any_nil, Option.any_some,
      Option.any_none, Bool.and_false, Bool.or_false] using hchecks _ _

-- ---------------------------------------------------------------------------
-- Arguments that give a command
-- ---------------------------------------------------------------------------

theorem ofSettings_eq_ok (h : ofSettings subcommand settings = .ok command) :
    checkPresence subcommand settings = .ok () ∧ command.subcommand = subcommand ∧
      command.input = Input.ofSettings settings := by
  obtain ⟨⟨⟩, hpresence, h⟩ := bind_eq_ok_iff.mp h
  cases subcommand <;> obtain rfl := Except.ok.inj h <;> exact ⟨hpresence, rfl, rfl⟩

theorem exists_ofSettings (h : checkPresence subcommand settings = .ok ()) :
    ∃ command, ofSettings subcommand settings = .ok command := by
  rw [ofSettings, h]
  cases subcommand <;> exact ⟨_, rfl⟩

theorem exists_name_of_parse {arguments : List String} (h : parse arguments = .ok command) :
    ∃ subcommand words, arguments = Subcommand.name subcommand :: words := by
  cases arguments with
  | nil => cases h
  | cons first rest =>
    simp only [parse] at h
    split at h
    · split at h
      · next subcommand hname =>
        exact ⟨subcommand, rest, by rw [Subcommand.ofName?_eq_some_iff.mp hname]⟩
      · cases h
    all_goals cases h

theorem parse_name (words : List String) :
    parse (subcommand.name :: words) =
      readSettings subcommand.flags {} words >>= ofSettings subcommand := by
  cases subcommand <;> rfl

theorem parse_of_lists {words : List String} (h : Lists subcommand.flags given words) :
    parse (subcommand.name :: words) = settle [] given >>= ofSettings subcommand := by
  rw [parse_name, readSettings_of_lists h]
  rfl

end

-- ---------------------------------------------------------------------------
-- The object of a command
-- ---------------------------------------------------------------------------

def load (environment : Environment) : Command → Except Failure (Pod ⊕ StatefulSet)
  | .mutate input .. => (readPod environment input).map .inl
  | .preview input _ => (readStatefulSet environment input).map .inr

/-- Other clusters around a command would give it another object or another fault. -/
def AsksCluster (environment : Environment) (command : Command) : Prop :=
  ∃ connect, load { environment with connect } command ≠ load environment command

section
variable {α : Type} {environment : Environment} {command : Command} {input : Input}
  {fault : ClusterFault} {naming : Flag}

theorem readManifest_ne_cluster {codec : Codec α} {path : String} :
    readManifest codec environment path ≠ .error (.cluster fault) := by
  intro h
  simp only [readManifest] at h
  split at h
  · split at h <;> cases h
  · split at h <;> cases h

theorem askCluster_ne_nameless {kind name : String}
    {get : Cluster → (namespaceName name : String) → Except ApiFault α} :
    askCluster environment input kind name get ≠ .error (.cluster (.nameless naming)) := by
  intro h
  simp only [askCluster] at h
  split at h
  · simp only [clusterFault] at h
    split at h
    · cases h
    · split at h
      · cases h
      · split at h <;> cases h
  · obtain ⟨fault, -, hfault⟩ := mapError_eq_error_iff.mp h
    simp only [ClusterFault.ofApi] at hfault
    split at hfault <;> cases hfault

theorem ask_eq_nameless_iff {kind : String} {own : Flag}
    {get : Cluster → (namespaceName name : String) → Except ApiFault α} :
    (askedName own input >>= fun name => askCluster environment input kind name get) =
        .error (.cluster (.nameless naming)) ↔ input.source.name? = none ∧ own = naming := by
  rw [bind_eq_error_iff]
  cases hname : input.source.name? <;> simp [askedName, hname, askCluster_ne_nameless]

/-- Exactly a command without a path and without a name has nothing to ask for. -/
theorem load_eq_nameless_iff :
    load environment command = .error (.cluster (.nameless naming)) ↔
      command.input.source.path? = none ∧ command.input.source.name? = none ∧
        command.subcommand.naming = naming := by
  cases command with
  | mutate input output strict =>
    rw [load, map_eq_error_iff, readPod, Command.input]
    cases hpath : input.source.path? with
    | none => simpa [subcommand, Subcommand.naming] using ask_eq_nameless_iff
    | some path =>
      refine iff_of_false (fun h => ?_) (fun h => Option.some_ne_none path h.1)
      rcases bind_eq_error_iff.mp h with h | ⟨pod, -, h⟩
      · exact readManifest_ne_cluster h
      · split at h <;> cases h
  | preview input replicas =>
    rw [load, map_eq_error_iff, readStatefulSet, Command.input]
    cases input.source.path? with
    | none => simpa [subcommand, Subcommand.naming] using ask_eq_nameless_iff
    | some path => exact iff_of_false readManifest_ne_cluster fun h => Option.some_ne_none path h.1

example : (ClusterFault.nameless Subcommand.mutate.naming).message =
    "either --file or --pod is required" := by decide

def Cluster.refusing (message : String) : Cluster where
  pod _ _ := .error { message }
  statefulSet _ _ := .error { message }

theorem load_of_path {path : String} (h : command.input.source.path? = some path)
    (connect : (kubeconfig context : Option String) → Option Cluster) :
    load { environment with connect } command = load environment command := by
  cases command with
  | mutate input output strict =>
    rw [Command.input] at h
    simp only [load, readPod, h]
    rfl
  | preview input replicas =>
    rw [Command.input] at h
    simp only [load, readStatefulSet, h]
    rfl

theorem load_refused {name : String} (hpath : command.input.source.path? = none)
    (hname : command.input.source.name? = some name) (message : String) :
    load { environment with connect := fun _ _ => some (Cluster.refusing message) } command =
      .error (.cluster (.refused message)) := by
  cases command with
  | mutate input output strict =>
    rw [Command.input] at hpath hname
    simp only [load, readPod, hpath, askedName, hname]
    rfl
  | preview input replicas =>
    rw [Command.input] at hpath hname
    simp only [load, readStatefulSet, hpath, askedName, hname]
    rfl

theorem asksCluster_iff
    (hone : command.input.source.path?.isSome = !command.input.source.name?.isSome) :
    AsksCluster environment command ↔ command.input.source.path? = none := by
  cases hpath : command.input.source.path? with
  | some path =>
    refine iff_of_false ?_ nofun
    rintro ⟨connect, hother⟩
    exact hother (load_of_path hpath connect)
  | none =>
    rw [hpath, Option.isSome_none, Bool.false_eq, Bool.not_eq_false'] at hone
    obtain ⟨name, hname⟩ := Option.isSome_iff_exists.mp hone
    refine iff_of_true ?_ rfl
    -- Of two clusters that refuse in different words, one at least is not the one there.
    by_cases hsame : load environment command = .error (.cluster (.refused ""))
    · refine ⟨fun _ _ => some (Cluster.refusing "no"), ?_⟩
      rw [load_refused hpath hname, hsame]
      decide
    · refine ⟨fun _ _ => some (Cluster.refusing ""), ?_⟩
      rw [load_refused hpath hname]
      exact Ne.symm hsame

theorem readConfig_ne_cluster {path : String} :
    readConfig environment path ≠ .error (.cluster fault) := by
  intro h
  rw [readConfig, bind_eq_error_iff] at h
  rcases h with h | ⟨source, -, h⟩
  · obtain ⟨_, -, ⟨⟩⟩ := mapError_eq_error_iff.mp h
  · split at h <;> cases h

theorem storedConfig_ne_cluster : storedConfig environment input ≠ .error (.cluster fault) := by
  rw [storedConfig]
  split
  · exact readConfig_ne_cluster
  · split
    · split
      · nofun
      · exact readConfig_ne_cluster
    · exact readConfig_ne_cluster

theorem config_ne_cluster :
    Command.config environment input ≠ .error (.cluster fault) := by
  intro h
  simp only [Command.config, bind_eq_error_iff] at h
  rcases h with h | ⟨stored, -, h | ⟨overrides, -, h | ⟨_, -, ⟨⟩⟩⟩⟩
  · exact storedConfig_ne_cluster h
  · obtain ⟨_, -, ⟨⟩⟩ := mapError_eq_error_iff.mp h
  · obtain ⟨_, -, ⟨⟩⟩ := mapError_eq_error_iff.mp h

theorem pipeline_ne_cluster {config : Config} : pipeline config ≠ .error (.cluster fault) := by
  intro h
  obtain ⟨_, -, ⟨⟩⟩ := mapError_eq_error_iff.mp h

theorem reportOutcome_ne_cluster {coloured strict : Bool} {output : OutputFormat} {pod : Pod}
    {outcome : Outcome} :
    (reportOutcome coloured output strict pod outcome).failure ≠ some (.cluster fault) := by
  cases outcome with
  | failed identity feature error => cases strict <;> nofun
  | notStatefulSet reason => nofun
  | mutated identity pod applied => nofun

theorem readPod_of_runMutate {output : OutputFormat} {strict : Bool}
    (h : runMutate environment input output strict = .error (.cluster fault)) :
    readPod environment input = .error (.cluster fault) := by
  simp only [runMutate, bind_eq_error_iff] at h
  rcases h with h | ⟨config, -, h | ⟨_, -, h | ⟨_, -, ⟨⟩⟩⟩⟩
  · exact absurd h config_ne_cluster
  · exact absurd h pipeline_ne_cluster
  · exact h

theorem runMutate_ne_cluster {output : OutputFormat} {strict : Bool} {report : Report}
    (h : runMutate environment input output strict = .ok report) :
    report.failure ≠ some (.cluster fault) := by
  simp only [runMutate, bind_eq_ok_iff] at h
  obtain ⟨config, -, pipeline, -, pod, -, hreport⟩ := h
  obtain rfl := Except.ok.inj hreport
  exact reportOutcome_ne_cluster

theorem readStatefulSet_of_runPreview {replicas : Option UInt32}
    (h : runPreview environment input replicas = .error (.cluster fault)) :
    readStatefulSet environment input = .error (.cluster fault) := by
  simp only [runPreview, bind_eq_error_iff] at h
  rcases h with h | ⟨config, -, h | ⟨_, -, h | ⟨set, -, h | ⟨_, -, ⟨⟩⟩⟩⟩⟩
  · exact absurd h config_ne_cluster
  · exact absurd h pipeline_ne_cluster
  · exact h
  · obtain ⟨_, -, ⟨⟩⟩ := mapError_eq_error_iff.mp h

theorem load_of_run (h : (run environment command).failure = some (.cluster fault)) :
    load environment command = .error (.cluster fault) := by
  cases command with
  | mutate input output strict =>
    rw [run] at h
    cases hrun : runMutate environment input output strict with
    | error failure =>
      obtain rfl : failure = .cluster fault := by simpa [hrun] using h
      exact map_eq_error_iff.mpr (readPod_of_runMutate hrun)
    | ok report => exact absurd (by simpa [hrun] using h) (runMutate_ne_cluster hrun)
  | preview input replicas =>
    rw [run] at h
    cases hrun : runPreview environment input replicas with
    | error failure =>
      obtain rfl : failure = .cluster fault := by simpa [hrun] using h
      exact map_eq_error_iff.mpr (readStatefulSet_of_runPreview hrun)
    | ok report =>
      have hfailed : report.failure = some (.cluster fault) := by simpa [hrun] using h
      rw [runPreview_succeeds hrun] at hfailed
      cases hfailed

end

-- ---------------------------------------------------------------------------
-- Commands that arguments give
-- ---------------------------------------------------------------------------

/-- The options given make a command: each value is one of its option, no option comes twice but
those that may, and there is one source. -/
structure Acceptable (subcommand : Subcommand) (given : List (Flag × String)) : Prop where
  makes : ∀ entry ∈ given, ∃ setting, Makes entry setting
  unrepeated : Unrepeated (given.map Prod.fst)
  one : (given.map Prod.fst).count .file + (given.map Prod.fst).count subcommand.naming = 1

/-- The command that options given to a subcommand make: where its object comes from, and the
properties that reach its configuration. -/
structure Sourced (subcommand : Subcommand) (given : List (Flag × String)) (command : Command) :
    Prop where
  subcommand_eq : command.subcommand = subcommand
  path?_eq : command.input.source.path? = given.lookup .file
  name?_eq : command.input.source.name? = given.lookup subcommand.naming
  one : command.input.source.path?.isSome = !command.input.source.name?.isSome
  properties_eq : command.input.properties = (given.filter (·.1 = .property)).map Prod.snd
  load_ne_nameless : ∀ environment naming,
    load environment command ≠ .error (.cluster (.nameless naming))
  run_ne_nameless : ∀ environment naming,
    (run environment command).failure ≠ some (.cluster (.nameless naming))
  asksCluster_iff : ∀ environment, AsksCluster environment command ↔ given.lookup .file = none

section
variable {subcommand : Subcommand} {given : List (Flag × String)} {words : List String}
  {command : Command}

theorem lookup_isSome_iff (h : Unrepeated (given.map Prod.fst)) :
    (given.lookup .file).isSome = (!(given.lookup subcommand.naming).isSome) ↔
      (given.map Prod.fst).count .file + (given.map Prod.fst).count subcommand.naming = 1 := by
  have hnaming : subcommand.naming.repeatable = false := by cases subcommand <;> rfl
  rw [count_eq_isSome_lookup h rfl, count_eq_isSome_lookup h hnaming]
  cases (given.lookup .file).isSome <;> cases (given.lookup subcommand.naming).isSome <;> decide

theorem Lists.mem_flags {flags : List Flag} (h : Lists flags given words) :
    ∀ entry ∈ given, entry.1 ∈ flags := by
  induction h with
  | nil => nofun
  | terminator => nofun
  | cons hflag _ _ ih => exact List.forall_mem_cons.mpr ⟨hflag, ih⟩

theorem sourced_of_parse (hlists : Lists subcommand.flags given words)
    (hparse : parse (subcommand.name :: words) = .ok command) :
    Sourced subcommand given command := by
  rw [parse_of_lists hlists, bind_eq_ok_iff] at hparse
  obtain ⟨made, hsettle, hcommand⟩ := hparse
  obtain ⟨hmade, -⟩ := settle_nil_eq_ok_iff.mp hsettle
  obtain ⟨hpresence, hsubcommand, hinput⟩ := ofSettings_eq_ok hcommand
  have hsame : command.input.source =
      { path? := given.lookup .file, name? := given.lookup subcommand.naming } := by
    rw [hinput, Input.ofSettings, source_foldl_set,
      Source.ofSettings_of_makes hlists.mem_flags hmade]
  have hone : command.input.source.path?.isSome = !command.input.source.name?.isSome := by
    rw [hsame, ← any_flag_of_makes hmade, ← any_flag_of_makes hmade]
    exact checkPresence_eq_ok_iff.mp hpresence
  have hload : ∀ environment naming,
      load environment command ≠ .error (.cluster (.nameless naming)) := by
    intro environment naming h
    obtain ⟨hpath, hname, -⟩ := load_eq_nameless_iff.mp h
    rw [hpath, hname] at hone
    cases hone
  exact {
    subcommand_eq := hsubcommand
    path?_eq := by rw [hsame]
    name?_eq := by rw [hsame]
    one := hone
    properties_eq := by rw [hinput, Input.ofSettings, properties_foldl_set hmade, List.nil_append]
    load_ne_nameless := hload
    run_ne_nameless := fun environment naming h => hload environment naming (load_of_run h)
    asksCluster_iff := by
      intro environment
      rw [asksCluster_iff hone, hsame] }

theorem exists_parse_iff (hlists : Lists subcommand.flags given words) :
    (∃ command, parse (subcommand.name :: words) = .ok command) ↔ Acceptable subcommand given := by
  rw [parse_of_lists hlists]
  constructor
  · rintro ⟨command, hcommand⟩
    obtain ⟨made, hsettle, hcommand⟩ := bind_eq_ok_iff.mp hcommand
    obtain ⟨hmade, hunrepeated⟩ := settle_nil_eq_ok_iff.mp hsettle
    have hpresent := checkPresence_eq_ok_iff.mp (ofSettings_eq_ok hcommand).1
    rw [any_flag_of_makes hmade, any_flag_of_makes hmade] at hpresent
    exact ⟨exists_forall₂_iff.mp ⟨made, hmade⟩, hunrepeated,
      (lookup_isSome_iff hunrepeated).mp hpresent⟩
  · rintro ⟨hmakes, hunrepeated, hone⟩
    obtain ⟨made, hmade⟩ := exists_forall₂_iff.mpr hmakes
    have hpresent := (lookup_isSome_iff hunrepeated).mpr hone
    rw [← any_flag_of_makes hmade, ← any_flag_of_makes hmade] at hpresent
    obtain ⟨command, hcommand⟩ := exists_ofSettings (checkPresence_eq_ok_iff.mpr hpresent)
    exact ⟨command, bind_eq_ok_iff.mpr
      ⟨made, settle_nil_eq_ok_iff.mpr ⟨hmade, hunrepeated⟩, hcommand⟩⟩

/-- Arguments give a command exactly where they list options for a subcommand that make one, in
whatever order and spelling. Its object then comes from one source, the cluster is asked where that
is no file, and no command runs out of a name to ask for. -/
theorem one_source (arguments : List String) :
    ((∃ command, parse arguments = .ok command) ↔
      ∃ subcommand given words, arguments = Subcommand.name subcommand :: words ∧
        Lists subcommand.flags given words ∧ Acceptable subcommand given) ∧
    ∀ subcommand given words command, arguments = Subcommand.name subcommand :: words →
      Lists subcommand.flags given words → parse arguments = .ok command →
      Sourced subcommand given command := by
  constructor
  · constructor
    · rintro ⟨command, hparse⟩
      obtain ⟨subcommand, words, rfl⟩ := exists_name_of_parse hparse
      have hread := hparse
      rw [parse_name, bind_eq_ok_iff] at hread
      obtain ⟨settings, hread, -⟩ := hread
      obtain ⟨given, hlists, -⟩ := readSettings_eq_ok_iff.mp hread
      exact ⟨subcommand, given, words, rfl, hlists,
        (exists_parse_iff hlists).mp ⟨command, hparse⟩⟩
    · rintro ⟨subcommand, given, words, rfl, hlists, hacceptable⟩
      exact (exists_parse_iff hlists).mpr hacceptable
  · rintro subcommand given words command rfl hlists hparse
    exact sourced_of_parse hlists hparse

theorem one_source_spelled :
    let given := [(Flag.property, "a=1"), (.file, "-s"), (.property, ""), (.replicas, "+3")]
    let words := ["-D", "a=1", "-f=-s", "-D=", "--replicas=+3", "--"]
    let command := Command.preview { source := .file "-s", properties := ["a=1", ""] } (some 3)
    Lists Subcommand.preview.flags given words ∧ parse ("preview" :: words) = .ok command ∧
      Sourced .preview given command := by
  intro given words command
  have hproperty : Flag.Writes .property "a=1" ["-D", "a=1"] :=
    .apart rfl (Flag.head_iff.mpr (.short rfl)) (by decide)
  have hfile : Flag.Writes .file "-s" ["-f=-s"] :=
    .together rfl (Flag.carries_iff.mpr (.short rfl))
  have hempty : Flag.Writes .property "" ["-D="] :=
    .together rfl (Flag.carries_iff.mpr (.short rfl))
  have hreplicas : Flag.Writes .replicas "+3" ["--replicas=+3"] :=
    .together rfl (Flag.carries_iff.mpr (.long rfl))
  have hend : Lists Subcommand.preview.flags [] ["--"] := .terminator
  have hlists : Lists Subcommand.preview.flags given words :=
    Lists.cons (by decide) hproperty (Lists.cons (by decide) hfile (Lists.cons (by decide) hempty
      (Lists.cons (by decide) hreplicas hend)))
  have hparse : parse ("preview" :: words) = .ok command := by decide +kernel
  exact ⟨hlists, hparse,
    (one_source ("preview" :: words)).2 .preview given words command rfl hlists hparse⟩

end

end OrdinalAdmission.Command
