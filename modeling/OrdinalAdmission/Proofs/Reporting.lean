import OrdinalAdmission.Command.Run
import OrdinalAdmission.Proofs.PatchShape
import OrdinalAdmission.Proofs.Validation

/-!
# What a command writes

A command that fails has put nothing on the standard output (`output_of_failure`). The two ways of
running `mutate` on a pod differ in one case alone, where a feature fails: letting it pass prints
the pod as it came and says so, being strict prints nothing and fails. `output_discipline` states
this for every configuration and every pod that load.
-/

namespace OrdinalAdmission

open Kube

theorem Outcome.isFailed_iff {outcome : Outcome} :
    outcome.isFailed = true ↔
      ∃ identity feature error, outcome = .failed identity feature error := by
  cases outcome <;> simp [isFailed]

namespace Command

section
variable {environment : Environment} {command : Command} {input : Input} {format : OutputFormat}
  {strict : Bool} {config : Config} {pipeline : Pipeline} {pod : Pod} {report : Report}

-- ---------------------------------------------------------------------------
-- Failing commands
-- ---------------------------------------------------------------------------

theorem reportOutcome_output_of_failure {coloured : Bool} {outcome : Outcome}
    (h : (reportOutcome coloured format strict pod outcome).failure ≠ none) :
    (reportOutcome coloured format strict pod outcome).output = "" := by
  cases outcome with
  | failed identity feature error =>
    cases strict with
    | true => rfl
    | false => exact absurd rfl h
  | notStatefulSet reason => exact absurd rfl h
  | mutated identity left applied => exact absurd rfl h

theorem runMutate_output_of_failure
    (hrun : runMutate environment input format strict = .ok report)
    (h : report.failure ≠ none) : report.output = "" := by
  simp only [runMutate, bind_eq_ok_iff] at hrun
  obtain ⟨config, -, pipeline, -, pod, -, hreport⟩ := hrun
  obtain rfl := Except.ok.inj hreport
  exact reportOutcome_output_of_failure h

theorem runPreview_succeeds {replicas : Option UInt32}
    (hrun : runPreview environment input replicas = .ok report) : report.failure = none := by
  simp only [runPreview, bind_eq_ok_iff] at hrun
  obtain ⟨config, -, pipeline, -, set, -, pods, -, hreport⟩ := hrun
  obtain rfl := Except.ok.inj hreport
  rfl

theorem output_of_failure (h : (run environment command).failure ≠ none) :
    (run environment command).output = "" := by
  cases command with
  | mutate input format strict =>
    rw [run] at h ⊢
    cases hrun : runMutate environment input format strict with
    | error failure => rfl
    | ok report => exact runMutate_output_of_failure hrun (by simpa [hrun] using h)
  | preview input replicas =>
    rw [run] at h ⊢
    cases hrun : runPreview environment input replicas with
    | error failure => rfl
    | ok report => exact absurd (runPreview_succeeds hrun) (by simpa [hrun] using h)

-- ---------------------------------------------------------------------------
-- Commands whose configuration and pod load
-- ---------------------------------------------------------------------------

theorem valid_of_config (h : Command.config environment input = .ok config) :
    ∃ c, config.Valid c := by
  simp only [Command.config, bind_eq_ok_iff, mapError_eq_ok_iff] at h
  obtain ⟨stored, -, overrides, -, ⟨⟩, hvalid, hconfig⟩ := h
  obtain rfl := Except.ok.inj hconfig
  exact Config.validate_ok_iff.mp hvalid

theorem pipeline_of_config (h : Command.config environment input = .ok config) :
    ∃ pipeline, config.pipeline = .ok pipeline := by
  obtain ⟨c, hvalid⟩ := valid_of_config h
  obtain ⟨features, -, hpipeline, -⟩ := Config.pipeline_of_valid hvalid
  exact ⟨_, hpipeline⟩

theorem run_mutate (hconfig : Command.config environment input = .ok config)
    (hpipeline : config.pipeline = .ok pipeline) (hpod : readPod environment input = .ok pod) :
    run environment (.mutate input format strict) =
      reportOutcome environment.coloured format strict pod (pipeline.run pod) := by
  have hready : Command.pipeline config = .ok pipeline :=
    mapError_eq_ok_iff.mpr hpipeline
  rw [run, runMutate, hconfig]
  simp [hready, hpod, bind, Except.bind, pure, Except.pure]

-- ---------------------------------------------------------------------------
-- Letting a failure pass, and not
-- ---------------------------------------------------------------------------

theorem unmodifiedNote_ne_empty (coloured : Bool) : unmodifiedNote coloured ≠ "" := by
  cases coloured <;> decide

theorem render_patch_self (pod : Pod) : OutputFormat.render pod pod .patch = "[]" := by
  rw [OutputFormat.render, Patch.ofPods_self]
  rfl

/-- `report` is what is written about `outcome` where a failing pipeline is let pass. -/
structure LetsPass (coloured : Bool) (format : OutputFormat) (pod : Pod) (outcome : Outcome)
    (report : Report) : Prop where
  succeeds : report.failure = none
  output : report.output = format.render pod (outcome.admitted pod) ++ "\n"
  output_of_failed : outcome.isFailed = true →
    report.output = format.render pod pod ++ "\n" ∧ (format = .patch → report.output = "[]\n")
  remarks : report.remarks = summary coloured pod outcome ++
    if outcome.isFailed then unmodifiedNote coloured else ""
  noted_iff : report.remarks = summary coloured pod outcome ++ unmodifiedNote coloured ↔
    outcome.isFailed = true

/-- `strict` is what is written about `outcome` in place of `lenient` where a failing pipeline is a
failure of the command. -/
structure FailsWith (coloured : Bool) (pod : Pod) (outcome : Outcome) (lenient strict : Report) :
    Prop where
  fails_iff : strict.failure ≠ none ↔ outcome.isFailed = true
  output : outcome.isFailed = true → strict.output = ""
  remarks : outcome.isFailed = true → strict.remarks = summary coloured pod outcome
  message : ∀ identity feature error, outcome = .failed identity feature error →
    strict.failure.map Failure.message = some (feature.name ++ " handler failed: " ++ error.message)
  agrees : outcome.isFailed = false → strict = lenient

section
variable {coloured : Bool} {outcome : Outcome}

theorem reportOutcome_of_not_failed (h : outcome.isFailed = false) :
    reportOutcome coloured format strict pod outcome =
      { output := format.render pod (outcome.admitted pod) ++ "\n",
        remarks := summary coloured pod outcome } := by
  cases outcome with
  | failed => cases h
  | notStatefulSet => rfl
  | mutated => rfl

theorem letsPass_reportOutcome :
    LetsPass coloured format pod outcome (reportOutcome coloured format false pod outcome) := by
  cases hfailed : outcome.isFailed with
  | true =>
    obtain ⟨identity, feature, error, rfl⟩ := Outcome.isFailed_iff.mp hfailed
    refine ⟨rfl, rfl, fun _ => ⟨rfl, ?_⟩, rfl, iff_of_true rfl hfailed⟩
    rintro rfl
    show OutputFormat.render pod pod .patch ++ "\n" = "[]\n"
    rw [render_patch_self]
    rfl
  | false =>
    rw [reportOutcome_of_not_failed hfailed]
    have hnote : ¬ summary coloured pod outcome =
        summary coloured pod outcome ++ unmodifiedNote coloured := by
      rw [eq_comm, String.append_eq_left_iff]
      exact unmodifiedNote_ne_empty coloured
    refine ⟨rfl, rfl, by simp [hfailed], by simp [hfailed], ?_⟩
    exact iff_of_false hnote (by simp [hfailed])

theorem failsWith_reportOutcome :
    FailsWith coloured pod outcome (reportOutcome coloured format false pod outcome)
      (reportOutcome coloured format true pod outcome) := by
  cases hfailed : outcome.isFailed with
  | true =>
    obtain ⟨identity, feature, error, rfl⟩ := Outcome.isFailed_iff.mp hfailed
    refine ⟨iff_of_true nofun hfailed, fun _ => rfl, fun _ => rfl, ?_, nofun⟩
    rintro _ _ _ ⟨⟩
    rfl
  | false =>
    rw [reportOutcome_of_not_failed hfailed, reportOutcome_of_not_failed hfailed]
    refine ⟨iff_of_false (by simp) (by simp [hfailed]), by simp [hfailed], by simp [hfailed], ?_,
      fun _ => rfl⟩
    rintro identity feature error rfl
    cases hfailed

end

end

/-- What commands write. Nothing goes to the standard output of a command that fails. Where the
configuration and the pod of a `mutate` load there is a pipeline; without strictness the command
then succeeds and prints the pod to admit, which is the one that came where a feature fails, and a
note follows the summary in that case alone. With strictness it fails in that case alone, with the
failing feature and its error, and writes the same in all others. -/
theorem output_discipline (environment : Environment) :
    (∀ command, (run environment command).failure ≠ none →
      (run environment command).output = "") ∧
    ∀ input format config pod, Command.config environment input = .ok config →
      readPod environment input = .ok pod →
      ∃ pipeline, config.pipeline = .ok pipeline ∧
        LetsPass environment.coloured format pod (pipeline.run pod)
          (run environment (.mutate input format false)) ∧
        FailsWith environment.coloured pod (pipeline.run pod)
          (run environment (.mutate input format false))
          (run environment (.mutate input format true)) := by
  refine ⟨fun command => output_of_failure, fun input format config pod hconfig hpod => ?_⟩
  obtain ⟨pipeline, hpipeline⟩ := pipeline_of_config hconfig
  refine ⟨pipeline, hpipeline, ?_, ?_⟩
  · rw [run_mutate hconfig hpipeline hpod]
    exact letsPass_reportOutcome
  · rw [run_mutate hconfig hpipeline hpod, run_mutate hconfig hpipeline hpod]
    exact failsWith_reportOutcome

def refusing : Environment where
  directory := "/"
  file path := if path = "/pod.yaml" then .ok "metadata:
  annotations:
    spoditor.io/host-port: none
  labels:
    statefulset.kubernetes.io/pod-name: web-0
spec:
  containers:
  - name: a
" else .error .missing

def refused : Pod where
  metadata := {
    annotations := some (.ofList [("spoditor.io/host-port", "none")])
    labels := some (.ofList [("statefulset.kubernetes.io/pod-name", "web-0")]) }
  spec := some { containers := [{ name := "a" }] }

theorem output_discipline_refused :
    Command.config refusing { source := .file "pod.yaml" } = .ok {} ∧
      readPod refusing { source := .file "pod.yaml" } = .ok refused ∧
      (run refusing (.mutate { source := .file "pod.yaml" } .patch false)).output = "[]\n" ∧
      (run refusing (.mutate { source := .file "pod.yaml" } .patch true)).failure ≠ none ∧
      (run refusing (.mutate { source := .file "pod.yaml" } .patch true)).output = "" := by
  have hconfig : Command.config refusing { source := .file "pod.yaml" } = .ok {} :=
    toOption_eq_some_iff.mp (by decide +kernel)
  have hpod : readPod refusing { source := .file "pod.yaml" } = .ok refused :=
    toOption_eq_some_iff.mp (by decide +kernel)
  obtain ⟨hsilent, hloaded⟩ := output_discipline refusing
  obtain ⟨pipeline, hpipeline, hpasses, hfails⟩ := hloaded _ .patch _ _ hconfig hpod
  obtain rfl : Pipeline.standard = pipeline := Except.ok.inj hpipeline
  have hfailed : (Pipeline.standard.run refused).isFailed = true := by decide +kernel
  have hfailure := hfails.fails_iff.mpr hfailed
  exact ⟨hconfig, hpod, (hpasses.output_of_failed hfailed).2 rfl, hfailure, hsilent _ hfailure⟩

end Command

end OrdinalAdmission
