import OrdinalAdmission.Proofs.Failure

/-!
# Pods over time

A pod may be admitted again and again, by different pipelines, and its labels and annotations may be
edited in between. What every reshaping of a spec respects holds between the pod a run starts from
and the pod it ends with (`Respected.run`), whatever happens in which order.
-/

namespace OrdinalAdmission

open Kube

/-- One thing that can happen to a pod. An edit sets the entry of its key, or removes it where it
has no value. -/
inductive Step where
  | admission (pipeline : Pipeline)
  | label (key : String) (value : Option String)
  | annotate (key : String) (value : Option String)

namespace Step

def edit (key : String) (value : Option String) (map : Option TextMap) : Option TextMap :=
  match value with
  | some value => some ((map.getD ∅).insert key value)
  | none => map.map (·.erase key)

def perform (pod : Pod) : Step → Pod
  | admission pipeline => pipeline.admitted pod
  | label key value =>
    { pod with metadata := { pod.metadata with labels := edit key value pod.metadata.labels } }
  | annotate key value =>
    { pod with
      metadata := { pod.metadata with annotations := edit key value pod.metadata.annotations } }

def performAll (steps : List Step) (pod : Pod) : Pod :=
  steps.foldl perform pod

end Step

/-- The outcome that the spec of an admitted pod comes from: it is the requested pod itself, or it
was reshaped by the features in turn. -/
theorem Pipeline.admitted_cases (pipeline : Pipeline) (pod : Pod) :
    pipeline.admitted pod = pod ∨
      ∃ identity spec, pipeline.identifier.identify pod.metadata = .ok identity ∧
        pod.spec = some spec ∧
        pipeline.admitted pod = { pod with spec := some (pipeline.features.foldl
          (fun spec feature =>
            feature.reshape (pipeline.scheme.collect pod.metadata) identity.ordinal spec) spec) } := by
  unfold admitted
  generalize hrun : pipeline.run pod = outcome
  cases course hrun with
  | notStatefulSet hid => exact .inl rfl
  | bare hid hspec => exact .inl rfl
  | failed hid hspec h => exact .inl rfl
  | mutated hid hspec h =>
    rw [(applyFeatures_ok h).1]
    exact .inr ⟨_, _, hid, hspec, rfl⟩

theorem Pipeline.admitted_metadata (pipeline : Pipeline) (pod : Pod) :
    (pipeline.admitted pod).metadata = pod.metadata := by
  rcases pipeline.admitted_cases pod with h | ⟨_, _, _, _, h⟩
  · rw [h]
  · rw [h]

theorem rel_mono {α β : Type} {R S : α → β → Prop} (h : ∀ x y, R x y → S x y)
    {first : Option α} {second : Option β} (hr : Option.Rel R first second) :
    Option.Rel S first second := by
  cases hr with
  | none => exact .none
  | some hr => exact .some (h _ _ hr)

/-- A preorder on specs that every reshaping follows. -/
structure Respected (R : PodSpec → PodSpec → Prop) : Prop where
  refl : ∀ spec, R spec spec
  trans : ∀ {first second third}, R first second → R second third → R first third
  reshape : ∀ annotations ordinal (feature : Feature) spec,
    R spec (feature.reshape annotations ordinal spec)

namespace Respected

variable {R : PodSpec → PodSpec → Prop}

theorem rel_refl (h : Respected R) (spec : Option PodSpec) : Option.Rel R spec spec := by
  cases spec with
  | none => exact .none
  | some spec => exact .some (h.refl spec)

theorem rel_trans (h : Respected R) {first second third : Option PodSpec}
    (hone : Option.Rel R first second) (htwo : Option.Rel R second third) :
    Option.Rel R first third := by
  cases hone with
  | none => exact htwo
  | some hr =>
    cases htwo with
    | some hr' => exact .some (h.trans hr hr')

theorem features (h : Respected R) (annotations : Annotations.Collection) (ordinal : UInt32)
    (features : List Feature) (spec : PodSpec) :
    R spec (features.foldl (fun spec feature => feature.reshape annotations ordinal spec) spec) := by
  induction features generalizing spec with
  | nil => exact h.refl spec
  | cons feature rest ih => exact h.trans (h.reshape annotations ordinal feature spec) (ih _)

theorem step (h : Respected R) (step : Step) (pod : Pod) :
    Option.Rel R pod.spec (step.perform pod).spec := by
  cases step with
  | label key value => exact h.rel_refl pod.spec
  | annotate key value => exact h.rel_refl pod.spec
  | admission pipeline =>
    rcases pipeline.admitted_cases pod with hsame | ⟨identity, spec, _, hspec, hadmitted⟩
    · rw [Step.perform, hsame]
      exact h.rel_refl pod.spec
    · rw [Step.perform, hadmitted, hspec]
      exact .some (h.features _ identity.ordinal pipeline.features spec)

/-- What every reshaping follows holds across a whole run. -/
theorem run (h : Respected R) (steps : List Step) (pod : Pod) :
    Option.Rel R pod.spec (Step.performAll steps pod).spec := by
  induction steps generalizing pod with
  | nil => exact h.rel_refl pod.spec
  | cons step rest ih => exact h.rel_trans (h.step step pod) (ih (step.perform pod))

end Respected

end OrdinalAdmission
