import OrdinalAdmission.Proofs.Placing
import OrdinalAdmission.Proofs.Run

/-!
# What admissions leave alone

Over any run, lists only grow at their ends and what a list held stays where it was. `Kept` says
field by field what may differ between a spec and what becomes of it: host ports, the variables that
announce the ordinal and the ports, and what is appended to ports, variables, mounts and volumes.
-/

namespace OrdinalAdmission

open Kube

-- ---------------------------------------------------------------------------
-- Lists that grow
-- ---------------------------------------------------------------------------

section
variable {α β : Type}

def AtPositions (R : α → α → Prop) (xs ys : List α) : Prop :=
  ∀ (i : Nat) x, xs[i]? = some x → ∃ y, ys[i]? = some y ∧ R x y

def Stays (R : List α → List α → Prop) (old new : Option (List α)) : Prop :=
  ∀ xs, old = some xs → ∃ ys, new = some ys ∧ R xs ys

theorem AtPositions.refl {R : α → α → Prop} (h : ∀ x, R x x) (xs : List α) :
    AtPositions R xs xs :=
  fun _ x hx => ⟨x, hx, h x⟩

theorem AtPositions.trans {R : α → α → Prop} (h : ∀ {x y z}, R x y → R y z → R x z)
    {xs ys zs : List α} (hxy : AtPositions R xs ys) (hyz : AtPositions R ys zs) :
    AtPositions R xs zs := by
  intro i x hx
  obtain ⟨y, hy, hr⟩ := hxy i x hx
  obtain ⟨z, hz, hr'⟩ := hyz i y hy
  exact ⟨z, hz, h hr hr'⟩

theorem AtPositions.cons {R : α → α → Prop} {x y : α} {xs ys : List α} (h : R x y)
    (hxs : AtPositions R xs ys) : AtPositions R (x :: xs) (y :: ys) := by
  intro i z hz
  cases i with
  | zero =>
    cases hz
    exact ⟨y, rfl, h⟩
  | succ i => exact hxs i z hz

theorem AtPositions.map {R : α → α → Prop} {f : α → α} (h : ∀ x, R x (f x)) (xs : List α) :
    AtPositions R xs (xs.map f) := by
  intro i x hx
  exact ⟨f x, by simp [hx], h x⟩

theorem Stays.refl {R : List α → List α → Prop} (h : ∀ xs, R xs xs) (list : Option (List α)) :
    Stays R list list :=
  fun xs hx => ⟨xs, hx, h xs⟩

theorem Stays.trans {R : List α → List α → Prop} (h : ∀ {xs ys zs}, R xs ys → R ys zs → R xs zs)
    {first second third : Option (List α)} (hone : Stays R first second)
    (htwo : Stays R second third) : Stays R first third := by
  intro xs hx
  obtain ⟨ys, hy, hr⟩ := hone xs hx
  obtain ⟨zs, hz, hr'⟩ := htwo ys hy
  exact ⟨zs, hz, h hr hr'⟩

theorem Stays.mono {R S : List α → List α → Prop} (h : ∀ xs ys, R xs ys → S xs ys)
    {old new : Option (List α)} (hr : Stays R old new) : Stays S old new := by
  intro xs hx
  obtain ⟨ys, hy, hxy⟩ := hr xs hx
  exact ⟨ys, hy, h xs ys hxy⟩

theorem stays_updates {R : List β → List β → Prop} (hrefl : ∀ xs, R xs xs)
    (htrans : ∀ {xs ys zs}, R xs ys → R ys zs → R xs zs) {step : α → List β → List β}
    {items : List α} (hstep : ∀ item ∈ items, ∀ list, R list (step item list))
    (list : Option (List β)) : Stays R list (updates step items list) := by
  have hfold : ∀ xs, R xs (items.foldl (fun list item => step item list) xs) := by
    induction items with
    | nil => exact hrefl
    | cons item rest ih =>
      intro xs
      have hrest := ih fun other ho => hstep other (List.mem_cons_of_mem _ ho)
      exact htrans (hstep item List.mem_cons_self xs) (hrest (step item xs))
  intro xs hx
  subst hx
  unfold updates
  split
  · exact ⟨xs, rfl, hrefl xs⟩
  · exact ⟨_, rfl, hfold xs⟩

/-- Placing an item changes an entry as revising does, and no other. -/
theorem Placing.atPositions_place {ι κ : Type} [DecidableEq κ] (placing : Placing ι α κ)
    {R : α → α → Prop} (hrefl : ∀ entry, R entry entry) {item : ι}
    (hrevise : ∀ entry, placing.key entry = placing.target item →
      R entry (placing.revise item entry)) (list : List α) :
    AtPositions R list (placing.place item list) := by
  induction list with
  | nil =>
    intro i x hx
    cases hx
  | cons entry rest ih =>
    rw [place]
    split
    · next hkey => exact .cons (hrevise entry hkey) (.refl hrefl rest)
    · exact .cons (hrefl entry) ih

end

-- ---------------------------------------------------------------------------
-- Ports and variables
-- ---------------------------------------------------------------------------

def PortKept (old new : ContainerPort) : Prop :=
  new = { old with hostPort := new.hostPort }

def Announces (name : String) : Prop :=
  name = "POD_ORDINAL" ∨ ∃ port, name = "PORT_" ++ port

/-- The name is as it was, and so is the rest unless the variable announces something. -/
def VariableKept (old new : EnvVar) : Prop :=
  new.name = old.name ∧ (Announces old.name ∨ new = old)

theorem PortKept.refl (port : ContainerPort) : PortKept port port := rfl

theorem PortKept.trans {first second third : ContainerPort} (hone : PortKept first second)
    (htwo : PortKept second third) : PortKept first third := by
  unfold PortKept at *
  rw [htwo, hone]

theorem VariableKept.refl (assigned : EnvVar) : VariableKept assigned assigned :=
  ⟨rfl, .inr rfl⟩

theorem VariableKept.trans {first second third : EnvVar} (hone : VariableKept first second)
    (htwo : VariableKept second third) : VariableKept first third := by
  obtain ⟨hname, hkept⟩ := hone
  obtain ⟨hname', hkept'⟩ := htwo
  refine ⟨hname'.trans hname, ?_⟩
  rcases hkept with hannounces | rfl
  · exact .inl hannounces
  · exact hkept'

namespace HostPort

theorem portKept_bindIn (binding : Binding) (ports : List ContainerPort) :
    AtPositions PortKept ports (binding.bindIn ports) := by
  rw [bindIn_eq_place]
  exact portPlacing.atPositions_place PortKept.refl (fun _ _ => rfl) ports

theorem variableKept_setVariable {assigned : EnvVar} (h : Announces assigned.name)
    (env : List EnvVar) : AtPositions VariableKept env (setVariable assigned env) := by
  rw [setVariable_eq_place]
  refine variablePlacing.atPositions_place VariableKept.refl (fun entry hname => ?_) env
  have hname : entry.name = assigned.name := hname
  exact ⟨hname.symm, .inl (hname ▸ h)⟩

theorem announces_of_mem_toldTo {ordinal : UInt32} {name : String} {entries : List Entry}
    {assigned : EnvVar} (h : assigned ∈ toldTo ordinal name entries) :
    Announces assigned.name ∧
      ∃ value, assigned = { name := assigned.name, value := some value } := by
  obtain ⟨entry, -, hm⟩ := List.mem_flatMap.mp h
  rcases List.mem_cons.mp hm with rfl | hm
  · exact ⟨.inl rfl, _, rfl⟩
  · obtain ⟨binding, -, rfl⟩ := List.mem_map.mp hm
    exact ⟨.inr ⟨_, rfl⟩, _, rfl⟩

end HostPort

-- ---------------------------------------------------------------------------
-- Containers
-- ---------------------------------------------------------------------------

structure ContainerKept (old new : Container) : Prop where
  others : new = { old with
    ports := new.ports, env := new.env, volumeMounts := new.volumeMounts }
  ports : Stays (AtPositions PortKept) old.ports new.ports
  env : Stays (AtPositions VariableKept) old.env new.env
  volumeMounts : Stays (· <+: ·) old.volumeMounts new.volumeMounts

namespace ContainerKept

theorem refl (container : Container) : ContainerKept container container where
  others := rfl
  ports := .refl (.refl .refl) container.ports
  env := .refl (.refl .refl) container.env
  volumeMounts := .refl List.prefix_refl container.volumeMounts

theorem trans {first second third : Container} (hone : ContainerKept first second)
    (htwo : ContainerKept second third) : ContainerKept first third where
  others := by
    have := htwo.others
    rw [hone.others] at this
    exact this
  ports := hone.ports.trans (.trans .trans) htwo.ports
  env := hone.env.trans (.trans .trans) htwo.env
  volumeMounts :=
    Stays.trans (R := (· <+: ·)) List.IsPrefix.trans hone.volumeMounts htwo.volumeMounts

theorem dress (ordinal : UInt32) (entries : List HostPort.Entry) (container : Container) :
    ContainerKept container (HostPort.dress ordinal entries container) where
  others := rfl
  ports :=
    stays_updates (.refl .refl) (.trans .trans)
      (fun binding _ ports => HostPort.portKept_bindIn binding ports) container.ports
  env :=
    stays_updates (.refl .refl) (.trans .trans)
      (fun _ hm env =>
        HostPort.variableKept_setVariable (HostPort.announces_of_mem_toldTo hm).1 env)
      container.env
  volumeMounts := .refl List.prefix_refl container.volumeMounts

theorem furnish (entries : List MountVolume.Entry) (container : Container) :
    ContainerKept container (MountVolume.furnish entries container) where
  others := rfl
  ports := .refl (.refl .refl) container.ports
  env := .refl (.refl .refl) container.env
  volumeMounts :=
    stays_updates List.prefix_refl List.IsPrefix.trans
      (fun _ _ mounts => List.prefix_append mounts _) container.volumeMounts

end ContainerKept

-- ---------------------------------------------------------------------------
-- Specs
-- ---------------------------------------------------------------------------

structure SpecKept (old new : PodSpec) : Prop where
  others : new = { old with containers := new.containers, volumes := new.volumes }
  length : new.containers.length = old.containers.length
  containers : AtPositions ContainerKept old.containers new.containers
  volumes : Stays (· <+: ·) old.volumes new.volumes

namespace SpecKept

theorem refl (spec : PodSpec) : SpecKept spec spec where
  others := rfl
  length := rfl
  containers := .refl .refl spec.containers
  volumes := .refl List.prefix_refl spec.volumes

theorem trans {first second third : PodSpec} (hone : SpecKept first second)
    (htwo : SpecKept second third) : SpecKept first third where
  others := by
    have := htwo.others
    rw [hone.others] at this
    exact this
  length := htwo.length.trans hone.length
  containers := hone.containers.trans .trans htwo.containers
  volumes := Stays.trans (R := (· <+: ·)) List.IsPrefix.trans hone.volumes htwo.volumes

theorem reshape (annotations : Annotations.Collection) (ordinal : UInt32) (feature : Feature)
    (spec : PodSpec) : SpecKept spec (feature.reshape annotations ordinal spec) := by
  cases feature with
  | hostPort =>
    exact {
      others := rfl
      length := by simp [Feature.reshape]
      containers := .map (.dress ordinal _) spec.containers
      volumes := .refl List.prefix_refl spec.volumes }
  | mountVolume =>
    exact {
      others := rfl
      length := by simp [Feature.reshape]
      containers := .map (.furnish _) spec.containers
      volumes :=
        stays_updates List.prefix_refl List.IsPrefix.trans
          (fun _ _ volumes => List.prefix_append volumes _) spec.volumes }

theorem respected : Respected SpecKept where
  refl := refl
  trans := trans
  reshape := reshape

end SpecKept

/-- No admission touches the metadata of any pod. Over a whole run of admissions and edits the spec
stays present or absent, and everything in it stays but for what `SpecKept` lets differ. -/
theorem run_keeps (steps : List Step) (pod : Pod) :
    (∀ (pipeline : Pipeline) (requested : Pod),
      (pipeline.admitted requested).metadata = requested.metadata) ∧
    Option.Rel SpecKept pod.spec (Step.performAll steps pod).spec :=
  ⟨Pipeline.admitted_metadata, SpecKept.respected.run steps pod⟩

end OrdinalAdmission
