import OrdinalAdmission.Proofs.Bindings
import OrdinalAdmission.Proofs.Placing

/-!
# What a container is told

Of several variables with one name the processes in a container see the last, while setting a
variable replaces the first. So a container that has a variable at most once sees what it is told,
and one that has it more often goes on seeing the last of them (`sees_dress_iff`). What it is told
of a port name is the binding of the last port that shares the variable: a port without a name and
one with an empty name share theirs.
-/

namespace OrdinalAdmission

open Kube

-- ---------------------------------------------------------------------------
-- What is seen in a container
-- ---------------------------------------------------------------------------

namespace Kube.Container

def portsNamed (container : Container) (name : Option String) : List ContainerPort :=
  (container.ports.getD []).filter (·.name = name)

def hostPortOf? (container : Container) (name : Option String) : Option Int32 :=
  (container.portsNamed name).head?.bind (·.hostPort)

def variablesNamed (container : Container) (name : String) : List EnvVar :=
  (container.env.getD []).filter (·.name = name)

/-- The processes in the container see the plain value under the name: the last variable counts. -/
def Sees (container : Container) (name value : String) : Prop :=
  (container.variablesNamed name).getLast? = some { name, value := some value }

instance (container : Container) (name value : String) : Decidable (container.Sees name value) :=
  inferInstanceAs (Decidable (_ = _))

def Repeats (container : Container) (name : String) : Prop :=
  2 ≤ (container.variablesNamed name).length

instance (container : Container) (name : String) : Decidable (container.Repeats name) :=
  inferInstanceAs (Decidable (2 ≤ _))

end Kube.Container

namespace HostPort

def variableOf (portName : Option String) : String := "PORT_" ++ portName.getD ""

theorem variableOf_ne_ordinalVariable (portName : Option String) :
    variableOf portName ≠ ordinalVariable := by
  intro h
  have hchars := congrArg String.toList h
  simp [variableOf, ordinalVariable] at hchars

-- ---------------------------------------------------------------------------
-- The last word on a variable
-- ---------------------------------------------------------------------------

section
variable {ordinal : UInt32} {name : String} {entries : List Entry} {portName : Option String}

theorem announced_ordinal (found : List Binding) :
    (announced ordinal found).filter (·.name = ordinalVariable) =
      [{ name := ordinalVariable, value := some (Decimal.text ordinal.toNat) }] := by
  have hports : ∀ binding : Binding, portVariable binding.port ≠ ordinalVariable :=
    fun binding => variableOf_ne_ordinalVariable binding.port.name
  simp [announced, List.filter_map, Function.comp_def, hports]

theorem announced_port (found : List Binding) :
    (announced ordinal found).filter (·.name = variableOf portName) =
      (found.filter fun binding => portVariable binding.port = variableOf portName).map
        fun binding => { name := variableOf portName,
                         value := some (Decimal.intText binding.hostPort.toInt) } := by
  have hordinal := (variableOf_ne_ordinalVariable portName).symm
  simp only [announced, List.filter_cons, hordinal, decide_false, List.filter_map,
    Function.comp_def]
  refine List.map_congr_left fun binding hm => ?_
  rw [of_decide_eq_true (List.mem_filter.mp hm).2]

theorem last_told_ordinal (h : ∃ entry ∈ entries, entry.name = name) :
    ((toldTo ordinal name entries).filter (·.name = ordinalVariable)).getLast? =
      some { name := ordinalVariable, value := some (Decimal.text ordinal.toNat) } := by
  obtain ⟨entry, hm, hname⟩ := h
  have hne : entriesFor name entries ≠ [] :=
    List.ne_nil_of_mem (mem_entriesFor.mpr ⟨hm, hname⟩)
  simp only [toldTo, List.filter_flatMap, announced_ordinal]
  rw [← List.map_eq_flatMap, List.getLast?_map, List.getLast?_eq_some_getLast hne]
  rfl

theorem last_told_port (hfits : ∀ entry ∈ entriesFor name entries, entry.Fits ordinal)
    {port : ContainerPort}
    (h : ((asked name entries).filter (portVariable · = variableOf portName)).getLast? =
      some port) :
    ((toldTo ordinal name entries).filter (·.name = variableOf portName)).getLast? =
      some { name := variableOf portName,
             value := some (Decimal.intText (bindingAt ordinal port).hostPort.toInt) } := by
  have htold : (toldTo ordinal name entries).filter (·.name = variableOf portName) =
      ((boundIn ordinal name entries).filter
        fun binding => portVariable binding.port = variableOf portName).map
        fun binding => { name := variableOf portName,
                         value := some (Decimal.intText binding.hostPort.toInt) } := by
    simp only [toldTo, boundIn, List.filter_flatMap, announced_port, List.map_flatMap]
  rw [htold, boundIn_of_fits hfits, List.filter_map, List.map_map, List.getLast?_map]
  exact congrArg _ h

-- ---------------------------------------------------------------------------
-- What comes of a container
-- ---------------------------------------------------------------------------

/-- What a container is told under a name it sees there, unless it has the variable more than once:
then it sees what it saw. -/
theorem sees_dress_iff {container : Container} {varName told : String}
    (htold : ((toldTo ordinal container.name entries).filter (·.name = varName)).getLast? =
      some { name := varName, value := some told }) (value : String) :
    (dress ordinal entries container).Sees varName value ↔
      (container.Repeats varName → container.Sees varName value) ∧
      (¬ container.Repeats varName → told = value) := by
  obtain ⟨entry, hplaced⟩ :=
    variablePlacing.withKey_placeAll_of_last htold (container.env.getD [])
  have hnamed : (dress ordinal entries container).variablesNamed varName =
      { name := varName, value := some told } :: (container.variablesNamed varName).tail :=
    (congrArg (List.filter _) (Placing.getD_updates setVariable_eq_place _ _)).trans hplaced
  unfold Container.Sees Container.Repeats
  rw [hnamed]
  match container.variablesNamed varName with
  | [] => simp
  | [assigned] => simp
  | _ :: second :: rest => simp [List.getLast?_cons_cons]

theorem last_bound {declared : List ContainerPort} {port : ContainerPort}
    (h : (declared.filter (·.name = portName)).getLast? = some port) :
    (portPlacing.itemsFor portName (declared.map (bindingAt ordinal))).getLast? =
      some (bindingAt ordinal port) := by
  rw [Placing.itemsFor, List.filter_map, List.getLast?_map]
  exact congrArg _ h

theorem hostPortOf?_dress {container : Container} {port : ContainerPort}
    (hfits : ∀ entry ∈ entriesFor container.name entries, entry.Fits ordinal)
    (h : ((asked container.name entries).filter (·.name = portName)).getLast? = some port) :
    (dress ordinal entries container).hostPortOf? portName =
      some (bindingAt ordinal port).hostPort := by
  have hlast : (portPlacing.itemsFor portName
      (boundIn ordinal container.name entries)).getLast? = some (bindingAt ordinal port) := by
    rw [boundIn_of_fits hfits]
    exact last_bound h
  obtain ⟨entry, hplaced⟩ :=
    portPlacing.withKey_placeAll_of_last hlast (container.ports.getD [])
  have hnamed : (dress ordinal entries container).portsNamed portName =
      portPlacing.revise (bindingAt ordinal port) entry ::
        (container.portsNamed portName).tail :=
    (congrArg (List.filter _) (Placing.getD_updates bindIn_eq_place _ _)).trans hplaced
  rw [Container.hostPortOf?, hnamed]
  rfl

def lastBase? (p : ContainerPort → Bool) (ports : List ContainerPort) : Option Int32 :=
  (ports.filter p).getLast?.bind (·.hostPort)

/-- What a container sees of its ordinal and of its bindings. It sees its ordinal, and under the
variable of a port name the host port of the first port with that name, unless it goes on seeing
another value of a variable that it has more than once, or ports of another name share the variable
and the last of these asks for another host port. -/
structure Told (ordinal : UInt32) (entries : List Entry) (before after : Container) : Prop where
  ordinal : after.Sees ordinalVariable (Decimal.text ordinal.toNat) ↔
    (before.Repeats ordinalVariable →
      before.Sees ordinalVariable (Decimal.text ordinal.toNat))
  port : ∀ portName, BindsName entries before.name portName →
    ∃ hostPort, after.hostPortOf? portName = some hostPort ∧
      (after.Sees (variableOf portName) (Decimal.intText hostPort.toInt) ↔
        (before.Repeats (variableOf portName) →
          before.Sees (variableOf portName) (Decimal.intText hostPort.toInt)) ∧
        (¬ before.Repeats (variableOf portName) →
          lastBase? (portVariable · = variableOf portName) (asked before.name entries) =
            lastBase? (·.name = portName) (asked before.name entries)))

theorem exists_last_declared {p : ContainerPort → Bool} {declared : List ContainerPort}
    (h : ∃ port ∈ declared, p port) :
    ∃ port ∈ declared, (declared.filter p).getLast? = some port := by
  obtain ⟨port, hm, hp⟩ := h
  have hne : declared.filter p ≠ [] :=
    List.ne_nil_of_mem (List.mem_filter.mpr ⟨hm, hp⟩)
  have hlast := List.getLast?_eq_some_getLast hne
  exact ⟨_, (List.mem_filter.mp (List.mem_of_getLast? hlast)).1, hlast⟩

theorem intText_bindingAt_inj {one other : ContainerPort} (hone : Asks one) (hother : Asks other)
    (hfits : ¬ Overflows ordinal one) (hfits' : ¬ Overflows ordinal other) :
    Decimal.intText (bindingAt ordinal one).hostPort.toInt =
      Decimal.intText (bindingAt ordinal other).hostPort.toInt ↔
      one.hostPort = other.hostPort := by
  obtain ⟨base, hb, hpos⟩ := hone
  obtain ⟨base', hb', hpos'⟩ := hother
  rw [toInt_bindingAt hb hpos hfits, toInt_bindingAt hb' hpos' hfits',
    Decimal.intText_inj_of_nonneg (by omega) (by omega), hb, hb', Option.some_inj,
    ← Int32.toInt_inj]
  omega

theorem told_dress {container : Container}
    (hfits : ∀ entry ∈ entriesFor container.name entries, entry.Fits ordinal)
    (hnamed : ∃ entry ∈ entries, entry.name = container.name) :
    Told ordinal entries container (dress ordinal entries container) where
  ordinal := by
    rw [sees_dress_iff (last_told_ordinal hnamed)]
    simp
  port portName hbinds := by
    obtain ⟨port, hport, hname⟩ := bindsName_iff.mp hbinds
    obtain ⟨own, hown, hlast⟩ :=
      exists_last_declared (p := (·.name = portName)) ⟨port, hport, by simp [hname]⟩
    obtain ⟨sharing, hsharing, hlast'⟩ :=
      exists_last_declared (p := (portVariable · = variableOf portName))
        ⟨port, hport, by simp [← hname, portVariable, variableOf]⟩
    refine ⟨_, hostPortOf?_dress hfits hlast, ?_⟩
    rw [sees_dress_iff (last_told_port hfits hlast'),
      intText_bindingAt_inj (mem_asked.mp hsharing).2 (mem_asked.mp hown).2
        (not_overflows_of_mem_asked hfits hsharing) (not_overflows_of_mem_asked hfits hown)]
    simp [lastBase?, hlast, hlast']

end

/-- Where the host ports of a configuration are bound, every container that an entry names sees its
ordinal and its bindings, with the exceptions that `Told` states. -/
theorem told_of_mutate (config : Qualified Config) (ordinal : UInt32) (spec : PodSpec)
    (happlies : config.appliesTo ordinal = true) (hok : (mutate config ordinal spec).2 = none) :
    List.Forall₂ (fun before after : Container =>
        (∃ entry ∈ config.value.containers, entry.name = before.name) →
          Told ordinal config.value.containers before after)
      spec.containers (mutate config ordinal spec).1.containers := by
  rw [mutate_of_applies happlies] at hok ⊢
  rw [applyEntries_ok hok, List.forall₂_map_right_iff, List.forall₂_same]
  exact fun container hm hnamed =>
    told_dress (fun entry he => fits_of_applyEntries_ok hok hm he) hnamed

def forAll (entries : List Entry) : Qualified Config := ⟨"", { containers := entries }⟩

def inTurn : List Entry :=
  [{ name := "a", ports := [{ name := some "http", hostPort := some 80 }] },
    { name := "a", ports := [{ name := some "http", hostPort := some 90 }] }]

def outdated : Container :=
  { name := "a"
    env := some [{ name := "PORT_http", value := some "7" },
      { name := "POD_ORDINAL", value := some "9" }] }

theorem told_of_mutate_in_turn :
    (forAll inTurn).appliesTo 3 = true ∧
    (mutate (forAll inTurn) 3 { containers := [outdated] }).2 = none ∧
    ∃ after, (mutate (forAll inTurn) 3 { containers := [outdated] }).1.containers = [after] ∧
      after.Sees "POD_ORDINAL" "3" ∧ ∃ hostPort,
        after.hostPortOf? (some "http") = some hostPort ∧
        after.Sees "PORT_http" (Decimal.intText hostPort.toInt) := by
  have happlies : (forAll inTurn).appliesTo 3 = true := by decide +kernel
  have hok : (mutate (forAll inTurn) 3 { containers := [outdated] }).2 = none := by
    decide +kernel
  have hall := told_of_mutate (forAll inTurn) 3 { containers := [outdated] } happlies hok
  obtain ⟨after, rest, htold, hrest, hafter⟩ := List.forall₂_cons_left_iff.mp hall
  obtain rfl := List.forall₂_nil_left_iff.mp hrest
  have told := htold ⟨_, List.mem_cons_self, rfl⟩
  have hbinds : BindsName inTurn "a" (some "http") :=
    ⟨_, List.mem_cons_self, rfl, _, List.mem_cons_self, rfl, 80, rfl, by decide⟩
  obtain ⟨hostPort, hport, hsees⟩ := told.port (some "http") hbinds
  refine ⟨happlies, hok, after, hafter, ?_, hostPort, hport, ?_⟩
  · exact told.ordinal.mpr fun hrepeats => absurd hrepeats (by decide +kernel)
  · exact hsees.mpr ⟨fun hrepeats => absurd hrepeats (by decide +kernel),
      fun _ => by decide +kernel⟩

def twiceOutdated : Container :=
  { name := "a"
    env := some [{ name := "POD_ORDINAL", value := some "8" },
      { name := "POD_ORDINAL", value := some "9" }] }

def sharing : List Entry :=
  [{ name := "a" },
    { name := "b", ports := [{ name := some "", hostPort := some 80 },
      { hostPort := some 90 }] }]

/-- Not every container that an entry names sees what it is told: the first one here goes on seeing
an ordinal of old, and the second sees the host port of a port with another name. -/
theorem not_told_twice_outdated :
    (forAll sharing).appliesTo 3 = true ∧
    ∃ first second, mutate (forAll sharing) 3 { containers := [twiceOutdated, { name := "b" }] } =
        ({ containers := [first, second] }, none) ∧
      first.Sees "POD_ORDINAL" "9" ∧ ¬ first.Sees "POD_ORDINAL" "3" ∧
      second.hostPortOf? (some "") = some 83 ∧ ¬ second.Sees "PORT_" "83" := by
  refine ⟨by decide +kernel,
    { name := "a"
      env := some [{ name := "POD_ORDINAL", value := some "3" },
        { name := "POD_ORDINAL", value := some "9" }] },
    { name := "b"
      ports := some [{ name := some "", hostPort := some 83 }, { hostPort := some 93 }]
      env := some [{ name := "POD_ORDINAL", value := some "3" },
        { name := "PORT_", value := some "93" }] }, ?_⟩
  decide +kernel

end HostPort

end OrdinalAdmission
