import OrdinalAdmission.Proofs.Announcement
import OrdinalAdmission.Proofs.Settling

/-!
# What host ports make of a container

The entries of a configuration take effect one after the other, port by port and variable by
variable. What comes of it can be said of each container by itself, from the ports that the entries
with its name ask host ports for: `IsBound` says it of its ports, `IsTold` of its variables. Both
leave no choice (`IsDressed.unique`), and `dressed_of_mutate` says that nothing else comes of it.
-/

namespace OrdinalAdmission.HostPort

open Kube

-- ---------------------------------------------------------------------------
-- Ports
-- ---------------------------------------------------------------------------

/-- The ports `after` are `before` with the host ports that `declared` asks for, moved by the
ordinal. A port name is any name or none. -/
structure IsBound (ordinal : UInt32) (declared before after : List ContainerPort) : Prop where
  /-- New names stand at the end, in the order of their first declaration. -/
  names : after.map (·.name) = before.map (·.name) ++
    (declared.map (·.name)).eraseDups.filter (· ∉ before.map (·.name))
  /-- The first port of a declared name is the one that was there, or else the first declared one,
  with the host port of the last declared one moved by the ordinal. -/
  first : ∀ name ∈ declared.map (·.name), ∃ source last base hostPort,
    (before ++ declared).find? (·.name = name) = some source ∧
      (declared.filter (·.name = name)).getLast? = some last ∧ last.hostPort = some base ∧
      hostPort.toInt = base.toInt + ordinal.toNat ∧ 1 ≤ hostPort.toInt ∧
      hostPort.toInt ≤ 65535 ∧
      after.find? (·.name = name) = some { source with hostPort := some hostPort }
  others : ∀ (i : Nat) port, before[i]? = some port →
    (port.name ∈ declared.map (·.name) → ¬ IsFirst ContainerPort.name before i port) →
    after[i]? = some port

section
variable {ordinal : UInt32} {declared : List ContainerPort}

theorem IsBound.unique {before one other : List ContainerPort}
    (hone : IsBound ordinal declared before one) (hother : IsBound ordinal declared before other) :
    one = other := by
  refine ext_of_claimed hone.names hother.names ?_ ?_
  · intro name hname
    obtain ⟨source, last, base, hostPort, hsource, hlast, hbase, hsum, -, -, hfound⟩ :=
      hone.first name hname
    obtain ⟨source', last', base', hostPort', hsource', hlast', hbase', hsum', -, -, hfound'⟩ :=
      hother.first name hname
    obtain rfl := Option.some.inj (hsource.symm.trans hsource')
    obtain rfl := Option.some.inj (hlast.symm.trans hlast')
    obtain rfl := Option.some.inj (hbase.symm.trans hbase')
    obtain rfl := Int32.toInt_inj.mp (hsum.trans hsum'.symm)
    exact hfound.trans hfound'.symm
  · intro i port hport hnot
    exact ⟨hone.others i port hport hnot, hother.others i port hport hnot⟩

theorem isBound_placeAll (h : ∀ port ∈ declared, Asks port ∧ ¬ Overflows ordinal port)
    (before : List ContainerPort) :
    IsBound ordinal declared before
      (portPlacing.placeAll (declared.map (bindingAt ordinal)) before) where
  names := by
    refine (portPlacing.keys_placeAll _ before).trans ?_
    rw [List.map_map]
    rfl
  first name hname := by
    obtain ⟨port, hport, hportName⟩ := List.mem_map.mp hname
    obtain ⟨last, hdeclared, hlast⟩ := exists_last_declared
      (p := (·.name = name)) ⟨port, hport, by simp [hportName]⟩
    obtain ⟨⟨base, hbase, hpos⟩, hfits⟩ := h last hdeclared
    obtain ⟨source, hsource, hplaced⟩ := portPlacing.find?_placeAll (last_bound hlast) before
    rw [List.map_map, show portPlacing.seed ∘ bindingAt ordinal = id from rfl, List.map_id]
      at hsource
    have hsum := toInt_bindingAt hbase hpos hfits
    have hmax := sum_le_of_not_overflows hbase hpos hfits
    exact ⟨source, last, base, _, hsource, hlast, hbase, hsum, by omega, by omega, hplaced⟩
  others i port hport hother := by
    refine portPlacing.getElem?_placeAll_of_unclaimed hport ?_
    rintro ⟨binding, hbinding, hname⟩
    obtain ⟨own, hown, rfl⟩ := List.mem_map.mp hbinding
    exact hother (List.mem_map.mpr ⟨own, hown, hname⟩)

end

/-- The ports of a container, which may be absent, get the host ports that `declared` asks for; they
stay absent if it asks for none. -/
structure Binds (ordinal : UInt32) (declared : List ContainerPort)
    (before after : Option (List ContainerPort)) : Prop where
  unbound : declared = [] → after = before
  bound : declared ≠ [] → ∃ ports, after = some ports ∧
    IsBound ordinal declared (before.getD []) ports

section
variable {ordinal : UInt32} {declared : List ContainerPort}

theorem Binds.unique {before one other : Option (List ContainerPort)}
    (hone : Binds ordinal declared before one) (hother : Binds ordinal declared before other) :
    one = other := by
  by_cases hdeclared : declared = []
  · exact (hone.unbound hdeclared).trans (hother.unbound hdeclared).symm
  · obtain ⟨ports, hpresent, hbound⟩ := hone.bound hdeclared
    obtain ⟨ports', hpresent', hbound'⟩ := hother.bound hdeclared
    rw [hpresent, hpresent', hbound.unique hbound']

theorem binds_updates (h : ∀ port ∈ declared, Asks port ∧ ¬ Overflows ordinal port)
    (before : Option (List ContainerPort)) :
    Binds ordinal declared before
      (updates Binding.bindIn (declared.map (bindingAt ordinal)) before) where
  unbound hdeclared := by rw [hdeclared, List.map_nil, updates_nil]
  bound hdeclared := by
    have hne : declared.map (bindingAt ordinal) ≠ [] := by simpa using hdeclared
    exact ⟨_, Placing.updates_eq_placeAll bindIn_eq_place hne before,
      isBound_placeAll h (before.getD [])⟩

end

-- ---------------------------------------------------------------------------
-- Variables
-- ---------------------------------------------------------------------------

structure IsTold (ordinal : UInt32) (declared : List ContainerPort) (before after : List EnvVar) :
    Prop where
  /-- New names stand at the end: that of the ordinal first, then those of ports in the order of
  their first declaration. -/
  names : after.map (·.name) = before.map (·.name) ++
    (ordinalVariable :: declared.map portVariable).eraseDups.filter (· ∉ before.map (·.name))
  ofOrdinal : after.find? (·.name = ordinalVariable) =
    some { name := ordinalVariable, value := some (Decimal.text ordinal.toNat) }
  /-- Of declared ports that share a variable the last is told. -/
  ofPort : ∀ port ∈ declared, ∃ last base,
    (declared.filter (portVariable · = portVariable port)).getLast? = some last ∧
      last.hostPort = some base ∧
      after.find? (·.name = portVariable port) =
        some { name := portVariable port,
               value := some (Decimal.intText (base.toInt + ordinal.toNat)) }
  others : ∀ (i : Nat) assigned, before[i]? = some assigned →
    (assigned.name ∈ ordinalVariable :: declared.map portVariable →
      ¬ IsFirst EnvVar.name before i assigned) →
    after[i]? = some assigned

section
variable {ordinal : UInt32} {name : String} {entries : List Entry}

theorem IsTold.unique {declared : List ContainerPort} {before one other : List EnvVar}
    (hone : IsTold ordinal declared before one) (hother : IsTold ordinal declared before other) :
    one = other := by
  refine ext_of_claimed hone.names hother.names ?_ ?_
  · intro name hname
    rcases List.mem_cons.mp hname with rfl | hname
    · exact hone.ofOrdinal.trans hother.ofOrdinal.symm
    · obtain ⟨port, hport, rfl⟩ := List.mem_map.mp hname
      obtain ⟨last, base, hlast, hbase, hfound⟩ := hone.ofPort port hport
      obtain ⟨last', base', hlast', hbase', hfound'⟩ := hother.ofPort port hport
      obtain rfl := Option.some.inj (hlast.symm.trans hlast')
      obtain rfl := Option.some.inj (hbase.symm.trans hbase')
      exact hfound.trans hfound'.symm
  · intro i assigned hassigned hnot
    exact ⟨hone.others i assigned hassigned hnot, hother.others i assigned hassigned hnot⟩

theorem names_toldTo : (toldTo ordinal name entries).map (·.name) =
    (entriesFor name entries).flatMap fun entry =>
      ordinalVariable :: (bindings ordinal entry.ports).1.map (portVariable ·.port) := by
  simp [toldTo, announced, List.map_flatMap, Function.comp_def]

theorem variables_boundIn (hfits : ∀ entry ∈ entriesFor name entries, entry.Fits ordinal) :
    ((entriesFor name entries).flatMap fun entry =>
        (bindings ordinal entry.ports).1.map (portVariable ·.port)) =
      (asked name entries).map portVariable := by
  rw [← List.map_flatMap, ← boundIn, boundIn_of_fits hfits, List.map_map]
  rfl

theorem eraseDups_names_toldTo (hnamed : entriesFor name entries ≠ [])
    (hfits : ∀ entry ∈ entriesFor name entries, entry.Fits ordinal) :
    ((toldTo ordinal name entries).map (·.name)).eraseDups =
      (ordinalVariable :: (asked name entries).map portVariable).eraseDups := by
  rw [names_toldTo, eraseDups_flatMap_cons _ _ hnamed, variables_boundIn hfits]

theorem isTold_placeAll (hnamed : entriesFor name entries ≠ [])
    (hfits : ∀ entry ∈ entriesFor name entries, entry.Fits ordinal) (before : List EnvVar) :
    IsTold ordinal (asked name entries) before
      (variablePlacing.placeAll (toldTo ordinal name entries) before) where
  names := by
    rw [← eraseDups_names_toldTo hnamed hfits]
    exact variablePlacing.keys_placeAll _ before
  ofOrdinal := by
    obtain ⟨entry, hentry⟩ := List.exists_mem_of_ne_nil _ hnamed
    obtain ⟨source, -, hplaced⟩ := variablePlacing.find?_placeAll
      (last_told_ordinal ⟨entry, mem_entriesFor.mp hentry⟩) before
    exact hplaced
  ofPort port hport := by
    obtain ⟨last, hasked, hlast⟩ := exists_last_declared
      (p := (portVariable · = variableOf port.name))
      ⟨port, hport, by simp [portVariable, variableOf]⟩
    obtain ⟨-, base, hbase, hpos⟩ := mem_asked.mp hasked
    have hsum := toInt_bindingAt hbase hpos (not_overflows_of_mem_asked hfits hasked)
    have htold := last_told_port hfits hlast
    obtain ⟨source, -, hplaced⟩ := variablePlacing.find?_placeAll htold before
    refine ⟨last, base, hlast, hbase, ?_⟩
    rw [← hsum]
    exact hplaced
  others i assigned hassigned hother := by
    refine variablePlacing.getElem?_placeAll_of_unclaimed hassigned ?_
    rintro ⟨told, htold, hname⟩
    refine hother ?_
    rw [← List.mem_eraseDups, ← eraseDups_names_toldTo hnamed hfits, List.mem_eraseDups]
    exact List.mem_map.mpr ⟨told, htold, hname⟩

end

-- ---------------------------------------------------------------------------
-- Containers
-- ---------------------------------------------------------------------------

/-- The container `after` is `before` with what the entries with its name declare. -/
structure IsDressed (ordinal : UInt32) (entries : List Entry) (before after : Container) :
    Prop where
  unnamed : entriesFor before.name entries = [] → after = before
  rest : after = { before with ports := after.ports, env := after.env }
  unbound : asked before.name entries = [] → after.ports = before.ports
  bound : asked before.name entries ≠ [] → ∃ ports, after.ports = some ports ∧
    IsBound ordinal (asked before.name entries) (before.ports.getD []) ports
  told : entriesFor before.name entries ≠ [] → ∃ env, after.env = some env ∧
    IsTold ordinal (asked before.name entries) (before.env.getD []) env

/-- What is said of a dressed container leaves no choice. -/
theorem IsDressed.unique {ordinal : UInt32} {entries : List Entry} {before one other : Container}
    (hone : IsDressed ordinal entries before one)
    (hother : IsDressed ordinal entries before other) : one = other := by
  have hports : one.ports = other.ports :=
    Binds.unique ⟨hone.unbound, hone.bound⟩ ⟨hother.unbound, hother.bound⟩
  have henv : one.env = other.env := by
    by_cases hnamed : entriesFor before.name entries = []
    · rw [hone.unnamed hnamed, hother.unnamed hnamed]
    · obtain ⟨env, hpresent, htold⟩ := hone.told hnamed
      obtain ⟨env', hpresent', htold'⟩ := hother.told hnamed
      rw [hpresent, hpresent', htold.unique htold']
  rw [hone.rest, hother.rest, hports, henv]

theorem binds_dress {ordinal : UInt32} {entries : List Entry} {container : Container}
    (hfits : ∀ entry ∈ entriesFor container.name entries, entry.Fits ordinal) :
    Binds ordinal (asked container.name entries) container.ports
      (dress ordinal entries container).ports := by
  rw [dress, boundIn_of_fits hfits]
  exact binds_updates
    (fun port hport => ⟨(mem_asked.mp hport).2, not_overflows_of_mem_asked hfits hport⟩) _

theorem isDressed_dress {ordinal : UInt32} {entries : List Entry} {container : Container}
    (hfits : ∀ entry ∈ entriesFor container.name entries, entry.Fits ordinal) :
    IsDressed ordinal entries container (dress ordinal entries container) where
  unnamed h := by simp [dress, boundIn, toldTo, h]
  rest := rfl
  unbound := (binds_dress hfits).unbound
  bound := (binds_dress hfits).bound
  told h := by
    obtain ⟨entry, hentry⟩ := List.exists_mem_of_ne_nil _ h
    have hne : toldTo ordinal container.name entries ≠ [] :=
      List.ne_nil_of_mem (List.mem_flatMap.mpr ⟨entry, hentry, List.mem_cons_self⟩)
    exact ⟨_, Placing.updates_eq_placeAll setVariable_eq_place hne _,
      isTold_placeAll h hfits (container.env.getD [])⟩

/-- What binding the host ports of a configuration comes to. Each container is dressed by itself and
nothing else in the spec changes. -/
theorem dressed_of_mutate (config : Qualified Config) (ordinal : UInt32) (spec : PodSpec)
    (happlies : config.appliesTo ordinal = true) (hok : (mutate config ordinal spec).2 = none) :
    ∃ containers, mutate config ordinal spec = ({ spec with containers }, none) ∧
      List.Forall₂ (IsDressed ordinal config.value.containers) spec.containers containers := by
  rw [mutate_of_applies happlies] at hok ⊢
  refine ⟨_, congrArg _ hok, ?_⟩
  rw [applyEntries_ok hok, List.forall₂_map_right_iff, List.forall₂_same]
  exact fun container hm => isDressed_dress fun entry he => fits_of_applyEntries_ok hok hm he

def contested : List Entry :=
  [{ name := "a"
     ports := [{ containerPort := 1, hostPort := some 80 },
       { name := some "", hostPort := some 81 }, { name := some "http", hostPort := some 82 }] },
    { name := "c", ports := [{ hostPort := some 65535 }] },
    { name := "a"
      ports := [{ containerPort := 2, hostPort := some 90 },
        { name := some "http", hostPort := some 0 }] }]

def crowded : List Container :=
  [{ name := "a"
     ports := some [{ name := some "http", containerPort := 3 },
       { name := some "http", hostPort := some 7 }]
     env := some [{ name := "PORT_", valueFrom := some {} }, { name := "PORT_" }] },
    { name := "a" }, { name := "b" }]

def crowdedAtThree : List Container :=
  [{ name := "a"
     ports := some [{ name := some "http", containerPort := 3, hostPort := some 85 },
       { name := some "http", hostPort := some 7 }, { containerPort := 1, hostPort := some 93 },
       { name := some "", hostPort := some 84 }]
     env := some [{ name := "PORT_", value := some "93" }, { name := "PORT_" },
       { name := "POD_ORDINAL", value := some "3" }, { name := "PORT_http", value := some "85" }] },
    { name := "a"
      ports := some [{ containerPort := 1, hostPort := some 93 },
        { name := some "", hostPort := some 84 }, { name := some "http", hostPort := some 85 }]
      env := some [{ name := "POD_ORDINAL", value := some "3" },
        { name := "PORT_", value := some "93" }, { name := "PORT_http", value := some "85" }] },
    { name := "b" }]

theorem dressed_of_mutate_crowded :
    (forAll contested).appliesTo 3 = true ∧
    (mutate (forAll contested) 3 { containers := crowded }).2 = none ∧
    List.Forall₂ (IsDressed 3 contested) crowded crowdedAtThree := by
  have happlies : (forAll contested).appliesTo 3 = true := by decide +kernel
  have hok : (mutate (forAll contested) 3 { containers := crowded }).2 = none := by
    decide +kernel
  have hresult : (mutate (forAll contested) 3 { containers := crowded }).1.containers =
      crowdedAtThree := by
    decide +kernel
  obtain ⟨containers, hmutate, hdressed⟩ :=
    dressed_of_mutate (forAll contested) 3 { containers := crowded } happlies hok
  rw [hmutate] at hresult
  exact ⟨happlies, hok, hresult ▸ hdressed⟩

end OrdinalAdmission.HostPort
