import OrdinalAdmission.Command.Arguments
import OrdinalAdmission.Proofs.Sequencing

/-!
# How options are written

The value of an option stands in the argument behind it, or in one argument with its name or its
letter (`Flag.Writes`). `Lists` is the grammar of all the arguments of a subcommand. Reading them is
adding the settings of the options in order, whatever the spelling (`readSettings_of_lists`), and
nothing is read but what the grammar allows (`readSettings_eq_ok_iff`). The reader holds back a
value that stands apart, so the induction for the second half runs over what an unfinished reader
has still to see (`Follows`).
-/

namespace OrdinalAdmission.Command

-- ---------------------------------------------------------------------------
-- The form of one argument
-- ---------------------------------------------------------------------------

/-- A text that can be an argument of its own; with a hyphen before it it would look like an
option. -/
def StandsApart (text : String) : Prop :=
  text.toList.head? = some '-' → text = "-"

instance (text : String) : Decidable (StandsApart text) :=
  inferInstanceAs (Decidable (_ → _))

inductive Form.Shows : Form → String → Prop where
  | terminator : Shows .terminator "--"
  | long {name : String} : name ≠ "" → '=' ∉ name.toList → Shows (.long name none) ("--" ++ name)
  | longSigned {name value : String} : '=' ∉ name.toList →
      Shows (.long name (some value)) ("--" ++ name ++ "=" ++ value)
  | short {letter : Char} : letter ≠ '-' →
      Shows (.short letter none) ("-" ++ String.singleton letter)
  | shortSigned {letter : Char} {value : String} : letter ≠ '-' →
      Shows (.short letter (some value)) ("-" ++ String.singleton letter ++ "=" ++ value)
  | shortJoined {letter : Char} {value : String} : letter ≠ '-' → value ≠ "" →
      value.toList.head? ≠ some '=' →
      Shows (.short letter (some value)) ("-" ++ String.singleton letter ++ value)
  | plain {text : String} : StandsApart text → Shows .plain text

namespace Form

theorem shows_of (argument : String) : (Form.of argument).Shows argument := by
  unfold Form.of
  split
  case h_1 h =>
    obtain rfl : argument = "--" := String.toList_inj.mp h
    exact .terminator
  case h_2 rest hne h =>
    split
    case h_1 name value hcut =>
      obtain ⟨hrest, hname⟩ := Text.cutFirst?_eq_some_iff.mp hcut
      obtain rfl : argument = "--" ++ String.ofList name ++ "=" ++ String.ofList value :=
        String.toList_inj.mp (by simp [h, hrest])
      exact .longSigned (by simpa using hname)
    case h_2 hcut =>
      obtain rfl : argument = "--" ++ String.ofList rest := String.toList_inj.mp (by simp [h])
      refine .long (fun hempty => hne ?_) (by simpa using Text.cutFirst?_eq_none_iff.mp hcut)
      simpa using congrArg String.toList hempty
  case h_3 letter hne h =>
    obtain rfl : argument = "-" ++ String.singleton letter := String.toList_inj.mp (by simp [h])
    exact .short hne
  case h_4 letter value hne h =>
    obtain rfl : argument = "-" ++ String.singleton letter ++ "=" ++ String.ofList value :=
      String.toList_inj.mp (by simp [h])
    exact .shortSigned hne
  case h_5 letter value _ hne hnil hsign h =>
    obtain rfl : argument = "-" ++ String.singleton letter ++ String.ofList value :=
      String.toList_inj.mp (by simp [h])
    refine .shortJoined hne (fun hempty => hnil ?_) fun hhead => ?_
    · simpa using congrArg String.toList hempty
    · obtain ⟨rest, hrest⟩ := List.head?_eq_some_iff.mp hhead
      exact hsign rest (by simpa using hrest)
  case h_6 _ _ hletter _ hletters =>
    refine .plain fun hhead => ?_
    obtain ⟨rest, hrest⟩ := List.head?_eq_some_iff.mp hhead
    cases rest with
    | nil => exact String.toList_inj.mp hrest
    | cons letter value => exact absurd hrest (hletters letter value)

theorem of_eq_of_shows {form : Form} {argument : String} (h : form.Shows argument) :
    Form.of argument = form := by
  cases h with
  | terminator => rfl
  | @long name hname hsign =>
    have hne : name.toList ≠ [] := String.toList_eq_nil_iff.not.mpr hname
    simp [Form.of, Text.cutFirst?_eq_none_iff.mpr hsign]
  | @longSigned name value hsign =>
    simp [Form.of, Text.cutFirst?_eq_some_iff.mpr ⟨rfl, hsign⟩]
  | short hletter => simp [Form.of]
  | shortSigned hletter => simp [Form.of]
  | @shortJoined letter value hletter hvalue hsign =>
    obtain ⟨c, rest, hrest⟩ :=
      List.exists_cons_of_ne_nil (String.toList_eq_nil_iff.not.mpr hvalue)
    have hc : c ≠ '=' := by simpa [hrest] using hsign
    obtain rfl : value = String.ofList (c :: rest) := String.toList_inj.mp (by simpa using hrest)
    simp [Form.of, hc]
  | plain hapart =>
    by_cases hhead : argument.toList.head? = some '-'
    · obtain rfl := hapart hhead
      rfl
    · cases hargument : argument.toList with
      | nil => simp [Form.of, hargument]
      | cons c rest =>
        have hc : c ≠ '-' := by simpa [hargument] using hhead
        simp [Form.of, hargument, hc]

theorem of_eq_iff {form : Form} {argument : String} :
    Form.of argument = form ↔ form.Shows argument := by
  constructor
  · rintro rfl
    exact shows_of argument
  · exact of_eq_of_shows

theorem of_eq_terminator_iff {argument : String} :
    Form.of argument = .terminator ↔ argument = "--" := by
  rw [of_eq_iff]
  constructor
  · intro h
    cases h
    rfl
  · rintro rfl
    exact .terminator

end Form

-- ---------------------------------------------------------------------------
-- An option and its value
-- ---------------------------------------------------------------------------

theorem Flag.name_spec {flag : Flag} {name : String} (h : flag.name? = some name) :
    name ≠ "" ∧ '=' ∉ name.toList := by
  cases flag <;> cases h <;> decide

theorem Flag.letter_ne_hyphen {flag : Flag} {letter : Char} (h : flag.letter? = some letter) :
    letter ≠ '-' := by
  cases flag <;> cases h <;> decide

theorem Flag.eq_of_name {one other : Flag} {name : String} (h : one.name? = some name)
    (h' : other.name? = some name) : one = other := by
  cases one <;> cases h <;> cases other <;> simp_all [Flag.name?]

theorem Flag.eq_of_letter {one other : Flag} {letter : Char} (h : one.letter? = some letter)
    (h' : other.letter? = some letter) : one = other := by
  cases one <;> cases h <;> cases other <;> simp_all [Flag.letter?]

theorem Flag.takesValue_or_help {flag : Flag} {letter : Char} (h : flag.letter? = some letter) :
    flag.takesValue = true ∨ flag = .help := by
  cases flag <;> cases h <;> decide

theorem find?_name {flags : List Flag} {flag : Flag} {name : String} (hflag : flag ∈ flags)
    (hname : flag.name? = some name) : flags.find? (·.name? == some name) = some flag := by
  cases hfound : flags.find? (·.name? == some name) with
  | none => exact absurd hname (by simpa using List.find?_eq_none.mp hfound flag hflag)
  | some found =>
    have hsame : found.name? = some name := by simpa using List.find?_some hfound
    rw [Flag.eq_of_name hsame hname]

theorem find?_letter {flags : List Flag} {flag : Flag} {letter : Char} (hflag : flag ∈ flags)
    (hletter : flag.letter? = some letter) :
    flags.find? (·.letter? == some letter) = some flag := by
  cases hfound : flags.find? (·.letter? == some letter) with
  | none => exact absurd hletter (by simpa using List.find?_eq_none.mp hfound flag hflag)
  | some found =>
    have hsame : found.letter? = some letter := by simpa using List.find?_some hfound
    rw [Flag.eq_of_letter hsame hletter]

inductive Flag.Head (flag : Flag) : String → Prop where
  | name {name : String} : flag.name? = some name → Head flag ("--" ++ name)
  | letter {letter : Char} : flag.letter? = some letter → Head flag ("-" ++ String.singleton letter)

inductive Flag.Carries (flag : Flag) (value : String) : String → Prop where
  | signed {head : String} : flag.Head head → Carries flag value (head ++ "=" ++ value)
  | joined {letter : Char} : flag.letter? = some letter → value ≠ "" →
      value.toList.head? ≠ some '=' → Carries flag value ("-" ++ String.singleton letter ++ value)

inductive Flag.Writes (flag : Flag) : String → List String → Prop where
  | apart {head value : String} : flag.takesValue = true → flag.Head head → StandsApart value →
      Writes flag value [head, value]
  | together {argument value : String} : flag.takesValue = true → flag.Carries value argument →
      Writes flag value [argument]
  | switch {head : String} : flag.takesValue = false → flag.Head head → Writes flag "" [head]

/-- The arguments that give options their values, one option after the other. -/
inductive Lists (flags : List Flag) : List (Flag × String) → List String → Prop where
  | nil : Lists flags [] []
  | terminator : Lists flags [] ["--"]
  | cons {flag : Flag} {value : String} {given : List (Flag × String)}
      {words rest : List String} : flag ∈ flags → flag.Writes value words →
      Lists flags given rest → Lists flags ((flag, value) :: given) (words ++ rest)

inductive Flag.Names (flag : Flag) : Form → Option String → Prop where
  | long {name : String} {value : Option String} : flag.name? = some name →
      Names flag (.long name value) value
  | short {letter : Char} {value : Option String} : flag.letter? = some letter →
      Names flag (.short letter value) value

theorem Flag.head_iff {flag : Flag} {argument : String} :
    flag.Head argument ↔ flag.Names (Form.of argument) none := by
  constructor
  · intro h
    cases h with
    | name hname =>
      rw [Form.of_eq_iff.mpr (.long (name_spec hname).1 (name_spec hname).2)]
      exact .long hname
    | letter hletter =>
      rw [Form.of_eq_iff.mpr (.short (letter_ne_hyphen hletter))]
      exact .short hletter
  · intro h
    have hshows := Form.shows_of argument
    generalize Form.of argument = form at h hshows
    cases h with
    | long hname =>
      cases hshows
      exact .name hname
    | short hletter =>
      cases hshows
      exact .letter hletter

theorem Flag.carries_iff {flag : Flag} {argument value : String} :
    flag.Carries value argument ↔ flag.Names (Form.of argument) (some value) := by
  constructor
  · intro h
    cases h with
    | signed hhead =>
      cases hhead with
      | name hname =>
        rw [Form.of_eq_iff.mpr (.longSigned (name_spec hname).2)]
        exact .long hname
      | letter hletter =>
        rw [Form.of_eq_iff.mpr (.shortSigned (letter_ne_hyphen hletter))]
        exact .short hletter
    | joined hletter hne hsign =>
      rw [Form.of_eq_iff.mpr (.shortJoined (letter_ne_hyphen hletter) hne hsign)]
      exact .short hletter
  · intro h
    have hshows := Form.shows_of argument
    generalize Form.of argument = form at h hshows
    cases h with
    | long hname =>
      cases hshows
      exact .signed (.name hname)
    | short hletter =>
      cases hshows with
      | shortSigned => exact .signed (.letter hletter)
      | shortJoined _ hne hsign => exact .joined hletter hne hsign

-- ---------------------------------------------------------------------------
-- One step of reading
-- ---------------------------------------------------------------------------

section
variable {flags : List Flag} {flag : Flag} {given : List (Flag × String)}
  {words rest : List String} {settings : List Setting} {progress : Progress} {argument : String}

theorem Flag.Names.ne_terminator {form : Form} {value : Option String}
    (h : flag.Names form value) : form ≠ .terminator := by
  cases h <;> nofun

theorem Progress.step_of_awaiting (h : progress.pending = some (flag, none))
    (hapart : StandsApart argument) :
    progress.step flags argument =
      .ok { progress with pending := some (flag, some argument) } := by
  rw [step, Form.of_eq_iff.mpr (.plain hapart), h]

theorem Progress.step_of_names {value : Option String} (hflag : flag ∈ flags)
    (hnames : flag.Names (Form.of argument) value)
    (hfits : flag.takesValue = true ∨ value = none) :
    progress.step flags argument = progress.take flag value := by
  rw [step]
  generalize Form.of argument = form at hnames
  cases hnames with
  | long hname =>
    cases value with
    | none => simp only [find?_name hflag hname]
    | some value =>
      have htakes : flag.takesValue = true := by simpa using hfits
      simp only [find?_name hflag hname, htakes, if_true]
  | short hletter => simp only [find?_letter hflag hletter]

-- ---------------------------------------------------------------------------
-- Reading all arguments
-- ---------------------------------------------------------------------------

def settle (settings : List Setting) (given : List (Flag × String)) :
    Except UsageError (List Setting) :=
  given.foldlM (fun settings entry => Progress.add settings entry.1 entry.2) settings

theorem settle_cons {flag : Flag} {value : String} :
    settle settings ((flag, value) :: given) =
      Progress.add settings flag value >>= fun settings => settle settings given := rfl

@[simp] theorem Progress.finish_idle :
    ({ settings } : Progress).finish = pure settings := rfl

@[simp] theorem Progress.finish_held {flag : Flag} {value : String} :
    ({ settings, pending := some (flag, some value) } : Progress).finish =
      add settings flag value := rfl

theorem readSettings_terminator :
    readSettings flags progress ["--"] = progress.finish := by
  rw [readSettings]
  rfl

theorem readSettings_cons (h : Form.of argument ≠ .terminator) :
    readSettings flags progress (argument :: rest) =
      progress.step flags argument >>= fun next => readSettings flags next rest := by
  rw [readSettings]
  · exact fun hform => absurd hform h
  · exact fun _ _ hform => absurd hform h

theorem readSettings_option {value : Option String} (hflag : flag ∈ flags)
    (hnames : flag.Names (Form.of argument) value)
    (hfits : flag.takesValue = true ∨ value = none) :
    readSettings flags progress (argument :: rest) =
      progress.take flag value >>= fun next => readSettings flags next rest := by
  rw [readSettings_cons hnames.ne_terminator, Progress.step_of_names hflag hnames hfits]

theorem readSettings_value (hapart : StandsApart argument) :
    readSettings flags { settings, pending := some (flag, none) } (argument :: rest) =
      readSettings flags { settings, pending := some (flag, some argument) } rest := by
  have hplain : Form.of argument ≠ .terminator := by simp [Form.of_eq_iff.mpr (.plain hapart)]
  rw [readSettings_cons hplain, Progress.step_of_awaiting rfl hapart]
  rfl

/-- However options are written, their settings are added in the order in which they are given. -/
theorem readSettings_of_lists (h : Lists flags given words) (progress : Progress) :
    readSettings flags progress words =
      progress.finish >>= fun settings => settle settings given := by
  induction h generalizing progress with
  | nil =>
    rw [readSettings]
    cases progress.finish <;> rfl
  | terminator =>
    rw [readSettings_terminator]
    cases progress.finish <;> rfl
  | @cons flag value given words rest hflag hwrites _ ih =>
    simp only [settle_cons]
    cases hwrites with
    | apart htakes hhead hapart =>
      rw [List.cons_append, readSettings_option hflag (Flag.head_iff.mp hhead) (.inl htakes)]
      simp only [Progress.take, htakes, List.cons_append, List.nil_append, bind_assoc, pure_bind,
        readSettings_value hapart, ih, Progress.finish_held]
    | together htakes hcarries =>
      rw [List.cons_append, readSettings_option hflag (Flag.carries_iff.mp hcarries) (.inl htakes)]
      simp only [Progress.take, htakes, List.nil_append, bind_assoc, pure_bind, ih,
        Progress.finish_idle]
    | switch htakes hhead =>
      rw [List.cons_append, readSettings_option hflag (Flag.head_iff.mp hhead) (.inr rfl)]
      simp only [Progress.take, htakes, List.nil_append, bind_assoc, pure_bind, ih,
        Progress.finish_idle]

/-- What the arguments behind an option still belong to it, with the options given from there. -/
inductive Follows (flags : List Flag) :
    Option (Flag × Option String) → List (Flag × String) → List String → Prop where
  | idle {given : List (Flag × String)} {words : List String} : Lists flags given words →
      Follows flags none given words
  | awaiting {flag : Flag} {value : String} {given : List (Flag × String)} {words : List String} :
      StandsApart value → Lists flags given words →
      Follows flags (some (flag, none)) ((flag, value) :: given) (value :: words)
  | held {flag : Flag} {value : String} {given : List (Flag × String)} {words : List String} :
      Lists flags given words →
      Follows flags (some (flag, some value)) ((flag, value) :: given) words

theorem exists_follows_of_finish (hfinish : progress.finish = .ok settings)
    (hlists : Lists flags given words) :
    ∃ all, Follows flags progress.pending all words ∧
      settle progress.settings all = settle settings given := by
  obtain ⟨made, pending⟩ := progress
  match pending with
  | none =>
    obtain rfl := Except.ok.inj hfinish
    exact ⟨given, .idle hlists, rfl⟩
  | some (flag, none) => cases hfinish
  | some (flag, some value) =>
    refine ⟨(flag, value) :: given, .held hlists, ?_⟩
    rw [Progress.finish_held] at hfinish
    rw [settle_cons, hfinish]
    rfl

theorem Progress.take_help_ne_ok {next : Progress} {value : Option String} :
    progress.take .help value ≠ .ok next := by
  intro h
  obtain ⟨made, -, h⟩ := bind_eq_ok_iff.mp h
  obtain ⟨added, hadd, -⟩ := bind_eq_ok_iff.mp h
  rw [add] at hadd
  split at hadd <;> cases hadd

/-- What a step can be: it goes on to the value of the option before, or to another option. -/
theorem Progress.step_eq_ok {next : Progress} (h : progress.step flags argument = .ok next) :
    (∃ flag, progress.pending = some (flag, none) ∧ StandsApart argument ∧
      next = { progress with pending := some (flag, some argument) }) ∨
    ∃ flag ∈ flags, ∃ value, flag.Names (Form.of argument) value ∧
      (flag.takesValue = true ∨ value = none) ∧ progress.take flag value = .ok next := by
  have hshows := Form.shows_of argument
  unfold step at h
  split at h
  · next hform hpending =>
    rw [hform] at hshows
    cases hshows with
    | plain hapart => exact .inl ⟨_, hpending, hapart, (Except.ok.inj h).symm⟩
  · next name value hform =>
    rw [hform]
    split at h
    · cases h
    · next flag hfound =>
      have hname : flag.name? = some name := by simpa using List.find?_some hfound
      exact .inr ⟨flag, List.mem_of_find?_eq_some hfound, none, .long hname, .inr rfl, h⟩
    · next flag value hfound =>
      have hname : flag.name? = some name := by simpa using List.find?_some hfound
      split at h
      · next htakes =>
        exact .inr ⟨flag, List.mem_of_find?_eq_some hfound, some value, .long hname, .inl htakes, h⟩
      · cases h
  · next letter value hform =>
    rw [hform]
    split at h
    · cases h
    · next flag hfound =>
      have hletter : flag.letter? = some letter := by simpa using List.find?_some hfound
      rcases Flag.takesValue_or_help hletter with htakes | rfl
      · exact .inr ⟨flag, List.mem_of_find?_eq_some hfound, value, .short hletter, .inl htakes, h⟩
      · exact absurd h take_help_ne_ok
  · cases h
  · cases h

theorem exists_lists_of_take {next : Progress} {value : Option String} (hflag : flag ∈ flags)
    (hnames : flag.Names (Form.of argument) value) (hfits : flag.takesValue = true ∨ value = none)
    (htake : progress.take flag value = .ok next)
    (hfollows : Follows flags next.pending given rest)
    (hsettle : settle next.settings given = .ok settings) :
    ∃ made, progress.finish = .ok made ∧ ∃ all, Lists flags all (argument :: rest) ∧
      settle made all = .ok settings := by
  rw [Progress.take, bind_eq_ok_iff] at htake
  obtain ⟨made, hfinish, htake⟩ := htake
  refine ⟨made, hfinish, ?_⟩
  have htogether : ∀ own added, flag.Writes own [argument] →
      Progress.add made flag own = .ok added → next = { settings := added } →
      ∃ all, Lists flags all (argument :: rest) ∧ settle made all = .ok settings := by
    rintro own added hwrites hadd rfl
    cases hfollows with
    | idle hlists =>
      refine ⟨(flag, own) :: given, .cons hflag hwrites hlists, ?_⟩
      rw [settle_cons, hadd]
      exact hsettle
  split at htake
  · next htakes =>
    obtain rfl := Except.ok.inj htake
    cases hfollows with
    | awaiting hapart hlists =>
      exact ⟨_, .cons hflag (.apart htakes (Flag.head_iff.mpr hnames) hapart) hlists, hsettle⟩
  · next own htakes =>
    obtain ⟨added, hadd, hnext⟩ := bind_eq_ok_iff.mp htake
    exact htogether own added (.together htakes (Flag.carries_iff.mpr hnames)) hadd
      (Except.ok.inj hnext).symm
  · next htakes =>
    obtain ⟨added, hadd, hnext⟩ := bind_eq_ok_iff.mp htake
    obtain rfl := hfits.resolve_left (by simp [htakes])
    exact htogether "" added (.switch htakes (Flag.head_iff.mpr hnames)) hadd
      (Except.ok.inj hnext).symm

theorem exists_follows (h : readSettings flags progress words = .ok settings) :
    ∃ given, Follows flags progress.pending given words ∧
      settle progress.settings given = .ok settings := by
  induction words generalizing progress with
  | nil =>
    rw [readSettings] at h
    exact exists_follows_of_finish h .nil
  | cons argument rest ih =>
    by_cases hform : Form.of argument = .terminator
    · cases rest with
      | nil =>
        obtain rfl := Form.of_eq_terminator_iff.mp hform
        rw [readSettings_terminator] at h
        exact exists_follows_of_finish h .terminator
      | cons extra more =>
        rw [readSettings] at h
        · cases h
        · exact hform
    · rw [readSettings_cons hform, bind_eq_ok_iff] at h
      obtain ⟨next, hstep, hrest⟩ := h
      obtain ⟨given, hfollows, hsettle⟩ := ih hrest
      rcases Progress.step_eq_ok hstep with ⟨flag, hpending, hapart, rfl⟩ |
        ⟨flag, hflag, value, hnames, hfits, htake⟩
      · cases hfollows with
        | held hlists => exact ⟨_, hpending ▸ .awaiting hapart hlists, hsettle⟩
      · obtain ⟨made, hfinish, all, hlists, hall⟩ :=
          exists_lists_of_take hflag hnames hfits htake hfollows hsettle
        obtain ⟨all, hfollows, hsame⟩ := exists_follows_of_finish hfinish hlists
        exact ⟨all, hfollows, hsame.trans hall⟩

/-- What arguments are read as: the settings of the options that they list, one after the other. -/
theorem readSettings_eq_ok_iff :
    readSettings flags {} words = .ok settings ↔
      ∃ given, Lists flags given words ∧ settle [] given = .ok settings := by
  constructor
  · intro h
    obtain ⟨given, hfollows, hsettle⟩ := exists_follows h
    cases hfollows with
    | idle hlists => exact ⟨given, hlists, hsettle⟩
  · rintro ⟨given, hlists, hsettle⟩
    rw [readSettings_of_lists hlists]
    exact hsettle

end

end OrdinalAdmission.Command
