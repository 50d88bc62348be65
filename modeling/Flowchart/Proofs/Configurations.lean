/-
  Configurations are loaded once.

  The registry keeps every configuration that it has loaded by the path of its file.  The files may change
  at any time; what was loaded stays what it was, and what was not is read anew each time.  All this holds
  for any reader of YAML.

  1. **One load** — `stated` is what a configuration file says at the moment.  A load answers with what is
     kept for the path, and only if there is nothing with what the file says; it changes the registry only
     if it reads a good file for the first time (`run_loadConfig`).

  2. **A search** — `SearchLoads` follows the loop over the directories: a directory that is reached and has
     a configuration file may load it, whether or not the search gets to its end.

  3. **The step** — after an event a configuration is kept exactly if it was kept before or the event has
     loaded it (`kept?_happen`).

  4. **The run** — by induction, what is kept after a run is what some event of the run has loaded
     (`kept?_later`), and so a load at the end of the run answers by the history alone.
-/
import Flowchart.Plugin.Registry
import Flowchart.Yaml.Document
import Mathlib.Data.List.Induction

namespace Flowchart.FileStore

/-! ## Listing a directory -/

theorem names_of_place {s : FileStore} {p : Path} {place : List String} (hplace : s.place p = .ok place)
    (hat : s.at? place = some .directory) :
    s.names p = .ok ((s.entries.filterMap fun e => nameIn? place e.1).mergeSort (· ≤ ·)) := by
  rw [names, hplace]
  simp only [bind, Except.bind, hat]
  rfl

/-- Entries that stand in the order of their names are listed as they stand. -/
theorem names_of_sorted {s : FileStore} {p : Path} {place names : List String}
    (hplace : s.place p = .ok place) (hat : s.at? place = some .directory)
    (hnames : (s.entries.filterMap fun e => nameIn? place e.1) = names)
    (hsorted : names.Pairwise fun a b => decide (a ≤ b) = true) : s.names p = .ok names := by
  rw [names_of_place hplace hat, hnames, List.mergeSort_of_pairwise hsorted]

end Flowchart.FileStore

namespace Flowchart.Registry

/-! ## One load -/

/-- What the configuration file at a path says: its value, if that has the required fields. -/
def stated (yaml : Reader) (files : FileStore) (path : Path) : Except ConfigError Value := do
  let config ← readConfig yaml files path
  requireFields config path.text requiredFields
  return config

/-- The configuration that is kept for a path, by the text of the path. -/
def kept? (r : Registry) (path : String) : Option Value := r.configs.find? path

/-- The registry with a configuration kept for a path. -/
def keep (r : Registry) (path : String) (config : Value) : Registry :=
  { r with configs := r.configs.set path config }

theorem kept?_keep (r : Registry) (path other : String) (config : Value) :
    (r.keep path config).kept? other = if other = path then some config else r.kept? other :=
  Assoc.find?_set path other config r.configs

/-- A load answers with what is kept, else with what the file says, which is kept if it is good. -/
theorem run_loadConfig (yaml : Reader) (files : FileStore) (dir : Path) (r : Registry) :
    ((loadConfig yaml files dir).outcome r, (loadConfig yaml files dir).leaves r) =
      match r.kept? (configPath dir).text, stated yaml files (configPath dir) with
      | some config, _ => (.ok config, r)
      | none, .ok config => (.ok config, r.keep (configPath dir).text config)
      | none, .error e => (.error e, r) := by
  rw [loadConfig, Action.outcome_bind, Action.leaves_bind, kept?]
  simp only [Action.outcome_state, Action.leaves_state]
  cases r.configs.find? (configPath dir).text with
  | some config => rfl
  | none =>
    dsimp only [stated]
    cases readConfig yaml files (configPath dir) with
    | error e => cases e <;> rfl
    | ok config =>
      simp only [Except.bind, bind]
      cases requireFields config (configPath dir).text requiredFields <;> rfl

theorem outcome_loadConfig (yaml : Reader) (files : FileStore) (dir : Path) (r : Registry) :
    (loadConfig yaml files dir).outcome r =
      match r.kept? (configPath dir).text with
      | some config => .ok config
      | none => stated yaml files (configPath dir) := by
  have h := congrArg Prod.fst (run_loadConfig yaml files dir r)
  cases hkept : r.kept? (configPath dir).text <;> cases hsays : stated yaml files (configPath dir) <;>
    simpa [hkept, hsays] using h

/-- A load that fails changes nothing. -/
theorem leaves_loadConfig_of_error {yaml : Reader} {files : FileStore} {dir : Path} {r : Registry}
    {e : ConfigError} (h : (loadConfig yaml files dir).outcome r = .error e) :
    (loadConfig yaml files dir).leaves r = r := by
  have hrun := run_loadConfig yaml files dir r
  rw [h] at hrun
  split at hrun
  · nomatch (Prod.mk.inj hrun).1
  · nomatch (Prod.mk.inj hrun).1
  · exact (Prod.mk.inj hrun).2

/-- After a load a configuration is kept exactly if it was kept before or is the one that was loaded. -/
theorem kept?_loadConfig (yaml : Reader) (files : FileStore) (dir : Path) (r : Registry) (path : String)
    (config : Value) :
    ((loadConfig yaml files dir).leaves r).kept? path = some config ↔
      r.kept? path = some config ∨
        path = (configPath dir).text ∧ (loadConfig yaml files dir).outcome r = .ok config := by
  have hrun := run_loadConfig yaml files dir r
  split at hrun
  · next known hkept =>
    obtain ⟨hout, hleaves⟩ := Prod.mk.inj hrun
    rw [hleaves, hout]
    refine ⟨.inl, ?_⟩
    rintro (h | ⟨rfl, h⟩)
    · exact h
    · rw [hkept, Except.ok.inj h]
  · next said hkept hsaid =>
    obtain ⟨hout, hleaves⟩ := Prod.mk.inj hrun
    rw [hleaves, hout, kept?_keep]
    by_cases hpath : path = (configPath dir).text
    · rw [if_pos hpath, hpath, hkept]
      simp
    · rw [if_neg hpath]
      simp [hpath]
  · next e hkept hsaid =>
    obtain ⟨hout, hleaves⟩ := Prod.mk.inj hrun
    rw [hleaves, hout]
    simp

/-! ## A search -/

/-- What a visit makes of a load: some failures are passed over, and what was loaded has to be a map. -/
def verdict : Except ConfigError Value → Except ConfigError (Option Value)
  | .error e => if e.isPassable then .ok none else .error e
  | .ok config =>
    match config.lookup "name", config.lookup "version" with
    | .ok _, .ok _ => .ok (some config)
    | .error m, _ => .error (.misused m)
    | .ok _, .error m => .error (.misused m)

/-- A visit loads a configuration only if there is a directory with a configuration file. -/
theorem run_visit (yaml : Reader) (files : FileStore) (sub : Path) (r : Registry) :
    ((visit yaml files sub).outcome r, (visit yaml files sub).leaves r) =
      match files.isDirectory sub, files.holds (configPath sub) with
      | .ok true, .ok true =>
        (verdict ((loadConfig yaml files sub).outcome r), (loadConfig yaml files sub).leaves r)
      | .ok true, .ok false => (.ok none, r)
      | .ok true, .error e => (.error (.unreadable e), r)
      | .ok false, _ => (.ok none, r)
      | .error e, _ => (.error (.unreadable e), r) := by
  rw [visit, Action.outcome_bind, Action.leaves_bind]
  simp only [Action.outcome_ofExcept, Action.leaves_ofExcept]
  rcases files.isDirectory sub with e | _ | _
  · rfl
  · rfl
  · simp only [orUnreadable, Bool.not_true, Bool.false_eq_true, if_false, Action.outcome_bind,
      Action.leaves_bind, Action.outcome_ofExcept, Action.leaves_ofExcept]
    rcases files.holds (configPath sub) with e | _ | _
    · rfl
    · rfl
    · simp only [Bool.not_true, Bool.false_eq_true, if_false, Action.outcome_bind, Action.leaves_bind,
        Action.outcome_attempt, Action.leaves_attempt]
      rcases (loadConfig yaml files sub).outcome r with e | config
      · dsimp only [verdict]
        cases e.isPassable <;> rfl
      · simp only [verdict, configField, Action.outcome_bind, Action.leaves_bind, Action.outcome_ofExcept,
          Action.leaves_ofExcept]
        cases config.lookup "name" with
        | error m => rfl
        | ok title => cases config.lookup "version" <;> rfl

/-- There is a directory with a configuration file, which a visit tries to load. -/
def HasConfig (files : FileStore) (sub : Path) : Prop :=
  files.isDirectory sub = .ok true ∧ files.holds (configPath sub) = .ok true

/-- After a visit a configuration is kept exactly if it was kept before or the visit has loaded it. -/
theorem kept?_visit (yaml : Reader) (files : FileStore) (sub : Path) (r : Registry) (path : String)
    (config : Value) :
    ((visit yaml files sub).leaves r).kept? path = some config ↔
      r.kept? path = some config ∨ HasConfig files sub ∧ path = (configPath sub).text ∧
        (loadConfig yaml files sub).outcome r = .ok config := by
  have hrun := congrArg Prod.snd (run_visit yaml files sub r)
  by_cases hconfig : HasConfig files sub
  · rw [hconfig.1, hconfig.2] at hrun
    rw [show (visit yaml files sub).leaves r = (loadConfig yaml files sub).leaves r from hrun, kept?_loadConfig]
    simp only [hconfig, true_and]
  · have hleaves : (visit yaml files sub).leaves r = r := by
      split at hrun
      · next hdir hholds => exact absurd ⟨hdir, hholds⟩ hconfig
      · exact hrun
      · exact hrun
      · exact hrun
      · exact hrun
    rw [hleaves]
    simp only [hconfig, false_and, or_false]

/-- A search through the named directories loads `config` for `path`: its first directory does, or the
    visit of that one goes well and the search through the others does.  How the search ends does not
    matter. -/
inductive SearchLoads (yaml : Reader) (files : FileStore) (dir : Path) :
    Registry → List String → String → Value → Prop
  | here {r : Registry} {name : String} {rest : List String} {config : Value}
      (hconfig : HasConfig files (dir.child name))
      (hload : (loadConfig yaml files (dir.child name)).outcome r = .ok config) :
      SearchLoads yaml files dir r (name :: rest) (configPath (dir.child name)).text config
  | later {r : Registry} {name : String} {rest : List String} {path : String} {config : Value}
      {found : Option Value} (hvisit : (visit yaml files (dir.child name)).outcome r = .ok found)
      (hrest : SearchLoads yaml files dir ((visit yaml files (dir.child name)).leaves r) rest path config) :
      SearchLoads yaml files dir r (name :: rest) path config

/-- After a search a configuration is kept exactly if it was kept before or the search has loaded it. -/
theorem kept?_discoverIn (yaml : Reader) (files : FileStore) (dir : Path) (names : List String) (r : Registry)
    (path : String) (config : Value) :
    ((discoverIn yaml files dir names).leaves r).kept? path = some config ↔
      r.kept? path = some config ∨ SearchLoads yaml files dir r names path config := by
  induction names generalizing r with
  | nil =>
    refine ⟨.inl, ?_⟩
    rintro (h | h)
    · exact h
    · nomatch h
  | cons name rest ih =>
    rw [discoverIn, Action.leaves_bind]
    cases hvisit : (visit yaml files (dir.child name)).outcome r with
    | error e =>
      -- the search ends here, and what the visit has loaded stays
      dsimp only
      rw [kept?_visit]
      refine or_congr_right ⟨?_, ?_⟩
      · rintro ⟨hconfig, rfl, hload⟩
        exact .here hconfig hload
      · rintro (⟨hconfig, hload⟩ | ⟨hother, -⟩)
        · exact ⟨hconfig, rfl, hload⟩
        · rw [hvisit] at hother
          nomatch hother
    | ok found =>
      dsimp only
      have hlast : (discoverIn yaml files dir rest >>= fun others => pure (found.toList ++ others)).leaves
          ((visit yaml files (dir.child name)).leaves r) =
          (discoverIn yaml files dir rest).leaves ((visit yaml files (dir.child name)).leaves r) := by
        rw [Action.leaves_bind]
        cases (discoverIn yaml files dir rest).outcome ((visit yaml files (dir.child name)).leaves r) <;> rfl
      rw [hlast, ih, kept?_visit, or_assoc]
      refine or_congr_right ⟨?_, ?_⟩
      · rintro (⟨hconfig, rfl, hload⟩ | hrest)
        · exact .here hconfig hload
        · exact .later hvisit hrest
      · rintro (⟨hconfig, hload⟩ | ⟨-, hrest⟩)
        · exact .inl ⟨hconfig, rfl, hload⟩
        · exact .inr hrest

/-- What a search is the first to load for a path is what a file of that path says. -/
theorem SearchLoads.exists_stated {yaml : Reader} {files : FileStore} {dir : Path} {r : Registry}
    {names : List String} {path : String} {config : Value} (h : SearchLoads yaml files dir r names path config)
    (hnone : r.kept? path = none) :
    ∃ file : Path, file.text = path ∧ stated yaml files file = .ok config := by
  induction h with
  | here hconfig hload =>
    rw [outcome_loadConfig, hnone] at hload
    exact ⟨_, rfl, hload⟩
  | @later r name rest path config found hvisit hrest ih =>
    cases hkept : ((visit yaml files (dir.child name)).leaves r).kept? path with
    | none => exact ih hkept
    | some known =>
      -- the first directory has loaded it, and it stays
      have hstays := (kept?_discoverIn yaml files dir rest _ path known).mpr (.inl hkept)
      have hsame := (kept?_discoverIn yaml files dir rest _ path config).mpr (.inr hrest)
      obtain rfl := Option.some.inj (hstays.symm.trans hsame)
      rcases (kept?_visit yaml files (dir.child name) r path known).mp hkept with hbefore | ⟨-, rfl, hload⟩
      · rw [hnone] at hbefore
        nomatch hbefore
      · rw [outcome_loadConfig, hnone] at hload
        exact ⟨_, rfl, hload⟩

/-- A search goes through all the names of its directory, if that can be read. -/
theorem run_discover (yaml : Reader) (files : FileStore) (dir : Path) (r : Registry) :
    ((discover yaml files dir).outcome r, (discover yaml files dir).leaves r) =
      match files.holds dir, files.names dir with
      | .ok true, .ok names =>
        ((discoverIn yaml files dir names).outcome r, (discoverIn yaml files dir names).leaves r)
      | .ok true, .error e => (.error (.unreadable e), r)
      | .ok false, _ => (.ok [], r)
      | .error e, _ => (.error (.unreadable e), r) := by
  rw [discover, Action.outcome_bind, Action.leaves_bind]
  simp only [Action.outcome_ofExcept, Action.leaves_ofExcept]
  rcases files.holds dir with e | _ | _
  · rfl
  · rfl
  · simp only [orUnreadable, if_true, Action.outcome_bind, Action.leaves_bind, Action.outcome_ofExcept,
      Action.leaves_ofExcept]
    cases files.names dir <;> rfl

theorem outcome_discover {yaml : Reader} {files : FileStore} {dir : Path} {names : List String}
    (hdir : files.holds dir = .ok true) (hnames : files.names dir = .ok names) (r : Registry) :
    (discover yaml files dir).outcome r = (discoverIn yaml files dir names).outcome r := by
  have hrun := congrArg Prod.fst (run_discover yaml files dir r)
  rwa [hdir, hnames] at hrun

/-! ## Events -/

/-- What happens to a registry and to the files that it loads from. -/
inductive Event where
  /-- The files become other ones, in whatever way. -/
  | change (files : FileStore)
  | load (dir : Path)
  | search (dir : Path)

/-- A registry and the files. -/
structure Scene where
  files : FileStore
  registry : Registry

namespace Scene

/-- The scene after an event. -/
def happen (yaml : Reader) (s : Scene) : Event → Scene
  | .change files => { s with files := files }
  | .load dir => { s with registry := (loadConfig yaml s.files dir).leaves s.registry }
  | .search dir => { s with registry := (discover yaml s.files dir).leaves s.registry }

/-- The scene after a run of events. -/
def later (yaml : Reader) (s : Scene) (run : List Event) : Scene := run.foldl (happen yaml) s

theorem later_snoc (yaml : Reader) (s : Scene) (run : List Event) (e : Event) :
    s.later yaml (run ++ [e]) = (s.later yaml run).happen yaml e := by
  rw [later, List.foldl_append]
  rfl

/-- The event loads `config` for the file at `path`. -/
inductive Loads (yaml : Reader) (s : Scene) : Event → String → Value → Prop
  | load {dir : Path} {config : Value} (h : (loadConfig yaml s.files dir).outcome s.registry = .ok config) :
      Loads yaml s (.load dir) (configPath dir).text config
  | search {dir : Path} {names : List String} {path : String} {config : Value}
      (hdir : s.files.holds dir = .ok true) (hnames : s.files.names dir = .ok names)
      (h : SearchLoads yaml s.files dir s.registry names path config) : Loads yaml s (.search dir) path config

/-- Some event of the run has loaded `config` for the file at `path`. -/
def Loaded (yaml : Reader) (s : Scene) (run : List Event) (path : String) (config : Value) : Prop :=
  ∃ before e after, run = before ++ e :: after ∧ (s.later yaml before).Loads yaml e path config

/-- **The step.**  After an event a configuration is kept exactly if it was kept before or the event has
    loaded it. -/
theorem kept?_happen (yaml : Reader) (s : Scene) (e : Event) (path : String) (config : Value) :
    (s.happen yaml e).registry.kept? path = some config ↔
      s.registry.kept? path = some config ∨ s.Loads yaml e path config := by
  cases e with
  | change files =>
    refine ⟨.inl, ?_⟩
    rintro (h | h)
    · exact h
    · nomatch h
  | load dir =>
    show ((loadConfig yaml s.files dir).leaves s.registry).kept? path = some config ↔ _
    rw [kept?_loadConfig]
    refine or_congr_right ⟨?_, ?_⟩
    · rintro ⟨rfl, hload⟩
      exact .load hload
    · rintro ⟨hload⟩
      exact ⟨rfl, hload⟩
  | search dir =>
    show ((discover yaml s.files dir).leaves s.registry).kept? path = some config ↔ _
    have hrun := congrArg Prod.snd (run_discover yaml s.files dir s.registry)
    by_cases hnames : s.files.holds dir = .ok true ∧ ∃ names, s.files.names dir = .ok names
    · obtain ⟨hdir, names, hnames⟩ := hnames
      rw [hdir, hnames] at hrun
      rw [show (discover yaml s.files dir).leaves s.registry =
        (discoverIn yaml s.files dir names).leaves s.registry from hrun, kept?_discoverIn]
      refine or_congr_right ⟨.search hdir hnames, fun hloads => ?_⟩
      cases hloads with
      | search _ hother h =>
        obtain rfl := Except.ok.inj (hnames.symm.trans hother)
        exact h
    · have hleaves : (discover yaml s.files dir).leaves s.registry = s.registry := by
        split at hrun
        · next names hdir hnames' => exact absurd ⟨hdir, names, hnames'⟩ hnames
        · exact hrun
        · exact hrun
        · exact hrun
      rw [hleaves]
      refine ⟨.inl, ?_⟩
      rintro (h | hloads)
      · exact h
      · cases hloads with
        | search hdir hother _ => exact absurd ⟨hdir, _, hother⟩ hnames

/-- What an event is the first to load for a path is what a file of that path says at the moment. -/
theorem Loads.exists_stated {yaml : Reader} {s : Scene} {e : Event} {path : String} {config : Value}
    (h : s.Loads yaml e path config) (hnone : s.registry.kept? path = none) :
    ∃ file : Path, file.text = path ∧ stated yaml s.files file = .ok config := by
  rcases h with ⟨hload⟩ | ⟨-, -, hsearch⟩
  · rw [outcome_loadConfig, hnone] at hload
    exact ⟨_, rfl, hload⟩
  · exact hsearch.exists_stated hnone

theorem not_loaded_nil {yaml : Reader} {s : Scene} {path : String} {config : Value} :
    ¬s.Loaded yaml [] path config := by
  rintro ⟨before, e, after, hrun, -⟩
  exact List.append_ne_nil_of_right_ne_nil before (List.cons_ne_nil e after) hrun.symm

/-- With one more event: either that one has loaded it, or one of those before. -/
theorem loaded_snoc {yaml : Reader} {s : Scene} {run : List Event} {e : Event} {path : String}
    {config : Value} :
    s.Loaded yaml (run ++ [e]) path config ↔
      s.Loaded yaml run path config ∨ (s.later yaml run).Loads yaml e path config := by
  constructor
  · rintro ⟨before, x, after, hrun, hloads⟩
    rcases List.eq_nil_or_concat after with rfl | ⟨mid, z, rfl⟩
    · obtain ⟨rfl, he⟩ := List.append_inj' hrun rfl
      obtain rfl := List.singleton_inj.mp he
      exact .inr hloads
    · have hsplit : run ++ [e] = (before ++ x :: mid) ++ [z] := by rw [hrun]; simp
      obtain ⟨rfl, -⟩ := List.append_inj' hsplit rfl
      exact .inl ⟨before, x, mid, rfl, hloads⟩
  · rintro (⟨before, x, after, rfl, hloads⟩ | hloads)
    · exact ⟨before, x, after ++ [e], by simp, hloads⟩
    · exact ⟨run, e, [], rfl, hloads⟩

/-- **The run.**  What is kept after a run that starts with nothing is what the run has loaded. -/
theorem kept?_later {yaml : Reader} {s : Scene} (hs : s.registry.configs = []) (run : List Event)
    (path : String) (config : Value) :
    (s.later yaml run).registry.kept? path = some config ↔ s.Loaded yaml run path config := by
  induction run using List.reverseRecOn with
  | nil =>
    refine iff_of_false ?_ not_loaded_nil
    rw [later, List.foldl_nil, kept?, hs]
    exact fun h => nomatch h
  | append_singleton run e ih => rw [later_snoc, kept?_happen, ih, loaded_snoc]

theorem kept?_later_eq_none {yaml : Reader} {s : Scene} (hs : s.registry.configs = []) {run : List Event}
    {path : String} (h : ∀ config, ¬s.Loaded yaml run path config) :
    (s.later yaml run).registry.kept? path = none := by
  rw [Option.eq_none_iff_forall_ne_some]
  intro config hkept
  exact h config ((kept?_later hs run path config).mp hkept)

/-- **Configurations are loaded once.**  Let anything happen to a registry that has loaded nothing yet, and
    to its files.  A load of a path that has been loaded, be it by a search that failed further on, gives
    what the first load gave, which is what the file said at that time; a load of any other path gives what
    the file says now.  Nothing but what was loaded is kept, and a load that fails changes nothing. -/
theorem loads_follow_history (yaml : Reader) {s : Scene} (hs : s.registry.configs = [])
    (run : List Event) (dir : Path) :
    let now := s.later yaml run
    let path := (configPath dir).text
    (∀ config, s.Loaded yaml run path config →
      (loadConfig yaml now.files dir).outcome now.registry = .ok config) ∧
    ((∀ config, ¬s.Loaded yaml run path config) →
      (loadConfig yaml now.files dir).outcome now.registry = stated yaml now.files (configPath dir)) ∧
    (∀ e, (loadConfig yaml now.files dir).outcome now.registry = .error e →
      (loadConfig yaml now.files dir).leaves now.registry = now.registry) ∧
    (∀ path config, now.registry.configs.find? path = some config ↔ s.Loaded yaml run path config) ∧
    ∀ before e after path config, run = before ++ e :: after →
      (s.later yaml before).Loads yaml e path config → (∀ config', ¬s.Loaded yaml before path config') →
        ∃ file : Path, file.text = path ∧ stated yaml (s.later yaml before).files file = .ok config := by
  intro now path
  refine ⟨fun config hloaded => ?_, fun hnever => ?_, fun e hfails => ?_, fun path config => ?_, ?_⟩
  · rw [outcome_loadConfig, (kept?_later hs run _ config).mpr hloaded]
  · rw [outcome_loadConfig, kept?_later_eq_none hs hnever]
  · exact leaves_loadConfig_of_error hfails
  · exact kept?_later hs run path config
  · intro before e after path config _ hloads hfirst
    exact hloads.exists_stated (kept?_later_eq_none hs hfirst)

/-- A search loads a good configuration and fails at the next directory; then the good file is broken. -/
theorem loads_follow_history_aborted :
    let store (a : String) : FileStore :=
      { entries := [(["a"], .directory), (["a", "config.yaml"], .file (Text.Utf8.encode a.toList)),
          (["b"], .directory), (["b", "config.yaml"], .file (Text.Utf8.encode ['5']))] }
    let s : Scene := ⟨store "name:\nversion:\nfile_extensions:", {}⟩
    let run : List Event := [.search ⟨"", []⟩, .change (store "[")]
    s.registry.configs = [] ∧ ((discover Yaml.parse? s.files ⟨"", []⟩).outcome s.registry).isOk = false ∧
      ∃ config, s.Loaded Yaml.parse? run "a/config.yaml" config ∧
        (loadConfig Yaml.parse? (s.later Yaml.parse? run).files ⟨"", ["a"]⟩).outcome
          (s.later Yaml.parse? run).registry = .ok config := by
  intro store s run
  have hload : ((loadConfig Yaml.parse? s.files ⟨"", ["a"]⟩).outcome {}).isOk = true := by decide +kernel
  obtain ⟨config, hconfig⟩ :
      ∃ config, (loadConfig Yaml.parse? s.files ⟨"", ["a"]⟩).outcome {} = .ok config := by
    cases h : (loadConfig Yaml.parse? s.files ⟨"", ["a"]⟩).outcome {} with
    | ok config => exact ⟨config, rfl⟩
    | error e =>
      rw [h] at hload
      nomatch hload
  have hnames : s.files.names ⟨"", []⟩ = .ok ["a", "b"] :=
    FileStore.names_of_sorted rfl rfl rfl (by decide)
  have hfails : ((discover Yaml.parse? s.files ⟨"", []⟩).outcome s.registry).isOk = false := by
    rw [outcome_discover rfl hnames]
    decide +kernel
  have hsearch : s.Loads Yaml.parse? (.search ⟨"", []⟩) (configPath ⟨"", ["a"]⟩).text config :=
    .search rfl hnames (.here ⟨rfl, rfl⟩ hconfig)
  have hloaded : s.Loaded Yaml.parse? run (configPath ⟨"", ["a"]⟩).text config := ⟨[], _, _, rfl, hsearch⟩
  have hpath : (configPath ⟨"", ["a"]⟩).text = "a/config.yaml" := by decide +kernel
  exact ⟨rfl, hfails, config, hpath ▸ hloaded,
    (loads_follow_history Yaml.parse? rfl run ⟨"", ["a"]⟩).1 config hloaded⟩

end Scene

end Flowchart.Registry
