/-
  Setting up the plugins of an installation.

  The plugins are not built in: a run looks for configurations in the directory of the installation, and makes
  and registers a plugin for each of them that there is one for.  So a bad configuration can keep a run from
  starting at all.

  1. **One configuration** — `fitting` is the plugin for a configuration, if there is one for its name, or the
     mistake that the configuration makes.

  2. **All of them** — by induction over the configurations, registering ends in the first mistake
     (`outcome_registerAll`), and without one the plugins are registered one after the other
     (`leaves_registerAll`).

  3. **The installation** — `installed` is all that a directory comes to: its plugins in the order of their
     directories, or the error in which setting them up ends.  It is said by the files alone, and an empty
     registry is filled just so (`outcome_populate`, `sameTables_populate`).  What the registry keeps of the
     configurations plays no part in finding a plugin (`SameTables`).
-/
import Flowchart.Proofs.Discovery
import Flowchart.Proofs.FailedRegistrations

namespace Flowchart.Registry

variable {yaml : Reader} {make : Value → Plugin.Made} {files : FileStore} {dir : Path} {r r' : Registry}

/-! ## One configuration -/

/-- The plugin that `make` makes for a configuration, if there is one for its name, or the mistake that is made
    in looking for the name, in making the plugin or in registering its extensions. -/
def fitting (make : Value → Plugin.Made) (config : Value) : Except Mistake (Option Plugin) :=
  match config.lookup "name" with
  | .error m => .error m
  | .ok title =>
    match title.asKey with
    | .error m => .error m
    | .ok key =>
      if key.text? == some "lua" then
        match (make config).1 with
        | .error m => .error m
        | .ok p =>
          match p.extensionFault? with
          | some m => .error m
          | none => .ok (some p)
      else .ok none

/-- The plugins for the configurations, in their order, or the first mistake. -/
def fittingAll (make : Value → Plugin.Made) : List Value → Except Mistake (List Plugin)
  | [] => .ok []
  | config :: rest => do
    let found ← fitting make config
    let others ← fittingAll make rest
    return found.toList ++ others

theorem fittingAll_cons_eq_ok_iff {config : Value} {rest : List Value} {plugins : List Plugin} :
    fittingAll make (config :: rest) = .ok plugins ↔
      ∃ found others, fitting make config = .ok found ∧ fittingAll make rest = .ok others ∧
        found.toList ++ others = plugins := by
  rw [fittingAll]
  cases fitting make config with
  | error m => simp [bind, Except.bind]
  | ok found => cases fittingAll make rest <;> simp [bind, Except.bind, pure, Except.pure]

/-- The registry with one plugin more, which owns all its extensions. -/
def enrolled (r : Registry) (p : Plugin) : Registry := r.registered p p.soundExtensions

theorem outcome_misusing {α : Type} (work : Action Registry Mistake α) (r : Registry) :
    (misusing work).outcome r = (work.outcome r).mapError .misused := by
  rw [misusing, Action.outcome_bind, Action.outcome_attempt]
  cases work.outcome r <;> rfl

theorem leaves_misusing {α : Type} (work : Action Registry Mistake α) (r : Registry) :
    (misusing work).leaves r = work.leaves r := by
  rw [misusing, Action.leaves_bind, Action.outcome_attempt, Action.leaves_attempt]
  cases work.outcome r <;> rfl

theorem outcome_taken (made : Plugin.Made) (r : Registry) :
    (taken made).outcome r = made.1.mapError .misused := by
  rw [taken, Action.outcome_bind]
  exact outcome_misusing _ r

theorem leaves_taken (made : Plugin.Made) (r : Registry) : (taken made).leaves r = r := by
  rw [taken, Action.leaves_bind]
  exact leaves_misusing _ r

/-- **The step.**  A configuration that is mistaken ends the work, and any other has its plugin registered
    before the work goes on. -/
theorem run_registerAll_cons (make : Value → Plugin.Made) (config : Value) (rest : List Value) (r : Registry) :
    match fitting make config with
    | .error m => (registerAll make (config :: rest)).outcome r = .error (.misused m)
    | .ok found =>
      (registerAll make (config :: rest)).outcome r =
        (registerAll make rest).outcome (found.toList.foldl enrolled r) ∧
      (registerAll make (config :: rest)).leaves r =
        (registerAll make rest).leaves (found.toList.foldl enrolled r) := by
  rw [registerAll, fitting, configField]
  simp only [Action.outcome_bind, Action.leaves_bind, Action.outcome_ofExcept, Action.leaves_ofExcept,
    outcome_misusing, leaves_misusing]
  cases config.lookup "name" with
  | error m => rfl
  | ok title =>
    dsimp only
    cases title.asKey with
    | error m => rfl
    | ok key =>
      dsimp only [Except.mapError]
      by_cases hlua : (key.text? == some "lua") = true
      · simp only [hlua, if_true, Action.outcome_bind, Action.leaves_bind, outcome_taken, leaves_taken,
          outcome_misusing, leaves_misusing, outcome_register, leaves_register]
        cases (make config).1 with
        | error m => rfl
        | ok p =>
          dsimp only [Except.mapError]
          cases p.extensionFault? with
          | some m => rfl
          | none => exact ⟨rfl, rfl⟩
      · simp only [hlua]
        exact ⟨rfl, rfl⟩

/-! ## All configurations -/

/-- Registering ends in the first mistake. -/
theorem outcome_registerAll (make : Value → Plugin.Made) (configs : List Value) (r : Registry) :
    (registerAll make configs).outcome r = ((fittingAll make configs).map fun _ => ()).mapError .misused := by
  induction configs generalizing r with
  | nil => rfl
  | cons config rest ih =>
    have hstep := run_registerAll_cons make config rest r
    rw [fittingAll]
    cases hfit : fitting make config with
    | error m =>
      rw [hfit] at hstep
      exact hstep
    | ok found =>
      rw [hfit] at hstep
      rw [hstep.1, ih]
      cases fittingAll make rest <;> rfl

/-- If no configuration is mistaken, the plugins are registered one after the other. -/
theorem leaves_registerAll {configs : List Value} {plugins : List Plugin}
    (h : fittingAll make configs = .ok plugins) (r : Registry) :
    (registerAll make configs).leaves r = plugins.foldl enrolled r := by
  induction configs generalizing r plugins with
  | nil =>
    obtain rfl := Except.ok.inj h
    rfl
  | cons config rest ih =>
    obtain ⟨found, others, hfit, hrest, rfl⟩ := fittingAll_cons_eq_ok_iff.mp h
    have hstep := run_registerAll_cons make config rest r
    rw [hfit] at hstep
    rw [hstep.2, ih hrest, List.foldl_append]

/-! ## The installation -/

/-- The configurations in a directory, in the order of the names in it, or the error in which a search for
    them ends.  Without the directory there are none. -/
def configurations (yaml : Reader) (files : FileStore) (dir : Path) : Except ConfigError (List Value) :=
  match files.holds dir, files.names dir with
  | .ok true, .ok names =>
    match names.findSome? fun name => obstacle? yaml files (dir.child name) with
    | some e => .error e
    | none => .ok (names.filterMap fun name => configuration? yaml files (dir.child name))
  | .ok true, .error e => .error (.unreadable e)
  | .ok false, _ => .ok []
  | .error e, _ => .error (.unreadable e)

/-- The plugins for the configurations in a directory, or the error in which setting them up ends. -/
def installed (yaml : Reader) (make : Value → Plugin.Made) (files : FileStore) (dir : Path) :
    Except ConfigError (List Plugin) :=
  match configurations yaml files dir with
  | .error e => .error e
  | .ok configs => (fittingAll make configs).mapError .misused

theorem installed_eq_ok_iff {plugins : List Plugin} : installed yaml make files dir = .ok plugins ↔
    ∃ configs, configurations yaml files dir = .ok configs ∧ fittingAll make configs = .ok plugins := by
  rw [installed]
  cases configurations yaml files dir with
  | error e => simp
  | ok configs =>
    simp only [Except.ok.injEq, exists_eq_left']
    cases fittingAll make configs <;> simp [Except.mapError]

/-- The registry of some plugins, registered one after the other. -/
def ofPlugins (plugins : List Plugin) : Registry := plugins.foldl enrolled {}

/-- The two registries have the same plugins and extensions, whatever they keep of configurations. -/
structure SameTables (r r' : Registry) : Prop where
  plugins : r'.plugins = r.plugins
  extensions : r'.extensions = r.extensions

namespace SameTables

theorem refl (r : Registry) : SameTables r r := ⟨rfl, rfl⟩

theorem trans {r'' : Registry} (h : SameTables r r') (h' : SameTables r' r'') : SameTables r r'' :=
  ⟨h'.plugins.trans h.plugins, h'.extensions.trans h.extensions⟩

theorem enrolled (h : SameTables r r') (p : Plugin) : SameTables (r.enrolled p) (r'.enrolled p) where
  plugins := congrArg (·.set p.language p) h.plugins
  extensions := congrArg (claimed p.language p.soundExtensions) h.extensions

theorem foldl_enrolled (h : SameTables r r') (plugins : List Plugin) :
    SameTables (plugins.foldl Registry.enrolled r) (plugins.foldl Registry.enrolled r') := by
  induction plugins generalizing r r' with
  | nil => exact h
  | cons p rest ih => exact ih (h.enrolled p)

theorem plugin? (h : SameTables r r') (language : String) : r'.plugin? language = r.plugin? language := by
  rw [Registry.plugin?, Registry.plugin?, h.plugins]

theorem pluginFor (h : SameTables r r') (path : String) : (r'.pluginFor path).1 = (r.pluginFor path).1 := by
  rw [pluginFor_eq, pluginFor_eq, h.extensions]
  simp only [h.plugin?]

end SameTables

theorem sameTables_loadConfig (yaml : Reader) (files : FileStore) (dir : Path) (r : Registry) :
    SameTables r ((loadConfig yaml files dir).leaves r) := by
  have hrun := congrArg Prod.snd (run_loadConfig yaml files dir r)
  rw [show (loadConfig yaml files dir).leaves r = _ from hrun]
  split <;> exact ⟨rfl, rfl⟩

theorem sameTables_visit (yaml : Reader) (files : FileStore) (sub : Path) (r : Registry) :
    SameTables r ((visit yaml files sub).leaves r) := by
  have hrun := congrArg Prod.snd (run_visit yaml files sub r)
  rw [show (visit yaml files sub).leaves r = _ from hrun]
  split
  · exact sameTables_loadConfig yaml files sub r
  all_goals exact .refl r

/-- A search registers nothing. -/
theorem sameTables_discoverIn (yaml : Reader) (files : FileStore) (dir : Path) (names : List String)
    (r : Registry) : SameTables r ((discoverIn yaml files dir names).leaves r) := by
  induction names generalizing r with
  | nil => exact .refl r
  | cons name rest ih =>
    have hvisit := sameTables_visit yaml files (dir.child name) r
    rw [discoverIn, Action.leaves_bind]
    cases (visit yaml files (dir.child name)).outcome r with
    | error e => exact hvisit
    | ok found =>
      have hrest := hvisit.trans (ih _)
      dsimp only
      rw [Action.leaves_bind]
      cases (discoverIn yaml files dir rest).outcome ((visit yaml files (dir.child name)).leaves r) <;>
        exact hrest

theorem sameTables_discover (yaml : Reader) (files : FileStore) (dir : Path) (r : Registry) :
    SameTables r ((discover yaml files dir).leaves r) := by
  have hrun := congrArg Prod.snd (run_discover yaml files dir r)
  rw [show (discover yaml files dir).leaves r = _ from hrun]
  split
  · exact sameTables_discoverIn yaml files dir _ r
  all_goals exact .refl r

theorem outcome_discover_of_fresh (hr : r.configs = []) :
    (discover yaml files dir).outcome r = configurations yaml files dir := by
  have hfresh : UpToDate yaml files dir r := .of_fresh hr
  have hrun := congrArg Prod.fst (run_discover yaml files dir r)
  rw [show (discover yaml files dir).outcome r = _ from hrun, configurations]
  rcases files.holds dir with e | _ | _
  · rfl
  · rfl
  · cases files.names dir with
    | error e => rfl
    | ok names => exact outcome_discoverIn hfresh names

/-- **Setting up** ends as the files say. -/
theorem outcome_populate (yaml : Reader) (make : Value → Plugin.Made) (files : FileStore) (dir : Path) :
    (populate yaml make files dir).outcome {} = (installed yaml make files dir).map fun _ => () := by
  rw [populate, Action.outcome_bind, outcome_discover_of_fresh rfl, installed]
  cases configurations yaml files dir with
  | error e => rfl
  | ok configs =>
    dsimp only
    rw [outcome_registerAll]
    cases fittingAll make configs <;> rfl

/-- If it ends well, just these plugins are registered. -/
theorem sameTables_populate {plugins : List Plugin} (h : installed yaml make files dir = .ok plugins) :
    SameTables (ofPlugins plugins) ((populate yaml make files dir).leaves {}) := by
  obtain ⟨configs, hconfigs, hfit⟩ := installed_eq_ok_iff.mp h
  rw [populate, Action.leaves_bind, outcome_discover_of_fresh rfl, hconfigs]
  dsimp only
  rw [leaves_registerAll hfit]
  exact (sameTables_discover yaml files dir {}).foldl_enrolled plugins

/-! ## The plugins -/

/-- A plugin for a configuration was made from it. -/
theorem made_of_fitting {config : Value} {p : Plugin} (h : fitting make config = .ok (some p)) :
    (make config).1 = .ok p := by
  rw [fitting] at h
  repeat' split at h
  all_goals simp_all

theorem exists_made_of_fittingAll {configs : List Value} {plugins : List Plugin}
    (h : fittingAll make configs = .ok plugins) {p : Plugin} (hp : p ∈ plugins) :
    ∃ config, (make config).1 = .ok p := by
  induction configs generalizing plugins with
  | nil =>
    obtain rfl := Except.ok.inj h
    nomatch hp
  | cons config rest ih =>
    obtain ⟨found, others, hfit, hrest, rfl⟩ := fittingAll_cons_eq_ok_iff.mp h
    rcases List.mem_append.mp hp with hfound | hother
    · obtain rfl := Option.mem_toList.mp hfound
      exact ⟨config, made_of_fitting hfit⟩
    · exact ih hrest hother

/-- Every plugin of an installation was made from a configuration. -/
theorem exists_made_of_installed {plugins : List Plugin} (h : installed yaml make files dir = .ok plugins)
    {p : Plugin} (hp : p ∈ plugins) : ∃ config, (make config).1 = .ok p := by
  obtain ⟨configs, -, hfit⟩ := installed_eq_ok_iff.mp h
  exact exists_made_of_fittingAll hfit hp

theorem mem_of_plugin?_enrolled {plugins : List Plugin} {language : String} {p : Plugin}
    (h : (plugins.foldl enrolled r).plugin? language = some p) :
    p ∈ plugins ∨ r.plugin? language = some p := by
  induction plugins generalizing r with
  | nil => exact .inr h
  | cons q rest ih =>
    rcases ih h with hrest | hbefore
    · exact .inl (List.mem_cons_of_mem q hrest)
    · rw [enrolled, plugin?_registered] at hbefore
      split at hbefore
      · exact .inl (Option.some.inj hbefore ▸ List.mem_cons_self)
      · exact .inr hbefore

/-- Only plugins that were registered are found. -/
theorem mem_of_plugin?_ofPlugins {plugins : List Plugin} {language : String} {p : Plugin}
    (h : (ofPlugins plugins).plugin? language = some p) : p ∈ plugins :=
  (mem_of_plugin?_enrolled h).resolve_right nofun

theorem mem_of_pluginFor_ofPlugins {plugins : List Plugin} {path : String} {p : Plugin}
    (h : ((ofPlugins plugins).pluginFor path).1 = some p) : p ∈ plugins := by
  rw [pluginFor_eq, Option.bind_eq_some_iff] at h
  obtain ⟨language, -, hlanguage⟩ := h
  split at hlanguage
  · nomatch hlanguage
  · exact mem_of_plugin?_ofPlugins hlanguage

end Flowchart.Registry
