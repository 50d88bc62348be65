/-
  What a search for configurations finds, and what stops it.

  A search is meant to pass over every directory whose configuration is no good.  It does so for a file that
  is no text or no YAML, and for a map that lacks a field.  But it looks for the fields in whatever value
  the file holds: a number, a truth value, a date or any other scalar but a text cannot be searched at all,
  and a list or a text in which all the names happen to occur passes for a configuration until its fields
  are asked for.  Each of these ends the whole search, and hides the directories after it.

  Nothing is assumed of the reader of YAML: it gives a value of any kind for a text, or none.

  1. **One directory** — `configuration?` is the configuration of a directory, `obstacle?` the error in which
     its visit ends; both are said by the content of its file alone.  A visit gives the one or ends in the
     other (`outcome_visit`).

  2. **The search** — by induction over the names, a search that starts with nothing loaded ends in the first
     obstacle, and without one gives the configurations of all directories (`outcome_discoverIn`).  What is
     kept on the way never matters, since different directories have different paths (`configPath_inj`).

  3. **Names** — the directories are gone through in the order of their names (`FileStore.sorted_names`).
-/
import Flowchart.Proofs.Configurations

namespace Flowchart.FileStore

/-! ## Looking at files -/

theorem look_of_place {s : FileStore} {p : Path} {place : List String} (h : s.place p = .ok place) :
    s.look p = .ok (s.at? place) := by
  rw [look, h]

/-- What is not there cannot be read. -/
theorem read_of_not_holds {s : FileStore} {p : Path} (h : s.holds p = .ok false) :
    ∃ e, s.read p = .error e := by
  rw [read]
  cases hplace : s.place p with
  | error e => exact ⟨e, rfl⟩
  | ok place =>
    rw [holds, look_of_place hplace] at h
    have hnone : s.at? place = none := by simpa [Except.map] using h
    refine ⟨.fault .notFound p.text, ?_⟩
    simp only [bind, Except.bind, hnone]

theorem isDirectory_iff {s : FileStore} {p : Path} :
    s.isDirectory p = .ok true ↔ ∃ place, s.place p = .ok place ∧ s.at? place = some .directory := by
  constructor
  · intro h
    cases hplace : s.place p with
    | ok place =>
      rw [isDirectory, look_of_place hplace] at h
      exact ⟨place, rfl, by simpa [Except.map] using h⟩
    | error e =>
      rw [isDirectory, look, hplace] at h
      split at h
      · nomatch h
      · nomatch h
      · next hok => nomatch hok
  · rintro ⟨place, hplace, hat⟩
    rw [isDirectory, look_of_place hplace, hat]
    rfl

/-- A directory is there, and can be listed. -/
theorem names_of_isDirectory {s : FileStore} {p : Path} (h : s.isDirectory p = .ok true) :
    s.holds p = .ok true ∧ ∃ place, s.place p = .ok place ∧
      s.names p = .ok ((s.entries.filterMap fun e => nameIn? place e.1).mergeSort (· ≤ ·)) := by
  obtain ⟨place, hplace, hat⟩ := isDirectory_iff.mp h
  refine ⟨?_, place, hplace, names_of_place hplace hat⟩
  rw [holds, look_of_place hplace, hat]
  rfl

/-- The names in a directory come in the order of their characters. -/
theorem sorted_names {s : FileStore} (place : List String) :
    ((s.entries.filterMap fun e => nameIn? place e.1).mergeSort (· ≤ ·)).Pairwise (· ≤ ·) := by
  have htrans (a b c : String) : decide (a ≤ b) = true → decide (b ≤ c) = true → decide (a ≤ c) = true := by
    simpa using String.le_trans
  have htotal (a b : String) : (decide (a ≤ b) || decide (b ≤ a)) = true := by
    simpa using String.le_total a b
  exact (List.pairwise_mergeSort htrans htotal _).imp of_decide_eq_true

end Flowchart.FileStore

namespace Flowchart.Registry

/-! ## One directory -/

/-- The value of the document at a path, if there is a file there that is a text and YAML. -/
def document? (yaml : Reader) (files : FileStore) (path : Path) : Option Value :=
  match files.read path with
  | .error _ => none
  | .ok bytes =>
    match decodePieces bytes with
    | .error _ => none
    | .ok cs => yaml (String.ofList cs)

/-- The fields of a map. -/
def fields? : Value → Option (Assoc Value)
  | .map entries => some entries
  | .mixed entries => some (Value.textEntries entries)
  | _ => none

/-- The value as a configuration: it has to be a map with all the required fields. -/
def asConfiguration? (v : Value) : Option Value :=
  match fields? v with
  | some fields => if requiredFields.all fun name => fields.any (·.1 == name) then some v else none
  | none => none

/-- The configuration of a directory. -/
def configuration? (yaml : Reader) (files : FileStore) (sub : Path) : Option Value :=
  match files.isDirectory sub with
  | .ok true => (document? yaml files (configPath sub)).bind asConfiguration?
  | _ => none

/-- The mistake made with a value that is no map and does not pass for an empty document either: a scalar
    cannot be searched for the fields, and where a list or a text mentions all of them, it still has none. -/
def mistake? (v : Value) : Option Mistake :=
  if v.isFalsy then none
  else match v with
    | .list items =>
      if requiredFields.all fun name => items.any (·.text? == some name) then some .listIndex else none
    | .text s =>
      if requiredFields.all fun name => Value.holdsRun name.toList s.toList then some .textIndex else none
    | .map _ => none
    | .mixed _ => none
    | v => some (.notSearchable v.typeName)

/-- The error in which the visit of a directory ends, if it does: its configuration file cannot be looked for
    or opened, or holds a value that is mistaken for a map. -/
def obstacle? (yaml : Reader) (files : FileStore) (sub : Path) : Option ConfigError :=
  match files.isDirectory sub, files.holds (configPath sub) with
  | .ok true, .ok true =>
    match files.read (configPath sub) with
    | .error e => some (.unreadable e)
    | .ok _ => ((document? yaml files (configPath sub)).bind mistake?).map .misused
  | .ok true, .error e => some (.unreadable e)
  | .error e, _ => some (.unreadable e)
  | _, _ => none

/-- The fields are looked for in turn. -/
theorem requireFields_eq {config : Value} {has : String → Bool}
    (h : ∀ name, config.mentions name = .ok (has name)) (path : String) (names : List String) :
    requireFields config path names = match names.find? fun name => !has name with
      | some name => .error (.missingField name path)
      | none => .ok () := by
  induction names with
  | nil => rfl
  | cons name rest ih =>
    rw [requireFields, h, List.find?_cons]
    cases has name with
    | true => exact ih
    | false => rfl

theorem mentions_of_fields {v : Value} {fields : Assoc Value} (h : fields? v = some fields) (name : String) :
    v.mentions name = .ok (fields.any (·.1 == name)) := by
  cases v with
  | map entries => rw [← Option.some.inj h]; rfl
  | mixed entries => rw [← Option.some.inj h]; rfl
  | _ => nomatch h

/-- A map has the fields that it mentions. -/
theorem lookup_of_any {v : Value} {fields : Assoc Value} (h : fields? v = some fields) {name : String}
    (hany : fields.any (·.1 == name) = true) : ∃ found, v.lookup name = .ok found := by
  have hsome : (fields.lookup name).isSome = true := (Assoc.find?_isSome name fields).trans hany
  obtain ⟨found, hfound⟩ := Option.isSome_iff_exists.mp hsome
  have hfield : Value.field fields name = .ok found := by rw [Value.field, hfound]
  refine ⟨found, ?_⟩
  cases v with
  | map entries => rw [← hfield, ← Option.some.inj h]; rfl
  | mixed entries => rw [← hfield, ← Option.some.inj h]; rfl
  | _ => nomatch h

/-- What a visit makes of the value of a document. -/
def valueVerdict (v : Value) (path : String) : Except ConfigError (Option Value) :=
  verdict (requireFields v path requiredFields >>= fun _ => pure v)

/-- A value is asked for its fields if it mentions all of them, and is passed over else. -/
theorem valueVerdict_of_mentions {v : Value} {has : String → Bool}
    (h : ∀ name, v.mentions name = .ok (has name)) (path : String) :
    valueVerdict v path = if requiredFields.all has then verdict (.ok v) else .ok none := by
  rw [valueVerdict, requireFields_eq h]
  cases hfind : requiredFields.find? fun name => !has name with
  | none =>
    have hall : requiredFields.all has = true := by simpa using hfind
    rw [if_pos hall]
    rfl
  | some name =>
    have hall : ¬requiredFields.all has = true := by
      intro hall
      have hnone : (requiredFields.find? fun name => !has name) = none := by simpa using hall
      rw [hnone] at hfind
      nomatch hfind
    rw [if_neg hall]
    rfl

theorem valueVerdict_of_fields {v : Value} {fields : Assoc Value} (h : fields? v = some fields)
    (path : String) : valueVerdict v path = .ok (asConfiguration? v) := by
  rw [asConfiguration?, h, valueVerdict_of_mentions (mentions_of_fields h)]
  dsimp only
  split
  · next hall =>
    have hfields := List.all_eq_true.mp hall
    obtain ⟨title, htitle⟩ := lookup_of_any h (hfields "name" (by decide))
    obtain ⟨version, hversion⟩ := lookup_of_any h (hfields "version" (by decide))
    rw [verdict, htitle, hversion]
  · rfl

/-- What counts as nothing is no configuration. -/
theorem asConfiguration?_of_isFalsy {v : Value} (h : v.isFalsy = true) : asConfiguration? v = none := by
  cases v with
  | map entries =>
    obtain rfl : entries = [] := by simpa [Value.isFalsy] using h
    rfl
  | mixed entries =>
    obtain rfl : entries = [] := by simpa [Value.isFalsy] using h
    rfl
  | _ => rfl

/-- What a visit makes of the value of a document, an empty one counting as a map without fields. -/
theorem valueVerdict_eq (v : Value) (path : String) :
    valueVerdict (if v.isFalsy then .map [] else v) path = match mistake? v with
      | some m => .error (.misused m)
      | none => .ok (asConfiguration? v) := by
  unfold mistake?
  by_cases hfalsy : v.isFalsy = true
  · rw [if_pos hfalsy, if_pos hfalsy, asConfiguration?_of_isFalsy hfalsy]
    exact valueVerdict_of_fields rfl path
  · rw [if_neg hfalsy, if_neg hfalsy]
    cases v with
    | map entries => exact valueVerdict_of_fields rfl path
    | mixed entries => exact valueVerdict_of_fields rfl path
    | list items =>
      have hmentions (name : String) :
          (Value.list items).mentions name = .ok (items.any (·.text? == some name)) := rfl
      rw [valueVerdict_of_mentions hmentions]
      dsimp only
      split <;> rfl
    | text s =>
      have hmentions (name : String) :
          (Value.text s).mentions name = .ok (Value.holdsRun name.toList s.toList) := rfl
      rw [valueVerdict_of_mentions hmentions]
      dsimp only
      split <;> rfl
    | _ => rfl

/-- A configuration file is read, decoded and parsed. -/
theorem readConfig_of_holds {yaml : Reader} {files : FileStore} {path : Path}
    (hholds : files.holds path = .ok true) :
    readConfig yaml files path = match files.read path with
      | .error e => .error (.unreadable e)
      | .ok bytes =>
        match decodePieces bytes with
        | .error e => .error (.undecodable e)
        | .ok cs =>
          match yaml (String.ofList cs) with
          | none => .error .notYaml
          | some v => .ok (if v.isFalsy then .map [] else v) := by
  rw [readConfig, hholds]
  cases files.read path with
  | error e => rfl
  | ok bytes =>
    simp only [orUnreadable, bind, Except.bind, Bool.not_true, Bool.false_eq_true, if_false]
    cases decodePieces bytes with
    | error e => rfl
    | ok cs => cases yaml (String.ofList cs) <;> rfl

/-- What a visit makes of a file that is there. -/
theorem verdict_stated {yaml : Reader} {files : FileStore} {path : Path}
    (hholds : files.holds path = .ok true) :
    verdict (stated yaml files path) = match files.read path with
      | .error e => .error (.unreadable e)
      | .ok _ =>
        match (document? yaml files path).bind mistake? with
        | some m => .error (.misused m)
        | none => .ok ((document? yaml files path).bind asConfiguration?) := by
  rw [stated, readConfig_of_holds hholds, document?]
  cases files.read path with
  | error e => rfl
  | ok bytes =>
    dsimp only
    cases decodePieces bytes with
    | error e => rfl
    | ok cs =>
      dsimp only
      cases yaml (String.ofList cs) with
      | none => rfl
      | some v => exact valueVerdict_eq v path.text

/-- A visit gives the configuration of its directory or ends in the obstacle there, provided that what is
    kept for its path is what the file says. -/
theorem outcome_visit {yaml : Reader} {files : FileStore} {sub : Path} {r : Registry}
    (h : (loadConfig yaml files sub).outcome r = stated yaml files (configPath sub)) :
    (visit yaml files sub).outcome r = match obstacle? yaml files sub with
      | some e => .error e
      | none => .ok (configuration? yaml files sub) := by
  have hrun := congrArg Prod.fst (run_visit yaml files sub r)
  rw [h] at hrun
  refine hrun.trans ?_
  rw [obstacle?, configuration?]
  rcases files.isDirectory sub with e | _ | _
  · rfl
  · rfl
  · rcases hholds : files.holds (configPath sub) with e | _ | _
    · rfl
    · -- there is no file, and so no document
      obtain ⟨e, hread⟩ := FileStore.read_of_not_holds hholds
      rw [document?, hread]
      rfl
    · dsimp only
      rw [verdict_stated hholds]
      cases files.read (configPath sub) with
      | error e => rfl
      | ok bytes =>
        dsimp only
        cases (document? yaml files (configPath sub)).bind mistake? <;> rfl

/-! ## The search -/

/-- Two directories in the same one have different configuration files. -/
theorem configPath_inj {dir : Path} {name other : String}
    (h : (configPath (dir.child name)).text = (configPath (dir.child other)).text) : name = other := by
  have htext (name : String) : (configPath (dir.child name)).text =
      dir.root ++ "/".intercalate (dir.parts ++ [name, "config.yaml"]) := by
    simp [configPath, Path.child, Path.text]
  rw [htext, htext, String.append_right_inj] at h
  have hpair (name : String) : "/".intercalate [name, "config.yaml"] = name ++ "/config.yaml" := by
    rw [String.intercalate_cons_cons, String.append_assoc]
    rfl
  by_cases hparts : dir.parts = []
  · rw [hparts, List.nil_append, List.nil_append, hpair, hpair] at h
    exact (String.append_left_inj _).mp h
  · rw [String.intercalate_append_of_ne_nil hparts (List.cons_ne_nil _ _),
      String.intercalate_append_of_ne_nil hparts (List.cons_ne_nil _ _), String.append_right_inj,
      hpair, hpair] at h
    exact (String.append_left_inj _).mp h

/-- What is kept for the directories in `dir` is what their files say. -/
def UpToDate (yaml : Reader) (files : FileStore) (dir : Path) (r : Registry) : Prop :=
  ∀ name config, r.kept? (configPath (dir.child name)).text = some config →
    stated yaml files (configPath (dir.child name)) = .ok config

namespace UpToDate

variable {yaml : Reader} {files : FileStore} {dir : Path} {r : Registry}

/-- Where nothing was loaded, nothing is out of date. -/
theorem of_fresh (h : r.configs = []) : UpToDate yaml files dir r := by
  intro name config hkept
  rw [kept?, h] at hkept
  exact absurd hkept (Option.some_ne_none config).symm

theorem outcome_loadConfig (h : UpToDate yaml files dir r) (name : String) :
    (loadConfig yaml files (dir.child name)).outcome r = stated yaml files (configPath (dir.child name)) := by
  rw [Registry.outcome_loadConfig]
  cases hkept : r.kept? (configPath (dir.child name)).text with
  | none => rfl
  | some config => exact (h name config hkept).symm

/-- A visit keeps only what its own file says. -/
theorem visit (h : UpToDate yaml files dir r) (name : String) :
    UpToDate yaml files dir ((Registry.visit yaml files (dir.child name)).leaves r) := by
  intro other config hkept
  rcases (kept?_visit yaml files (dir.child name) r _ config).mp hkept with hbefore | ⟨-, hpath, hload⟩
  · exact h other config hbefore
  · obtain rfl := configPath_inj hpath
    rw [← h.outcome_loadConfig, hload]

end UpToDate

/-- A search ends in the first obstacle, and if there is none it gives the configurations of all the
    directories. -/
theorem outcome_discoverIn {yaml : Reader} {files : FileStore} {dir : Path} {r : Registry}
    (h : UpToDate yaml files dir r) (names : List String) :
    (discoverIn yaml files dir names).outcome r =
      match names.findSome? fun name => obstacle? yaml files (dir.child name) with
      | some e => .error e
      | none => .ok (names.filterMap fun name => configuration? yaml files (dir.child name)) := by
  induction names generalizing r with
  | nil => rfl
  | cons name rest ih =>
    rw [discoverIn, Action.outcome_bind, outcome_visit (h.outcome_loadConfig name), List.findSome?_cons]
    cases obstacle? yaml files (dir.child name) with
    | some e => rfl
    | none =>
      dsimp only
      rw [Action.outcome_bind, ih (h.visit name)]
      cases rest.findSome? fun name => obstacle? yaml files (dir.child name) with
      | some e => rfl
      | none =>
        rw [List.filterMap_cons]
        cases configuration? yaml files (dir.child name) <;> rfl

/-- **What a search finds.**  A registry that has loaded nothing yet searches a directory in the order of the
    names in it.  The search succeeds exactly if nothing in the directory is an obstacle, and then gives
    the configurations of those directories whose file is a map with the required fields; otherwise it ends
    in the first obstacle. -/
theorem discover_succeeds_iff (yaml : Reader) {files : FileStore} {dir : Path} {r : Registry}
    (hr : r.configs = []) (hdir : files.isDirectory dir = .ok true) :
    ∃ place names, files.place dir = .ok place ∧ files.names dir = .ok names ∧
      names.Pairwise (· ≤ ·) ∧ names.Perm (files.entries.filterMap fun e => FileStore.nameIn? place e.1) ∧
      (∀ configs, (discover yaml files dir).outcome r = .ok configs ↔
        (∀ name ∈ names, obstacle? yaml files (dir.child name) = none) ∧
          configs = names.filterMap fun name => configuration? yaml files (dir.child name)) ∧
      ∀ e, (discover yaml files dir).outcome r = .error e ↔
        ∃ before name after, names = before ++ name :: after ∧
          obstacle? yaml files (dir.child name) = some e ∧
          ∀ earlier ∈ before, obstacle? yaml files (dir.child earlier) = none := by
  obtain ⟨hholds, place, hplace, hnames⟩ := FileStore.names_of_isDirectory hdir
  have hfresh : UpToDate yaml files dir r := .of_fresh hr
  refine ⟨place, _, hplace, hnames, FileStore.sorted_names place, List.mergeSort_perm _ _, ?_, ?_⟩
  · intro configs
    rw [outcome_discover hholds hnames, outcome_discoverIn hfresh, ← List.findSome?_eq_none_iff]
    cases List.findSome? (fun name => obstacle? yaml files (dir.child name)) _ with
    | none => simp [eq_comm]
    | some e => simp
  · intro e
    rw [outcome_discover hholds hnames, outcome_discoverIn hfresh, ← List.findSome?_eq_some_iff]
    cases List.findSome? (fun name => obstacle? yaml files (dir.child name)) _ with
    | none => simp
    | some e' => simp

/-- A file that is no YAML is passed over. -/
theorem discover_succeeds_iff_broken :
    let files : FileStore :=
      { entries := [(["a"], .directory), (["a", "config.yaml"], .file (Text.Utf8.encode ['['])),
          (["b"], .directory),
          (["b", "config.yaml"], .file (Text.Utf8.encode "name:\nversion:\nfile_extensions:".toList))] }
    files.isDirectory ⟨"", []⟩ = .ok true ∧
      ∃ config, configuration? Yaml.parse? files ⟨"", ["b"]⟩ = some config ∧
        (discover Yaml.parse? files ⟨"", []⟩).outcome {} = .ok [config] := by
  intro files
  have hdir : files.isDirectory ⟨"", []⟩ = .ok true := rfl
  have hlisted : files.names ⟨"", []⟩ = .ok ["a", "b"] :=
    FileStore.names_of_sorted rfl rfl rfl (by decide)
  have hsome : (configuration? Yaml.parse? files ⟨"", ["b"]⟩).isSome = true := by decide +kernel
  obtain ⟨config, hconfig⟩ := Option.isSome_iff_exists.mp hsome
  have hfound : configuration? Yaml.parse? files ((⟨"", []⟩ : Path).child "b") = some config := hconfig
  obtain ⟨place, names, -, hnames, -, -, hok, -⟩ := discover_succeeds_iff Yaml.parse? (r := {}) rfl hdir
  obtain rfl : ["a", "b"] = names := Except.ok.inj (hlisted.symm.trans hnames)
  have hclear : ∀ name ∈ ["a", "b"],
      (obstacle? Yaml.parse? files ((⟨"", []⟩ : Path).child name)).isNone = true := by decide +kernel
  have hbroken : (configuration? Yaml.parse? files ((⟨"", []⟩ : Path).child "a")).isNone = true := by
    decide +kernel
  refine ⟨hdir, config, hconfig, (hok [config]).mpr ⟨?_, ?_⟩⟩
  · intro name hmem
    exact Option.isNone_iff_eq_none.mp (hclear name hmem)
  · simp only [List.filterMap_cons, List.filterMap_nil, Option.isNone_iff_eq_none.mp hbroken, hfound]

/-- A file that holds a number hides the configuration after it. -/
theorem scalar_hides_configuration :
    let files : FileStore :=
      { entries := [(["a"], .directory), (["a", "config.yaml"], .file (Text.Utf8.encode ['5'])),
          (["b"], .directory),
          (["b", "config.yaml"], .file (Text.Utf8.encode "name:\nversion:\nfile_extensions:".toList))] }
    (configuration? Yaml.parse? files ⟨"", ["b"]⟩).isSome = true ∧
      ((discover Yaml.parse? files ⟨"", []⟩).outcome {}).isOk = false := by
  intro files
  have hlisted : files.names ⟨"", []⟩ = .ok ["a", "b"] :=
    FileStore.names_of_sorted rfl rfl rfl (by decide)
  refine ⟨by decide +kernel, ?_⟩
  rw [outcome_discover rfl hlisted]
  decide +kernel

end Flowchart.Registry
