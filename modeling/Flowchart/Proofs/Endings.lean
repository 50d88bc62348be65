/-
  How a run of the command ends.

  Once the arguments and the settings are read, a run can end in four ways: there is nothing to draw, the
  plugins cannot be set up, the flowchart is on disk, or the work has failed and the user is told why.  Nothing
  else can happen, whatever the files are, as long as no path holds the null character and the plugins fail in
  no other way than the work may.  What reads the settings, the configurations and the sources is left open.

  1. **The work** — `Charts` says what comes of a source: the text of its flowchart, or a failure at one of
     the stages.  Something always does (`exists_charts`), and the service does just that
     (`Charts.outcome`), so there is only one such result (`Charts.unique`).

  2. **Writing** — what is drawn is written, and the fenced copy after it.  `Stops` lists where the work
     ends early, and what has become of the files then; `Saved` says what is on disk if it does not.

  3. **The ways** — `Idle`, `Aborted`, `Drawn` and `Failed` say what a run leaves in each case.  A run that has
     an input leaves what one of the last three says (`exists_way_draw`), and no two of them agree
     (`Way.Holds.unique`).

  4. **The settings** — what is drawn and whether it is copied follows from how the arguments are spelled
     (`adjusted_eq_asked`).
-/
import Flowchart.CommandLine.Run
import Flowchart.Proofs.Installation
import Flowchart.Proofs.Options
import Flowchart.Proofs.Writing

namespace Flowchart

/-! ## Paths without the null character -/

/-- Splitting makes up no characters. -/
theorem Text.mem_of_mem_splitAt {sep c : Char} {cs piece : List Char} (hpiece : piece ∈ Text.splitAt sep cs)
    (hc : c ∈ piece) : c ∈ cs := by
  induction cs generalizing piece with
  | nil =>
    obtain rfl := List.mem_singleton.mp hpiece
    exact hc
  | cons first rest ih =>
    rw [Text.splitAt] at hpiece
    split at hpiece
    · rcases List.mem_cons.mp hpiece with rfl | hpiece
      · nomatch hc
      · exact List.mem_cons_of_mem first (ih hpiece hc)
    · split at hpiece
      · obtain rfl := List.mem_singleton.mp hpiece
        exact List.mem_cons.mpr (.inl (List.mem_singleton.mp hc))
      · next head pieces hsplit =>
        rw [hsplit] at ih
        rcases List.mem_cons.mp hpiece with rfl | hpiece
        · rcases List.mem_cons.mp hc with rfl | hc
          · exact List.mem_cons_self
          · exact List.mem_cons_of_mem first (ih List.mem_cons_self hc)
        · exact List.mem_cons_of_mem first (ih (List.mem_cons_of_mem head hpiece) hc)

namespace Path

theorem hasNull_eq_false_iff {p : Path} : p.hasNull = false ↔ ∀ part ∈ p.parts, '\x00' ∉ part.toList := by
  simp [hasNull]

theorem hasNull_ofString {s : String} (h : '\x00' ∉ s.toList) : (ofString s).hasNull = false := by
  rw [hasNull_eq_false_iff]
  intro part hpart hnull
  obtain ⟨piece, hpiece, rfl⟩ := List.mem_map.mp (List.mem_of_mem_filter hpart)
  rw [String.toList_ofList] at hnull
  exact h (Text.mem_of_mem_splitAt hpiece hnull)

theorem hasNull_companion {p : Path} (h : p.hasNull = false) : (Service.companion p).hasNull = false := by
  rw [hasNull_eq_false_iff] at h ⊢
  intro part hpart
  rcases List.mem_append.mp hpart with hdir | hname
  · exact h part (List.mem_of_mem_dropLast hdir)
  · obtain rfl := List.mem_singleton.mp hname
    have hlast : '\x00' ∉ p.name.toList := by
      rw [name]
      cases hparts : p.parts.getLast? with
      | none => exact List.not_mem_nil
      | some last => exact h last (List.mem_of_getLast? hparts)
    have hsuffix : '\x00' ∉ ".md".toList := by decide
    rw [String.toList_append, List.mem_append]
    exact fun hnull => hnull.elim hlast hsuffix

/-- The companion of a file has its path and a suffix. -/
theorem text_companion {p : Path} (h : p.parts ≠ []) : (Service.companion p).text = p.text ++ ".md" := by
  rcases List.eq_nil_or_concat' p.parts with hnil | ⟨init, last, hparts⟩
  · exact absurd hnil h
  · have hname : p.name = last := by simp [name, hparts]
    rw [Service.companion, withName, hname, text, text, hparts, List.dropLast_concat]
    by_cases hinit : init = []
    · simp [hinit, String.append_assoc]
    · simp [String.intercalate_append_of_ne_nil, hinit, String.append_assoc]

end Path

namespace FileStore

/-- Only the path itself can hold what no path can hold. -/
theorem hasNull_of_read {s : FileStore} {p : Path} (h : s.read p = .error .nullByte) : p.hasNull = true := by
  rw [← place_eq_nullByte_iff (s := s)]
  cases hplace : s.place p with
  | error e =>
    rw [read, hplace] at h
    exact congrArg _ (Except.error.inj h)
  | ok place =>
    rw [read_of_place hplace] at h
    split at h <;> simp at h

end FileStore

/-- The plugin fails only as the work may fail. -/
def Plugin.RaisesOnlyFailures (p : Plugin) : Prop :=
  ∀ path content stop, (p.parse path content).1 = .error stop → ∃ f, stop = .failed f

namespace Service

/-! ## Stages of the work -/

/-- A source is read and decoded, or cannot be. -/
theorem outcome_readSource (path : Path) (w : Workspace) :
    (readSource path).outcome w = match w.files.read path with
      | .error .nullByte => .error .nullByte
      | .error e => .error (.failed (.unreadable path.text (.file e)))
      | .ok bytes =>
        match Text.Utf8.decode bytes with
        | .error e => .error (.failed (.unreadable path.text (.undecodable e)))
        | .ok cs => .ok (String.ofList (Text.plainLineEnds cs)) := by
  rw [readSource, Action.outcome_bind]
  dsimp only [Action.outcome_state, Action.leaves_state]
  rcases w.files.read path with (_ | _ | _) | bytes
  · rfl
  · rfl
  · rfl
  · dsimp only
    cases Text.Utf8.decode bytes <;> rfl

theorem outcome_readSource_of_error {files : FileStore} {path : Path} {e : FileError}
    (h : files.read path = .error e) (hpath : path.hasNull = false) (fields : Log.Fields) :
    (readSource path).outcome ⟨files, fields⟩ = .error (.failed (.unreadable path.text (.file e))) := by
  rw [outcome_readSource, h]
  cases e with
  | fault f target => rfl
  | brokeOff f => rfl
  | nullByte => exact absurd (FileStore.hasNull_of_read h) (Bool.eq_false_iff.mp hpath)

/-- The plugin is found by the extension of the source, or else by the default language. -/
theorem outcome_selectPlugin (s : Service) (path : String) (w : Workspace) :
    (s.selectPlugin path).outcome w =
      match (s.registry.pluginFor path).1.or (s.registry.plugin? s.settings.defaultLanguage) with
      | some p => .ok p
      | none => .error (.failed (.noPlugin path)) := by
  rw [selectPlugin]
  obtain ⟨found, records⟩ := s.registry.pluginFor path
  dsimp only
  rw [Action.outcome_bind]
  cases found with
  | some p => rfl
  | none => cases s.registry.plugin? s.settings.defaultLanguage <;> rfl

/-- A source is read, its plugin chosen, and then parsed. -/
theorem outcome_loadAst (s : Service) (source : String) (w : Workspace) :
    (s.loadAst source).outcome w = match (readSource (.ofString source)).outcome w with
      | .error e => .error e
      | .ok content =>
        match (s.selectPlugin (Path.ofString source).text).outcome w with
        | .error e => .error e
        | .ok plugin => (plugin.parse (Path.ofString source).text content).1 := by
  rw [loadAst, Action.outcome_bind, Keeps.readSource]
  cases (readSource (.ofString source)).outcome w with
  | error e => rfl
  | ok content =>
    dsimp only
    rw [Action.outcome_bind, Keeps.selectPlugin]
    cases (s.selectPlugin (Path.ofString source).text).outcome w with
    | error e => rfl
    | ok plugin =>
      obtain ⟨language, extensions, serial, parse⟩ := plugin
      dsimp only
      cases (parse (Path.ofString source).text content).1 <;> rfl

end Service

namespace CommandLine

/-! ## The work -/

/-- What a command is to do: draw the flowchart of `input` to `output`, by settings that have the last word. -/
structure Job where
  files : FileStore
  /-- The plugins that are installed, or the error in which setting them up ends. -/
  plugins : Except Registry.ConfigError (List Plugin)
  settings : Settings
  input : String
  output : String

namespace Job

/-- The path of the source. -/
abbrev source (o : Job) : Path := .ofString o.input

/-- The path to write to. -/
abbrev target (o : Job) : Path := .ofString o.output

/-- The path of the fenced copy. -/
abbrev copy (o : Job) : Path := Service.companion o.target

/-- The text of the source: it can be read and decoded, and its lines end plainly. -/
def Content (o : Job) (content : String) : Prop :=
  ∃ bytes cs, o.files.read o.source = .ok bytes ∧ Text.Utf8.decode bytes = .ok cs ∧
    content = .ofList (Text.plainLineEnds cs)

/-- The plugins, registered one after the other. -/
def registry (o : Job) : Registry :=
  match o.plugins with
  | .ok plugins => .ofPlugins plugins
  | .error _ => {}

/-- The plugin for the source: the one for its extension, or else that of the default language. -/
def plugin? (o : Job) : Option Plugin :=
  (o.registry.pluginFor o.source.text).1.or (o.registry.plugin? o.settings.defaultLanguage)

/-- How it is laid out: with nodes for `elseif` if the settings ask for them. -/
def options (o : Job) : Builder.Options := ⟨o.settings.nodeIdStem, o.settings.labelElseifConditions⟩

/-- How it is written down. -/
def markup (o : Job) : Markup := ⟨o.settings.graphDirection, o.settings.renderBranchLabels⟩

/-- What the file of a text holds. -/
def bytes (_ : Job) (text : String) : List UInt8 := Text.Utf8.encode text.toList

/-- What its fenced copy holds: the text between the lines of a fence. -/
def fencedBytes (o : Job) (text : String) : List UInt8 :=
  Text.Utf8.encode ("```" ++ o.settings.markdownFenceLanguage ++ "\n" ++ text ++ "\n```").toList

end Job

/-- What comes of a source: the text of its flowchart, or a failure at one of the stages. -/
inductive Charts (o : Job) : Except Failure String → Prop
  | unreadable {e : FileError} (hpath : o.source.hasNull = false) (hread : o.files.read o.source = .error e) :
      Charts o (.error (.unreadable o.source.text (.file e)))
  | undecodable {bytes : List UInt8} {e : Text.Utf8.DecodeError} (hread : o.files.read o.source = .ok bytes)
      (hdecode : Text.Utf8.decode bytes = .error e) :
      Charts o (.error (.unreadable o.source.text (.undecodable e)))
  | unknown {content : String} (hcontent : o.Content content) (hplugin : o.plugin? = none) :
      Charts o (.error (.noPlugin o.source.text))
  | unparsed {content : String} {plugin : Plugin} {f : Failure} (hcontent : o.Content content)
      (hplugin : o.plugin? = some plugin)
      (hparse : (plugin.parse o.source.text content).1 = .error (.failed f)) : Charts o (.error f)
  | incomplete {content : String} {plugin : Plugin} {statements : List Ast.Node} {defect : Ast.Defect}
      (hcontent : o.Content content) (hplugin : o.plugin? = some plugin)
      (hparse : (plugin.parse o.source.text content).1 = .ok statements)
      (hbuild : Builder.build o.options (.chunk statements) = .error defect) :
      Charts o (.error (.malformed defect))
  | drawn {content : String} {plugin : Plugin} {statements : List Ast.Node} {chart : Diagram}
      (hcontent : o.Content content) (hplugin : o.plugin? = some plugin)
      (hparse : (plugin.parse o.source.text content).1 = .ok statements)
      (hbuild : Builder.build o.options (.chunk statements) = .ok chart) :
      Charts o (.ok (o.markup.render chart))

variable {o : Job} {r : Registry}

/-- Something comes of every source that a path can name, if its plugin fails only as the work may. -/
theorem exists_charts (hpath : o.source.hasNull = false)
    (hfails : ∀ plugin, o.plugin? = some plugin → plugin.RaisesOnlyFailures) : ∃ result, Charts o result := by
  cases hread : o.files.read o.source with
  | error e => exact ⟨_, .unreadable hpath hread⟩
  | ok bytes =>
    cases hdecode : Text.Utf8.decode bytes with
    | error e => exact ⟨_, .undecodable hread hdecode⟩
    | ok cs =>
      have hcontent : o.Content (.ofList (Text.plainLineEnds cs)) := ⟨bytes, cs, hread, hdecode, rfl⟩
      cases hplugin : o.plugin? with
      | none => exact ⟨_, .unknown hcontent hplugin⟩
      | some plugin =>
        cases hparse : (plugin.parse o.source.text (.ofList (Text.plainLineEnds cs))).1 with
        | error stop =>
          obtain ⟨f, rfl⟩ := hfails plugin hplugin _ _ _ hparse
          exact ⟨_, .unparsed hcontent hplugin hparse⟩
        | ok statements =>
          cases hbuild : Builder.build o.options (.chunk statements) with
          | error defect => exact ⟨_, .incomplete hcontent hplugin hparse hbuild⟩
          | ok chart => exact ⟨_, .drawn hcontent hplugin hparse hbuild⟩

/-- A flowchart that is computed at once, with what it is computed from. -/
theorem Charts.of_render {content text : String} {plugin : Plugin} {statements : List Ast.Node}
    (hcontent : o.Content content) (hplugin : o.plugin? = some plugin)
    (hparse : (plugin.parse o.source.text content).1 = .ok statements)
    (h : (Builder.build o.options (.chunk statements)).map o.markup.render = .ok text) :
    Charts o (.ok text) := by
  cases hbuild : Builder.build o.options (.chunk statements) with
  | error defect =>
    rw [hbuild] at h
    nomatch h
  | ok chart =>
    rw [hbuild] at h
    obtain rfl := Except.ok.inj h
    exact .drawn hcontent hplugin hparse hbuild

/-- The service that does the work, with a registry. -/
def Job.service (o : Job) (r : Registry) (runId : String) : Service := ⟨r, o.settings, runId⟩

/-- A source with a text is parsed by its plugin, if there is one. -/
theorem outcome_loadAst_of_content {content : String} (h : o.Content content)
    (hr : Registry.SameTables o.registry r) (runId : String) (fields : Log.Fields) :
    ((o.service r runId).loadAst o.input).outcome ⟨o.files, fields⟩ =
      match o.plugin? with
      | none => .error (.failed (.noPlugin o.source.text))
      | some plugin => (plugin.parse o.source.text content).1 := by
  obtain ⟨bytes, cs, hread, hdecode, rfl⟩ := h
  have hcontent : (Service.readSource o.source).outcome ⟨o.files, fields⟩ =
      .ok (.ofList (Text.plainLineEnds cs)) := by
    rw [Service.outcome_readSource]
    simp only [hread, hdecode]
  have hplugin : ((o.service r runId).selectPlugin o.source.text).outcome ⟨o.files, fields⟩ =
      match o.plugin? with
      | some p => .ok p
      | none => .error (.failed (.noPlugin o.source.text)) := by
    rw [Service.outcome_selectPlugin, Job.plugin?, ← hr.pluginFor, ← hr.plugin?]
    rfl
  rw [Service.outcome_loadAst, hcontent]
  dsimp only
  rw [hplugin]
  cases o.plugin? <;> rfl

/-- The service does the work as it is to be done. -/
theorem Charts.outcome {result : Except Failure String} (h : Charts o result)
    (hr : Registry.SameTables o.registry r) (runId : String) (fields : Log.Fields) :
    (((o.service r runId).buildDiagram o.input).outcome ⟨o.files, fields⟩).map o.markup.render =
      result.mapError .failed := by
  have hoptions : Service.layoutOptions (o.service r runId).settings = o.options := rfl
  rw [Service.outcome_buildDiagram, hoptions]
  cases h with
  | unreadable hpath hread =>
    rw [Service.outcome_loadAst, Service.outcome_readSource_of_error hread hpath]
    rfl
  | undecodable hread hdecode =>
    rw [Service.outcome_loadAst, Service.outcome_readSource]
    simp only [hread, hdecode]
    rfl
  | unknown hcontent hplugin =>
    rw [outcome_loadAst_of_content hcontent hr, hplugin]
    rfl
  | unparsed hcontent hplugin hparse =>
    rw [outcome_loadAst_of_content hcontent hr, hplugin]
    dsimp only
    rw [hparse]
    rfl
  | incomplete hcontent hplugin hparse hbuild =>
    rw [outcome_loadAst_of_content hcontent hr, hplugin]
    dsimp only
    rw [hparse]
    dsimp only
    rw [← Builder.build, hbuild]
    rfl
  | drawn hcontent hplugin hparse hbuild =>
    rw [outcome_loadAst_of_content hcontent hr, hplugin]
    dsimp only
    rw [hparse]
    dsimp only
    rw [← Builder.build, hbuild]
    rfl

/-- So only one thing comes of a source. -/
theorem Charts.unique {result other : Except Failure String} (h : Charts o result) (h' : Charts o other) :
    result = other := by
  have hsame : result.mapError Stop.failed = other.mapError Stop.failed :=
    (h.outcome (.refl _) "" []).symm.trans (h'.outcome (.refl _) "" [])
  rcases result with f | text <;> rcases other with f' | text'
  · exact congrArg _ (Stop.failed.inj (Except.error.inj hsame))
  · nomatch hsame
  · nomatch hsame
  · exact congrArg _ (Except.ok.inj hsame)

/-! ## Writing -/

/-- The flowchart is on disk, with its fenced copy beside it if that is wanted, and nothing else has changed. -/
structure Saved (o : Job) (text : String) (files : FileStore) : Prop where
  output : o.settings.writeMarkdown = false ∨ o.files.Apart o.target o.copy →
    files.read o.target = .ok (o.bytes text)
  copied : o.settings.writeMarkdown = true → files.read o.copy = .ok (o.fencedBytes text)
  uncopied : o.settings.writeMarkdown = false → FileStore.SameElsewhere o.files files [o.target]
  elsewhere : FileStore.SameElsewhere o.files files [o.target, o.copy]
  /-- Only a link can make the output and its copy one file. -/
  apart : o.files.Linkless → o.files.Apart o.target o.copy

/-- Where the work ends early, and the files that are there then. -/
inductive Stops (o : Job) : Failure → FileStore → Prop
  | uncharted {f : Failure} (hcharts : Charts o (.error f)) : Stops o f o.files
  | unwritten {text : String} {e : FileError} {files : FileStore} (hcharts : Charts o (.ok text))
      (hwrite : (o.files.write o.target (o.bytes text)).1 = .error e)
      (hleft : FileStore.FailedWrite o.files files o.target (o.bytes text) e) :
      Stops o (.unwritable o.target.text e) files
  | uncopied {text : String} {e : FileError} {first files : FileStore} (hcharts : Charts o (.ok text))
      (hwanted : o.settings.writeMarkdown = true)
      (hwrite : o.files.write o.target (o.bytes text) = (.ok (), first))
      (hcopy : (first.write o.copy (o.fencedBytes text)).1 = .error e)
      (hleft : FileStore.FailedWrite first files o.copy (o.fencedBytes text) e)
      (houtput : o.files.Apart o.target o.copy → files.read o.target = .ok (o.bytes text)) :
      Stops o (.unwritable o.copy.text e) files

/-- The files are as they were, unless the write of the output broke off or the copy could not be written. -/
theorem Stops.files {f : Failure} {files : FileStore} (h : Stops o f files) :
    files = o.files ∨
      (∃ fault, f = .unwritable o.target.text (.brokeOff fault) ∧
        FileStore.SameElsewhere o.files files [o.target]) ∨
      ∃ cause, f = .unwritable o.copy.text cause ∧
        FileStore.SameElsewhere o.files files [o.target, o.copy] := by
  cases h with
  | uncharted => exact .inl rfl
  | @unwritten text e _ _ _ hleft =>
    cases e with
    | brokeOff fault => exact .inr (.inl ⟨fault, rfl, hleft.elsewhere⟩)
    | fault fault path => exact .inl (hleft.refused nofun)
    | nullByte => exact .inl (hleft.refused nofun)
  | @uncopied text e _ _ _ _ hwrite _ hleft _ =>
    have hfirst := o.files.written_write o.target (o.bytes text)
    rw [hwrite] at hfirst
    exact .inr (.inr ⟨e, rfl, hfirst.sameElsewhere.trans hleft.elsewhere⟩)

/-- The work ends early for one reason only. -/
theorem Stops.unique {f f' : Failure} {files files' : FileStore} (h : Stops o f files)
    (h' : Stops o f' files') : f = f' := by
  cases h with
  | uncharted hcharts =>
    cases h' with
    | uncharted hcharts' => exact Except.error.inj (hcharts.unique hcharts')
    | unwritten hcharts' => nomatch hcharts.unique hcharts'
    | uncopied hcharts' => nomatch hcharts.unique hcharts'
  | unwritten hcharts hwrite =>
    cases h' with
    | uncharted hcharts' => nomatch hcharts.unique hcharts'
    | unwritten hcharts' hwrite' =>
      obtain rfl := Except.ok.inj (hcharts.unique hcharts')
      rw [Except.error.inj (hwrite.symm.trans hwrite')]
    | uncopied hcharts' _ hwrite' =>
      obtain rfl := Except.ok.inj (hcharts.unique hcharts')
      nomatch hwrite.symm.trans (congrArg Prod.fst hwrite')
  | uncopied hcharts _ hwrite hcopy =>
    cases h' with
    | uncharted hcharts' => nomatch hcharts.unique hcharts'
    | unwritten hcharts' hwrite' =>
      obtain rfl := Except.ok.inj (hcharts.unique hcharts')
      nomatch hwrite'.symm.trans (congrArg Prod.fst hwrite)
    | uncopied hcharts' _ hwrite' hcopy' =>
      obtain rfl := Except.ok.inj (hcharts.unique hcharts')
      obtain rfl := (Prod.mk.inj (hwrite.symm.trans hwrite')).2
      rw [Except.error.inj (hcopy.symm.trans hcopy')]

/-- The work of a service on a job. -/
def Job.work (o : Job) (r : Registry) (runId : String) : Service.Work Path :=
  (o.service r runId).write o.input (some o.output) none

theorem work_of_failure {f : Failure} (h : Charts o (.error f)) (hr : Registry.SameTables o.registry r)
    (runId : String) :
    (o.work r runId).outcome ⟨o.files, []⟩ = .error (.failed f) ∧
      (o.work r runId).leaves ⟨o.files, []⟩ = ⟨o.files, []⟩ := by
  have hmap := h.outcome hr runId []
  cases hbuild : ((o.service r runId).buildDiagram o.input).outcome ⟨o.files, []⟩ with
  | ok d =>
    rw [hbuild] at hmap
    nomatch hmap
  | error e =>
    rw [hbuild] at hmap
    obtain rfl : e = .failed f := Except.error.inj hmap
    exact Service.write_of_failure hbuild (some o.output) none

/-- A text is written as `written` says, and then its fenced copy if that is wanted. -/
theorem work_of_text {text : String} (h : Charts o (.ok text)) (hr : Registry.SameTables o.registry r)
    (runId : String) :
    let result := Service.written o.files o.target text
      ((o.service r runId).copyOf o.settings.writeMarkdown text)
    (o.work r runId).outcome ⟨o.files, []⟩ = result.1.map (fun _ => o.target) ∧
      (o.work r runId).leaves ⟨o.files, []⟩ = ⟨result.2, []⟩ := by
  intro result
  have hmap := h.outcome hr runId []
  cases hbuild : ((o.service r runId).buildDiagram o.input).outcome ⟨o.files, []⟩ with
  | error e =>
    rw [hbuild] at hmap
    nomatch hmap
  | ok d =>
    rw [hbuild] at hmap
    obtain rfl : o.markup.render d = text := Except.ok.inj hmap
    obtain ⟨hended, hstopped, hleft⟩ := Service.write_of_diagram hbuild (some o.output) none
    refine ⟨?_, hleft⟩
    cases hresult : result.1 with
    | error e => exact (hstopped e).mpr hresult
    | ok _ => exact (hended o.target).mpr ⟨hresult, rfl⟩

section Written

variable {text : String} {runId : String}

/-- Where the fenced copy is wanted, it is written after the text. -/
theorem copyOf_wanted (h : o.settings.writeMarkdown = true) (text : String) :
    (o.service r runId).copyOf o.settings.writeMarkdown text = some ((o.service r runId).fencedText text) :=
  if_pos h

theorem copyOf_unwanted (h : o.settings.writeMarkdown = false) (text : String) :
    (o.service r runId).copyOf o.settings.writeMarkdown text = none :=
  if_neg (Bool.eq_false_iff.mp h)

/-- Writing that ends well has saved the flowchart. -/
theorem saved_of_written
    (h : (Service.written o.files o.target text
      ((o.service r runId).copyOf o.settings.writeMarkdown text)).1 = .ok ()) :
    Saved o text (Service.written o.files o.target text
      ((o.service r runId).copyOf o.settings.writeMarkdown text)).2 := by
  have hfirst : (Service.firstWrite o.files o.target text).1 = .ok () := by
    cases hfirst : (Service.firstWrite o.files o.target text).1 with
    | ok _ => rfl
    | error e =>
      rw [Service.written_of_error hfirst] at h
      nomatch h
  obtain ⟨hplain, hcopy⟩ := Service.read_written h
  refine ⟨fun hown => ?_, fun hwanted => (hcopy _ (copyOf_wanted hwanted text)).1,
    fun hwanted => (hplain (copyOf_unwanted hwanted text)).2, Service.written_frame _ _ _ _,
    fun hlinks => Service.apart_of_firstWrite hlinks hfirst⟩
  by_cases hwanted : o.settings.writeMarkdown = true
  · have happart := hown.resolve_left (Bool.eq_false_iff.not_left.mpr hwanted)
    exact (hcopy _ (copyOf_wanted hwanted text)).2.1 happart
  · exact (hplain (copyOf_unwanted (Bool.eq_false_iff.mpr hwanted) text)).1

/-- Writing that does not end well has failed at the output or, after that was written, at the copy. -/
theorem stops_of_written (htarget : o.target.hasNull = false) (hcharts : Charts o (.ok text)) {stop : Stop}
    (h : (Service.written o.files o.target text
      ((o.service r runId).copyOf o.settings.writeMarkdown text)).1 = .error stop) :
    ∃ f, stop = .failed f ∧ Stops o f (Service.written o.files o.target text
      ((o.service r runId).copyOf o.settings.writeMarkdown text)).2 := by
  cases hfirst : (Service.firstWrite o.files o.target text).1 with
  | error e =>
    rw [Service.written_of_error hfirst] at h ⊢
    obtain rfl := Except.error.inj h
    rcases Service.writeStop_cases o.target e with ⟨rfl, -⟩ | hstop
    · exact absurd (FileStore.hasNull_of_write hfirst) (Bool.eq_false_iff.mp htarget)
    · exact ⟨_, hstop, .unwritten hcharts hfirst (Service.failed_firstWrite hfirst)⟩
  | ok _ =>
    by_cases hwanted : o.settings.writeMarkdown = true
    · rw [copyOf_wanted hwanted, Service.written_some hfirst] at h ⊢
      cases hsecond : (Service.secondWrite o.files o.target text ((o.service r runId).fencedText text)).1 with
      | ok _ =>
        rw [hsecond] at h
        nomatch h
      | error e =>
        rw [hsecond] at h
        obtain rfl := Except.error.inj h
        rcases Service.writeStop_cases o.copy e with ⟨rfl, -⟩ | hstop
        · exact absurd (FileStore.hasNull_of_write hsecond)
            (Bool.eq_false_iff.mp (Path.hasNull_companion htarget))
        · exact ⟨_, hstop, .uncopied hcharts hwanted (Prod.ext hfirst rfl) hsecond
            (Service.failed_secondWrite hsecond) fun happart => Service.read_of_apart happart hfirst _⟩
    · rw [copyOf_unwanted (Bool.eq_false_iff.mpr hwanted), Service.written_none hfirst] at h
      nomatch h

end Written

/-- **The work** stops early, or saves the flowchart. -/
theorem work_stops_or_saves (hsource : o.source.hasNull = false) (htarget : o.target.hasNull = false)
    (hfails : ∀ plugin, o.plugin? = some plugin → plugin.RaisesOnlyFailures)
    (hr : Registry.SameTables o.registry r) (runId : String) :
    (∃ f, (o.work r runId).outcome ⟨o.files, []⟩ = .error (.failed f) ∧
      Stops o f ((o.work r runId).leaves ⟨o.files, []⟩).files) ∨
    ∃ text, (o.work r runId).outcome ⟨o.files, []⟩ = .ok o.target ∧ Charts o (.ok text) ∧
      Saved o text ((o.work r runId).leaves ⟨o.files, []⟩).files := by
  obtain ⟨f | text, hcharts⟩ := exists_charts hsource hfails
  · obtain ⟨hended, hleft⟩ := work_of_failure hcharts hr runId
    rw [hleft]
    exact .inl ⟨f, hended, .uncharted hcharts⟩
  · obtain ⟨hended, hleft⟩ := work_of_text hcharts hr runId
    rw [hleft]
    cases hresult : (Service.written o.files o.target text
        ((o.service r runId).copyOf o.settings.writeMarkdown text)).1 with
    | ok _ =>
      rw [hresult] at hended
      exact .inr ⟨text, hended, hcharts, saved_of_written hresult⟩
    | error stop =>
      rw [hresult] at hended
      obtain ⟨f, rfl, hstops⟩ := stops_of_written htarget hcharts hresult
      exact .inl ⟨f, hended, hstops⟩

/-! ## The ways -/

/-- There was nothing to draw. -/
structure Idle (o : Job) (r : Report) : Prop where
  status : r.ending = .returned 1
  out : r.out = ""
  err : r.err = [.text "Please provide a Lua file path as an argument."]
  files : r.files = o.files

/-- The plugins could not be set up, which nobody handles. -/
structure Aborted (o : Job) (e : Registry.ConfigError) (r : Report) : Prop where
  ending : r.ending = .troubled (.plugins e)
  out : r.out = ""
  err : ∃ records : List Log.Record, r.err = records.map .record
  files : r.files = o.files

/-- The flowchart of the input is on disk. -/
structure Drawn (o : Job) (text : String) (r : Report) : Prop where
  status : r.ending = .returned 0
  out : r.out = "Mermaid diagram saved to " ++ o.target.text ++ "\n"
  /-- Nothing but records of the log is shown beside it. -/
  err : ∃ records : List Log.Record, r.err = records.map .record
  charts : Charts o (.ok text)
  saved : Saved o text r.files

/-- The work has failed, and the user is told why.  The files are as they were, unless the write of the output
    broke off or it was only the copy that could not be written. -/
structure Failed (o : Job) (f : Failure) (r : Report) : Prop where
  status : r.ending = .returned 2
  out : r.out = ""
  err : ∃ records : List Log.Record,
    r.err = records.map .record ++ textLines ("Error: " ++ f.message ++ "\n")
  stops : Stops o f r.files
  files : r.files = o.files ∨
    (∃ fault, f = .unwritable o.target.text (.brokeOff fault) ∧
      FileStore.SameElsewhere o.files r.files [o.target]) ∨
    ∃ cause, f = .unwritable o.copy.text cause ∧
      FileStore.SameElsewhere o.files r.files [o.target, o.copy]

/-- A way for a run to end. -/
inductive Way where
  | idle
  | aborted (e : Registry.ConfigError)
  | drawn (text : String)
  | failed (f : Failure)

/-- The run has ended this way. -/
def Way.Holds (o : Job) (r : Report) : Way → Prop
  | .idle => Idle o r
  | .aborted e => Aborted o e r
  | .drawn text => Drawn o text r
  | .failed f => Failed o f r

/-- The end of a run that has ended this way. -/
def Way.ending : Way → Ending
  | .idle => .returned 1
  | .aborted e => .troubled (.plugins e)
  | .drawn _ => .returned 0
  | .failed _ => .returned 2

theorem Way.Holds.ending {r : Report} {way : Way} (h : way.Holds o r) : r.ending = way.ending := by
  cases way with
  | idle => exact Idle.status h
  | aborted e => exact Aborted.ending h
  | drawn text => exact Drawn.status h
  | failed f => exact Failed.status h

/-- A run ends in no two ways. -/
theorem Way.Holds.unique {r : Report} {way other : Way} (h : way.Holds o r) (h' : other.Holds o r) :
    way = other := by
  have hending : way.ending = other.ending := h.ending.symm.trans h'.ending
  cases way with
  | idle =>
    cases other with
    | idle => rfl
    | _ => nomatch hending
  | aborted e =>
    cases other with
    | aborted e' => exact congrArg Way.aborted (Trouble.plugins.inj (Ending.troubled.inj hending))
    | _ => nomatch hending
  | drawn text =>
    cases other with
    | drawn text' => exact congrArg Way.drawn (Except.ok.inj ((Drawn.charts h).unique (Drawn.charts h')))
    | _ => nomatch hending
  | failed f =>
    cases other with
    | failed f' => exact congrArg Way.failed ((Failed.stops h).unique (Failed.stops h'))
    | _ => nomatch hending

/-! ## The command -/

/-- The job that a run has with its installation. -/
def jobOf (t : Toolkit) (w : Setting) (settings : Settings) (input output : String) : Job where
  files := w.files
  plugins := Registry.installed t.yaml t.plugin w.files (Plugin.bundledDirectory w.root)
  settings := settings
  input := input
  output := output

section Draw

variable {t : Toolkit} {w : Setting} {settings : Settings} {input output : String}

/-- Plugins that cannot be set up keep a run from starting. -/
theorem draw_of_error {e : Registry.ConfigError}
    (h : Registry.installed t.yaml t.plugin w.files (Plugin.bundledDirectory w.root) = .error e)
    (settings : Settings) (threshold : Log.Threshold) (input output : String) :
    ∃ records : List Log.Record, draw t w settings threshold input output =
      ⟨.troubled (.plugins e), "", admitted threshold records, w.files, threshold⟩ := by
  have hended := Registry.outcome_populate t.yaml t.plugin w.files (Plugin.bundledDirectory w.root)
  rw [h, Action.outcome] at hended
  unfold draw
  generalize (Registry.populate t.yaml t.plugin w.files (Plugin.bundledDirectory w.root)).run {} = setup
    at hended ⊢
  obtain ⟨made, registry, before⟩ := setup
  obtain rfl : made = .error e := hended
  refine ⟨before ++ [], ?_⟩
  dsimp only
  rw [List.append_nil (admitted _ _)]

/-- A run with plugins reports how the work has ended. -/
theorem draw_of_ok {plugins : List Plugin} (h : (jobOf t w settings input output).plugins = .ok plugins)
    (threshold : Log.Threshold) :
    let o := jobOf t w settings input output
    ∃ (r : Registry) (records : List Log.Record), Registry.SameTables o.registry r ∧
      draw t w settings threshold input output =
        match (o.work r w.runId).outcome ⟨o.files, []⟩ with
        | .ok path =>
          ⟨.returned 0, "Mermaid diagram saved to " ++ path.text ++ "\n", admitted threshold records,
            ((o.work r w.runId).leaves ⟨o.files, []⟩).files, threshold⟩
        | .error (.failed f) =>
          ⟨.returned 2, "", admitted threshold records ++ textLines ("Error: " ++ f.message ++ "\n"),
            ((o.work r w.runId).leaves ⟨o.files, []⟩).files, threshold⟩
        | .error stop =>
          ⟨.troubled (.stopped stop), "", admitted threshold records,
            ((o.work r w.runId).leaves ⟨o.files, []⟩).files, threshold⟩ := by
  intro o
  have hended := Registry.outcome_populate t.yaml t.plugin w.files (Plugin.bundledDirectory w.root)
  have htables := Registry.sameTables_populate h
  rw [show Registry.installed _ _ _ _ = _ from h, Action.outcome] at hended
  rw [Action.leaves] at htables
  unfold draw
  generalize (Registry.populate t.yaml t.plugin w.files (Plugin.bundledDirectory w.root)).run {} = setup
    at hended htables ⊢
  obtain ⟨made, registry, before⟩ := setup
  obtain rfl : made = .ok () := hended
  have hregistry : o.registry = .ofPlugins plugins := by rw [Job.registry, h]
  refine ⟨registry, before ++ ((o.work registry w.runId).run ⟨o.files, []⟩).2.2, hregistry ▸ htables, ?_⟩
  dsimp only
  have hwork : ((Service.mk registry settings w.runId).write input (some output) none).run ⟨w.files, []⟩ =
      (o.work registry w.runId).run ⟨o.files, []⟩ := rfl
  rw [hwork, Action.outcome, Action.leaves]
  -- what the work is does not matter any more
  generalize (o.work registry w.runId).run ⟨o.files, []⟩ = done
  obtain ⟨outcome, after, records⟩ := done
  simp only [List.append_nil]
  rcases outcome with (f | _ | e | _) | path <;> rfl

/-- A plugin that is found was installed. -/
theorem Job.mem_of_plugin? {plugins : List Plugin} {plugin : Plugin} (h : o.plugins = .ok plugins)
    (hplugin : o.plugin? = some plugin) : plugin ∈ plugins := by
  have hregistry : o.registry = .ofPlugins plugins := by rw [Job.registry, h]
  rw [Job.plugin?, hregistry, Option.or_eq_some_iff] at hplugin
  rcases hplugin with hfile | ⟨-, hlanguage⟩
  · exact Registry.mem_of_pluginFor_ofPlugins hfile
  · exact Registry.mem_of_plugin?_ofPlugins hlanguage

/-- A run that has something to draw is kept from starting by its plugins, or else draws it or fails. -/
theorem exists_way_draw (hinput : '\x00' ∉ input.toList) (houtput : '\x00' ∉ output.toList)
    (hfails : ∀ plugins, (jobOf t w settings input output).plugins = .ok plugins →
      ∀ p ∈ plugins, p.RaisesOnlyFailures) (threshold : Log.Threshold) :
    ∃ way : Way, way ≠ .idle ∧
      (∀ e, way = .aborted e ↔ (jobOf t w settings input output).plugins = .error e) ∧
      way.Holds (jobOf t w settings input output) (draw t w settings threshold input output) := by
  cases hplugins : (jobOf t w settings input output).plugins with
  | error e =>
    obtain ⟨records, hdraw⟩ := draw_of_error hplugins settings threshold input output
    rw [hdraw]
    refine ⟨.aborted e, nofun, fun e' => ?_, rfl, rfl, ⟨_, rfl⟩, rfl⟩
    rw [Way.aborted.injEq, Except.error.injEq]
  | ok plugins =>
    obtain ⟨r, records, hr, hdraw⟩ := draw_of_ok hplugins threshold
    have hproper (plugin : Plugin) (hplugin : (jobOf t w settings input output).plugin? = some plugin) :
        plugin.RaisesOnlyFailures :=
      hfails plugins hplugins plugin (Job.mem_of_plugin? hplugins hplugin)
    have hwork := work_stops_or_saves (o := jobOf t w settings input output) (Path.hasNull_ofString hinput)
      (Path.hasNull_ofString houtput) hproper hr w.runId
    rw [hdraw]
    rcases hwork with ⟨f, hended, hstops⟩ | ⟨text, hended, hcharts, hsaved⟩
    · rw [hended]
      exact ⟨.failed f, nofun, fun e => iff_of_false nofun nofun, rfl, rfl, ⟨_, rfl⟩, hstops, hstops.files⟩
    · rw [hended]
      exact ⟨.drawn text, nofun, fun e => iff_of_false nofun nofun, rfl, rfl, ⟨_, rfl⟩, hcharts, hsaved⟩

end Draw

/-! ## The settings that the arguments ask for -/

/-- The settings as the arguments change them, some of which spell the options that do so. -/
def asked (args : List String) (s : Settings) : Settings :=
  { s with
    labelElseifConditions :=
      s.labelElseifConditions || decide (∃ arg ∈ beforeDivider args, Spells arg .labelElseif)
    writeMarkdown := s.writeMarkdown && !decide (∃ arg ∈ beforeDivider args, Spells arg .noMarkdown) }

theorem adjusted_eq_asked {args : List String} {a : Arguments} (h : parse args = .ok a) (s : Settings) :
    adjusted s a = asked args s := by
  have hasks {s : Switch} (hs : s.takesValue = false) :
      a.asks s = decide (∃ arg ∈ beforeDivider args, Spells arg s) := by
    rw [Bool.eq_iff_iff, asks_iff_spelled h hs, decide_eq_true_iff]
  have helseif : a.labelElseif = _ := hasks (s := .labelElseif) rfl
  have hmarkdown : a.noMarkdown = _ := hasks (s := .noMarkdown) rfl
  rw [adjusted, asked, helseif, hmarkdown]

/-- A log level is recognized whether the arguments or the settings give it. -/
theorem exists_threshold {args : List String} {a : Arguments} {level : String} (h : parse args = .ok a)
    (hlevel : (Log.Threshold.rankOf? level).isSome) :
    ∃ threshold, Log.Threshold.ofValue (.text (a.logLevel.getD level)) = .ok threshold := by
  have hchoice : ∀ level ∈ logLevels, (Log.Threshold.rankOf? level).isSome := by decide
  have hrank : (Log.Threshold.rankOf? (a.logLevel.getD level)).isSome := by
    cases hasked : a.logLevel with
    | none => exact hlevel
    | some choice => exact hchoice choice (logLevel_mem h hasked)
  obtain ⟨n, hn⟩ := Option.isSome_iff_exists.mp hrank
  exact ⟨.ofRank n _, by rw [Log.Threshold.ofValue, hn]⟩

/-- Without an input a run is idle, and with one it does what the arguments and the settings ask for. -/
theorem perform_eq (t : Toolkit) (w : Setting) {settings : Settings} {a : Arguments}
    {threshold : Log.Threshold}
    (hlevel : Log.Threshold.ofValue (.text (a.logLevel.getD (Text.upper settings.logLevel))) = .ok threshold) :
    perform t w settings a =
      if a.input = none ∨ a.input = some "" then ⟨.returned 1, "", [.text missingInput], w.files, .initial⟩
      else draw t w (adjusted settings a) threshold (a.input.getD "") (a.output.getD settings.outputFile) := by
  rw [perform]
  cases hinput : a.input with
  | none => rfl
  | some input =>
    by_cases hempty : input = ""
    · subst hempty
      rfl
    · have hne : ¬(some input = none ∨ some input = some "") := by simpa using hempty
      have hfull : ¬input.isEmpty = true := by simpa using hempty
      rw [if_neg hne]
      dsimp only
      rw [if_neg hfull, hlevel]
      rfl

/-- A run with accepted arguments and a known log level is idle without an input, and draws with one. -/
theorem run_eq {t : Toolkit} {w : Setting} {settings : Settings} {a : Arguments}
    (hsettings : t.settings w.environment w.files = .ok settings)
    (hlevel : (Log.Threshold.rankOf? (Text.upper settings.logLevel)).isSome)
    (harguments : parse w.arguments = .ok a) :
    ∃ threshold, run t w =
      if a.input = none ∨ a.input = some "" then ⟨.returned 1, "", [.text missingInput], w.files, .initial⟩
      else draw t w (asked w.arguments settings) threshold (a.input.getD "")
        (a.output.getD settings.outputFile) := by
  obtain ⟨threshold, hthreshold⟩ := exists_threshold harguments hlevel
  refine ⟨threshold, ?_⟩
  rw [run, hsettings, harguments, ← adjusted_eq_asked harguments, ← perform_eq t w hthreshold]

end CommandLine

end Flowchart
