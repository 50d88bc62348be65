/-
  What writing a flowchart does to the files.

  Generating the text of a flowchart and writing it go through the same stages, each on its own.  So writing
  fails as generating does, and otherwise writes just the text that generating gives: to the output, and
  fenced to its companion.  A write that is refused changes nothing; but a write opens its file first, and one
  that breaks off has already emptied it.  And the two files are two only if the paths lead apart, which links
  can prevent.

  1. **Stages** — reading, parsing and laying out change neither the files nor the logger (`Keeps`), and how
     they end does not depend on the run's id (`outcome_buildDiagram`).

  2. **Writing** — `written` is how the two writes end and what they leave, with the logger put aside
     (`write_of_diagram`); each is a single write, of which `FileStore.Written` says all.

  3. **The companion** — without links it never leads where the output does (`apart_companion`).
-/
import Flowchart.Proofs.Places
import Flowchart.Service
import Mathlib.Control.Monad.Basic

namespace Flowchart.Service

variable {s : Service} {w : Workspace}

/-! ## Stages that change nothing -/

/-- The work leaves the files and the logger as they are. -/
def Keeps {α : Type} (work : Work α) : Prop := ∀ w, work.leaves w = w

namespace Keeps

variable {α β : Type}

theorem pure (a : α) : Keeps (pure a : Work α) := fun _ => rfl

theorem ofExcept (r : Except Stop α) : Keeps (Action.ofExcept r) := fun _ => rfl

theorem leave (records : List Log.Record) : Keeps (Action.leave records) := fun _ => rfl

theorem bind {work : Work α} {next : α → Work β} (h : Keeps work) (hnext : ∀ a, Keeps (next a)) :
    Keeps (work >>= next) := by
  intro w
  rw [Action.leaves_bind, h w]
  cases work.outcome w with
  | ok a => exact hnext a w
  | error e => rfl

theorem tell (severity : Log.Severity) (message : String) (extra own : Log.Fields)
    (error : Option Log.ErrorInfo) : Keeps (tell severity message extra own error) := fun _ => rfl

theorem tellStage (source stage status : String) (details own : Log.Fields) :
    Keeps (tellStage source stage status details own) := fun _ => rfl

theorem failToRead (path : String) (cause : ReadFault) : Keeps (failToRead path cause : Work α) :=
  fun _ => rfl

theorem readSource (path : Path) : Keeps (readSource path) := by
  refine bind (fun _ => rfl) fun w => ?_
  split
  · exact ofExcept _
  · exact failToRead _ _
  · split
    · exact failToRead _ _
    · exact pure _

theorem selectPlugin (s : Service) (path : String) : Keeps (s.selectPlugin path) := by
  refine bind (leave _) fun _ => ?_
  split
  · exact pure _
  · split
    · exact ofExcept _
    · exact bind (tell _ _ _ _ _) fun _ => pure _

theorem loadAst (s : Service) (source : String) : Keeps (s.loadAst source) := by
  refine bind (readSource _) fun content => bind (selectPlugin s _) fun plugin => ?_
  refine bind (tellStage _ _ _ _ _) fun _ => bind (leave _) fun _ => bind (ofExcept _) fun statements => ?_
  exact bind (tellStage _ _ _ _ _) fun _ => pure _

theorem buildDiagram (s : Service) (source : String) : Keeps (s.buildDiagram source) := by
  refine bind (loadAst s source) fun statements => bind (tellStage _ _ _ _ _) fun _ => ?_
  refine bind (leave _) fun _ => ?_
  split
  · exact ofExcept _
  · exact bind (tellStage _ _ _ _ _) fun _ => pure _

end Keeps

/-- The diagram of a source is laid out from its statements; the id of the run plays no part. -/
theorem outcome_buildDiagram (s : Service) (source : String) (w : Workspace) :
    (s.buildDiagram source).outcome w = match (s.loadAst source).outcome w with
      | .error e => .error e
      | .ok statements =>
        match (Builder.buildOn (layoutOptions s.settings) (.chunk statements) {}).1 with
        | .error e => .error (.failed (.malformed e))
        | .ok d => .ok d := by
  rw [buildDiagram, Action.outcome_bind]
  cases (s.loadAst source).outcome w with
  | error e => rfl
  | ok statements =>
    dsimp only
    cases (Builder.buildOn (layoutOptions s.settings) (.chunk statements) {}).1 <;> rfl

/-- Generating in another run renders the same diagram. -/
theorem outcome_generate (s : Service) (run source : String) (w : Workspace) :
    ({ s with runId := run }.generate source).outcome w =
      ((s.buildDiagram source).outcome w).map (markup s.settings).render := by
  have hbuild : ({ s with runId := run }.buildDiagram source).outcome w =
      (s.buildDiagram source).outcome w := by
    rw [outcome_buildDiagram, outcome_buildDiagram]
    rfl
  rw [generate, Action.outcome_bind, hbuild]
  cases (s.buildDiagram source).outcome w <;> rfl

/-! ## Writing -/

/-- What stops the work when a file cannot be written. -/
def writeStop (path : Path) : FileError → Stop
  | .nullByte => .nullByte
  | e => .failed (.unwritable path.text e)

theorem outcome_writeFile (path : Path) (text : String) (w : Workspace) :
    (writeFile path text).outcome w =
      (w.files.write path (Text.Utf8.encode text.toList)).1.mapError (writeStop path) := by
  rw [writeFile, Action.outcome_bind]
  dsimp only [Action.outcome_state, Action.leaves_state]
  rw [Action.outcome_bind]
  dsimp only [Action.outcome_change]
  rcases (w.files.write path (Text.Utf8.encode text.toList)).1 with (_ | _ | _) | _ <;> rfl

theorem leaves_writeFile (path : Path) (text : String) (w : Workspace) :
    (writeFile path text).leaves w =
      { w with files := (w.files.write path (Text.Utf8.encode text.toList)).2 } := by
  rw [writeFile, Action.leaves_bind]
  dsimp only [Action.outcome_state, Action.leaves_state]
  rw [Action.leaves_bind]
  dsimp only [Action.outcome_change]
  rcases (w.files.write path (Text.Utf8.encode text.toList)).1 with (_ | _ | _) | _ <;> rfl

/-- The logger has more fields during the work and is afterwards what it was, however the work ends. -/
theorem run_withFields {α : Type} (more : Log.Fields) (work : Work α) (w : Workspace) :
    (withFields more work).run w =
      ((work.run { w with fields := w.fields.merge more }).1,
        { (work.run { w with fields := w.fields.merge more }).2.1 with fields := w.fields },
        (work.run { w with fields := w.fields.merge more }).2.2) := by
  have hattempt (w : Workspace) : (Action.attempt work : Work (Except Stop α)).run w =
      (.ok (work.run w).1, (work.run w).2.1, (work.run w).2.2) := rfl
  rw [withFields, Action.run_bind_ok (Action.run_state w), Action.run_bind_ok (Action.run_change _ w),
    Action.run_bind_ok (hattempt _), Action.run_bind_ok (Action.run_change _ _), Action.run_ofExcept]
  simp only [List.nil_append, List.append_nil]

theorem outcome_withFields {α : Type} (more : Log.Fields) (work : Work α) (w : Workspace) :
    (withFields more work).outcome w = work.outcome { w with fields := w.fields.merge more } :=
  congrArg (·.1) (run_withFields more work w)

theorem leaves_withFields {α : Type} (more : Log.Fields) (work : Work α) (w : Workspace) :
    (withFields more work).leaves w =
      { work.leaves { w with fields := w.fields.merge more } with fields := w.fields } :=
  congrArg (·.2.1) (run_withFields more work w)

/-- The write of a text. -/
def firstWrite (files : FileStore) (path : Path) (text : String) : Except FileError Unit × FileStore :=
  files.write path (Text.Utf8.encode text.toList)

/-- The write of its copy, after that of the text. -/
def secondWrite (files : FileStore) (path : Path) (text copy : String) : Except FileError Unit × FileStore :=
  (firstWrite files path text).2.write (companion path) (Text.Utf8.encode copy.toList)

/-- How writing a text and perhaps its copy beside it ends, and the files then. -/
def written (files : FileStore) (path : Path) (text : String) (copy : Option String) :
    Except Stop Unit × FileStore :=
  match (firstWrite files path text).1, copy with
  | .error e, _ => (.error (writeStop path e), (firstWrite files path text).2)
  | .ok _, none => (.ok (), (firstWrite files path text).2)
  | .ok _, some copy =>
    ((secondWrite files path text copy).1.mapError (writeStop (companion path)),
      (secondWrite files path text copy).2)

/-- The text between the lines of a fence. -/
def fencedText (s : Service) (text : String) : String :=
  "```" ++ s.settings.markdownFenceLanguage ++ "\n" ++ text ++ "\n```"

/-- The fenced copy of a text, if it is wanted. -/
def copyOf (s : Service) (markdown : Bool) (text : String) : Option String :=
  if markdown then some (s.fencedText text) else none

theorem writeText_eq (s : Service) (source : String) (path : Path) (markdown : Bool) (text : String)
    (w : Workspace) :
    (s.writeText source path markdown text).outcome w =
        (written w.files path text (s.copyOf markdown text)).1 ∧
      (s.writeText source path markdown text).leaves w =
        { w with files := (written w.files path text (s.copyOf markdown text)).2 } := by
  unfold writeText written copyOf secondWrite firstWrite
  rw [Action.outcome_bind, Action.leaves_bind]
  change (writeFile path text >>= _).outcome w = _ ∧ (writeFile path text >>= _).leaves w = _
  rw [Action.outcome_bind, Action.leaves_bind, outcome_writeFile, leaves_writeFile]
  generalize w.files.write path (Text.Utf8.encode text.toList) = first
  obtain ⟨e | _, files⟩ := first
  · exact ⟨rfl, rfl⟩
  · cases markdown with
    | false => exact ⟨rfl, rfl⟩
    | true =>
      have hfence : Markup.fenced s.settings.markdownFenceLanguage text = s.fencedText text := rfl
      dsimp only [Except.mapError]
      rw [hfence]
      simp only [if_true]
      rw [Action.outcome_bind, Action.leaves_bind, outcome_writeFile, leaves_writeFile]
      dsimp only
      generalize files.write (companion path) (Text.Utf8.encode (s.fencedText text).toList) = second
      obtain ⟨e | _, both⟩ := second <;> exact ⟨rfl, rfl⟩

theorem write_of_failure {source : String} {e : Stop} (h : (s.buildDiagram source).outcome w = .error e)
    (output : Option String) (markdown : Option Bool) :
    (s.write source output markdown).outcome w = .error e ∧
      (s.write source output markdown).leaves w = w := by
  rw [write, Action.outcome_bind, Action.leaves_bind, Keeps.buildDiagram s source w, h]
  exact ⟨rfl, rfl⟩

theorem write_of_diagram {source : String} {d : Diagram} (h : (s.buildDiagram source).outcome w = .ok d)
    (output : Option String) (markdown : Option Bool) :
    let path := Path.ofString (output.getD s.settings.outputFile)
    let text := (markup s.settings).render d
    let result := written w.files path text (s.copyOf (markdown.getD s.settings.writeMarkdown) text)
    (∀ p, (s.write source output markdown).outcome w = .ok p ↔ result.1 = .ok () ∧ path = p) ∧
      (∀ e, (s.write source output markdown).outcome w = .error e ↔ result.1 = .error e) ∧
      (s.write source output markdown).leaves w = { w with files := result.2 } := by
  intro path text result
  have hwrite (inner : Workspace) :=
    writeText_eq s source path (markdown.getD s.settings.writeMarkdown) text inner
  rw [write, Action.outcome_bind, Action.leaves_bind, Keeps.buildDiagram s source w, h]
  dsimp only
  rw [Action.outcome_bind, Action.leaves_bind, outcome_withFields, leaves_withFields, (hwrite _).1,
    (hwrite _).2]
  dsimp only [result]
  generalize written w.files path text (s.copyOf (markdown.getD s.settings.writeMarkdown) text) = result
  obtain ⟨stop | _, files⟩ := result
  · have hstop (e : Stop) :
        (.error stop : Except Stop Path) = .error e ↔ (.error stop : Except Stop Unit) = .error e :=
      ⟨fun h => congrArg _ (Except.error.inj h), fun h => congrArg _ (Except.error.inj h)⟩
    refine ⟨fun p => iff_of_false nofun ?_, hstop, rfl⟩
    rintro ⟨h, -⟩
    nomatch h
  · refine ⟨fun p => ?_, fun e => iff_of_false nofun nofun, rfl⟩
    exact ⟨fun h => ⟨rfl, Except.ok.inj h⟩, fun h => congrArg Except.ok h.2⟩

/-! ## The companion -/

/-- A longer name leads elsewhere. -/
theorem step_companion_ne (dir : List String) (name : String) :
    FileStore.step dir (name ++ ".md") ≠ FileStore.step dir name := by
  have hlength : (name ++ ".md").length = name.length + 3 := String.length_append name ".md"
  have hdots : ¬(name ++ ".md" == "..") = true := by
    intro h
    have htwo : (name ++ ".md").length = 2 := congrArg String.length (beq_iff_eq.mp h)
    omega
  rw [FileStore.step, if_neg hdots, FileStore.step]
  split
  · intro h
    have hshorter := congrArg List.length h
    rw [List.length_append, List.length_dropLast, List.length_singleton] at hshorter
    omega
  · intro h
    have hlonger := congrArg String.length (List.singleton_inj.mp (List.append_cancel_left h))
    omega

/-- Without links the companion of a file leads elsewhere. -/
theorem apart_companion {files : FileStore} (hlinks : files.Linkless) {path : Path} {place : List String}
    (h : files.Opens path place) : files.Apart path (companion path) := by
  intro q hq hsame
  obtain rfl : place = q := Except.ok.inj (h.leads.symm.trans hq)
  obtain ⟨-, -, hfollow⟩ := FileStore.place_eq_ok_iff.mp hq
  obtain ⟨-, -, hcompanion⟩ := FileStore.place_eq_ok_iff.mp hsame
  obtain ⟨dir, hdir, hat, -, hstep⟩ := (hlinks.walk_snoc_eq_ok_iff _ path.parts.dropLast).mp hcompanion
  rcases List.eq_nil_or_concat path.parts with hparts | ⟨init, last, hparts⟩
  · -- the path is its own directory, which is none
    rw [hparts] at hfollow hdir
    obtain rfl : dir = place := Except.ok.inj (hdir.symm.trans hfollow)
    exact h.notDirectory hat
  · have hname : path.name = last := by simp [Path.name, hparts]
    rw [hparts, List.concat_eq_append] at hfollow hdir
    rw [List.dropLast_concat] at hdir
    obtain ⟨dir', hdir', -, -, hstep'⟩ := (hlinks.walk_snoc_eq_ok_iff _ init).mp hfollow
    obtain rfl : dir = dir' := Except.ok.inj (hdir.symm.trans hdir')
    rw [hname, ← hstep'] at hstep
    exact step_companion_ne dir last hstep

/-! ## The two writes -/

section Written

variable {files : FileStore} {path : Path} {text : String} {copy : Option String}

theorem written_of_error {e : FileError} (h : (firstWrite files path text).1 = .error e)
    (copy : Option String) :
    written files path text copy = (.error (writeStop path e), (firstWrite files path text).2) := by
  unfold written
  rw [h]

theorem written_none (h : (firstWrite files path text).1 = .ok ()) :
    written files path text none = (.ok (), (firstWrite files path text).2) := by
  unfold written
  rw [h]

/-- A copy that is wanted is written after the text, and ends the writing as it ends itself. -/
theorem written_some (h : (firstWrite files path text).1 = .ok ()) (copy : String) :
    written files path text (some copy) =
      ((secondWrite files path text copy).1.mapError (writeStop (companion path)),
        (secondWrite files path text copy).2) := by
  unfold written
  rw [h]

/-- What the write of the text can come to. -/
theorem written_firstWrite (files : FileStore) (path : Path) (text : String) :
    files.Written path (Text.Utf8.encode text.toList) (firstWrite files path text).1
      (firstWrite files path text).2 :=
  files.written_write path _

theorem read_firstWrite (h : (firstWrite files path text).1 = .ok ()) :
    (firstWrite files path text).2.read path = .ok (Text.Utf8.encode text.toList) := by
  have hfirst := written_firstWrite files path text
  rw [h] at hfirst
  exact hfirst.read_of_ok

theorem failed_firstWrite {e : FileError} (h : (firstWrite files path text).1 = .error e) :
    FileStore.FailedWrite files (firstWrite files path text).2 path (Text.Utf8.encode text.toList) e := by
  have hfirst := written_firstWrite files path text
  rw [h] at hfirst
  exact hfirst.failed

/-- What the write of the copy can come to. -/
theorem written_secondWrite (files : FileStore) (path : Path) (text copy : String) :
    (firstWrite files path text).2.Written (companion path) (Text.Utf8.encode copy.toList)
      (secondWrite files path text copy).1 (secondWrite files path text copy).2 :=
  FileStore.written_write _ _ _

theorem failed_secondWrite {copy : String} {e : FileError}
    (h : (secondWrite files path text copy).1 = .error e) :
    FileStore.FailedWrite (firstWrite files path text).2 (secondWrite files path text copy).2
      (companion path) (Text.Utf8.encode copy.toList) e := by
  have hsecond := written_secondWrite files path text copy
  rw [h] at hsecond
  exact hsecond.failed

/-- Only the output and its companion are touched. -/
theorem written_frame (files : FileStore) (path : Path) (text : String) (copy : Option String) :
    FileStore.SameElsewhere files (written files path text copy).2 [path, companion path] := by
  have hfirst := (written_firstWrite files path text).sameElsewhere
  have hwider := hfirst.mono (List.cons_subset_cons path (List.nil_subset [companion path]))
  cases hended : (firstWrite files path text).1 with
  | error e =>
    rw [written_of_error hended]
    exact hwider
  | ok _ =>
    cases copy with
    | none =>
      rw [written_none hended]
      exact hwider
    | some copy =>
      rw [written_some hended]
      exact hfirst.trans (written_secondWrite files path text copy).sameElsewhere

/-- The text stays where it was written, if the copy goes elsewhere. -/
theorem read_of_apart (happart : files.Apart path (companion path))
    (h : (firstWrite files path text).1 = .ok ()) (copy : String) :
    (secondWrite files path text copy).2.read path = .ok (Text.Utf8.encode text.toList) := by
  have hfirst := written_firstWrite files path text
  rw [h] at hfirst
  obtain ⟨place, hopens⟩ := hfirst.exists_opens
  have hplace := (hfirst.sameElsewhere.place path place).mpr hopens.leads
  rw [(written_secondWrite files path text copy).sameElsewhere.read hplace, read_firstWrite h]
  intro other hother hsame
  obtain rfl := List.mem_singleton.mp hother
  exact happart place hopens.leads ((hfirst.sameElsewhere.place _ place).mp hsame)

/-- Where the companion leads to the output, the output holds the copy. -/
theorem read_of_not_apart {copy : String} (hsame : ¬files.Apart path (companion path))
    (h : (secondWrite files path text copy).1 = .ok ()) :
    (secondWrite files path text copy).2.read path = .ok (Text.Utf8.encode copy.toList) := by
  have hsecond := written_secondWrite files path text copy
  have hframe := (written_firstWrite files path text).sameElsewhere.trans hsecond.sameElsewhere
  rw [h] at hsecond
  obtain ⟨q, hboth⟩ := Classical.not_forall.mp hsame
  obtain ⟨hpath, hcompanion⟩ := Classical.not_imp.mp hboth
  exact FileStore.read_of_same_place ((hframe.place _ q).mpr hpath)
    ((hframe.place _ q).mpr (Classical.not_not.mp hcompanion)) hsecond.read_of_ok

/-- What stops a write is an output that cannot be written, or a path that no file can have. -/
theorem writeStop_cases (path : Path) (e : FileError) :
    (e = .nullByte ∧ writeStop path e = .nullByte) ∨ writeStop path e = .failed (.unwritable path.text e) := by
  cases e with
  | nullByte => exact .inl ⟨rfl, rfl⟩
  | fault f target => exact .inr rfl
  | brokeOff f => exact .inr rfl

/-- Writing that succeeds leaves the text in the output and, if it is wanted, the copy in the companion. -/
theorem read_written (h : (written files path text copy).1 = .ok ()) :
    (copy = none → (written files path text copy).2.read path = .ok (Text.Utf8.encode text.toList) ∧
      FileStore.SameElsewhere files (written files path text copy).2 [path]) ∧
    ∀ fenced, copy = some fenced →
      (written files path text copy).2.read (companion path) = .ok (Text.Utf8.encode fenced.toList) ∧
        (files.Apart path (companion path) →
          (written files path text copy).2.read path = .ok (Text.Utf8.encode text.toList)) ∧
        (¬files.Apart path (companion path) →
          (written files path text copy).2.read path = .ok (Text.Utf8.encode fenced.toList)) := by
  cases hfirst : (firstWrite files path text).1 with
  | error e =>
    rw [written_of_error hfirst] at h
    nomatch h
  | ok _ =>
    cases copy with
    | none =>
      rw [written_none hfirst]
      exact ⟨fun _ => ⟨read_firstWrite hfirst, (written_firstWrite files path text).sameElsewhere⟩, nofun⟩
    | some fenced =>
      rw [written_some hfirst] at h ⊢
      have hcopy := written_secondWrite files path text fenced
      cases hsecond : (secondWrite files path text fenced).1 with
      | error e =>
        rw [hsecond] at h
        nomatch h
      | ok _ =>
        rw [hsecond] at hcopy
        refine ⟨nofun, ?_⟩
        rintro _ ⟨rfl⟩
        exact ⟨hcopy.read_of_ok, fun happart => read_of_apart happart hfirst fenced,
          fun hsame => read_of_not_apart hsame hsecond⟩

/-- What stops the writing is always an output that cannot be written, but for a path that no file can have. -/
theorem written_eq_error {stop : Stop} (h : (written files path text copy).1 = .error stop) :
    (∃ target cause, stop = .failed (.unwritable target cause)) ∨
      stop = .nullByte ∧ (path.hasNull = true ∨ (companion path).hasNull = true) := by
  cases hfirst : (firstWrite files path text).1 with
  | error e =>
    rw [written_of_error hfirst] at h
    obtain rfl := Except.error.inj h
    rcases writeStop_cases path e with ⟨rfl, hstop⟩ | hstop
    · exact .inr ⟨hstop, .inl (FileStore.hasNull_of_write hfirst)⟩
    · exact .inl ⟨_, _, hstop⟩
  | ok _ =>
    cases copy with
    | none =>
      rw [written_none hfirst] at h
      nomatch h
    | some fenced =>
      rw [written_some hfirst] at h
      cases hsecond : (secondWrite files path text fenced).1 with
      | ok _ =>
        rw [hsecond] at h
        nomatch h
      | error e =>
        rw [hsecond] at h
        obtain rfl := Except.error.inj h
        rcases writeStop_cases (companion path) e with ⟨rfl, hstop⟩ | hstop
        · exact .inr ⟨hstop, .inr (FileStore.hasNull_of_write hsecond)⟩
        · exact .inl ⟨_, _, hstop⟩

/-- Without links the output and its companion are two files. -/
theorem apart_of_firstWrite (hlinks : files.Linkless) (h : (firstWrite files path text).1 = .ok ()) :
    files.Apart path (companion path) := by
  have hfirst := written_firstWrite files path text
  rw [h] at hfirst
  obtain ⟨place, hopens⟩ := hfirst.exists_opens
  exact apart_companion hlinks hopens

end Written

/-- If the output cannot be written, the companion is not even tried. -/
theorem run_writeText_of_error {files : FileStore} {path : Path} {text : String} {e : FileError}
    (h : (firstWrite files path text).1 = .error e) (fields : Log.Fields) (source : String)
    (markdown : Bool) :
    (s.writeText source path markdown text).run ⟨files, fields⟩ =
      (s.writeText source path false text).run ⟨files, fields⟩ := by
  refine Action.run_bind_congr rfl fun _ _ => Action.run_bind_congr rfl fun _ hok => ?_
  rw [Keeps.tellStage, outcome_writeFile] at hok
  rw [firstWrite] at h
  rw [h] at hok
  nomatch hok

theorem run_write_of_error {source text : String} {output : Option String} {d : Diagram} {e : FileError}
    (hbuild : (s.buildDiagram source).outcome w = .ok d) (hrender : (markup s.settings).render d = text)
    (hwrite : (firstWrite w.files (Path.ofString (output.getD s.settings.outputFile)) text).1 = .error e)
    (markdown : Option Bool) :
    (s.write source output markdown).run w = (s.write source output (some false)).run w := by
  subst hrender
  refine Action.run_bind_congr rfl fun d' hd' => ?_
  obtain rfl : d = d' := Except.ok.inj (hbuild.symm.trans hd')
  rw [Keeps.buildDiagram s source w]
  refine Action.run_bind_congr ?_ fun _ _ => rfl
  rw [run_withFields, run_withFields, run_writeText_of_error hwrite, Option.getD_some]

/-- **Writing agrees with generating and touches nothing else.**  Writing fails as generating does, and the
    files stay as they are.  If generating gives a text, writing touches nothing but where the output and its
    companion lead.  If it succeeds, the output holds just that text and the companion the text between the
    lines of a fence, or what it held if no companion is wanted; only where a link makes the two one file
    does it hold the fenced text alone.  If the output cannot be opened, nothing changes; if its write breaks
    off, it holds the beginning of the text; in neither case is the companion tried.  The same goes for the
    companion after the output was written.  In all other cases writing succeeds.  What the files refuse is
    always the same kind of failure; only a path that no file can have stops the work otherwise.  However
    writing ends, the logger is what it was. -/
theorem write_follows_generate (s : Service) (run source : String) (output : Option String)
    (markdown : Option Bool) (w : Workspace) :
    let path := Path.ofString (output.getD s.settings.outputFile)
    let wanted := markdown.getD s.settings.writeMarkdown
    let generated := ({ s with runId := run }.generate source).outcome w
    let ended := (s.write source output markdown).outcome w
    let left := (s.write source output markdown).leaves w
    left.fields = w.fields ∧
    (∀ e, generated = .error e → ended = .error e ∧ left.files = w.files) ∧
    ∀ text, generated = .ok text →
      let bytes := Text.Utf8.encode text.toList
      let copy := Text.Utf8.encode
        ("```" ++ s.settings.markdownFenceLanguage ++ "\n" ++ text ++ "\n```").toList
      let first := w.files.write path bytes
      let second := first.2.write (companion path) copy
      FileStore.SameElsewhere w.files left.files [path, companion path] ∧
      (∀ p, ended = .ok p → p = path ∧
        (wanted = false → left.files.read path = .ok bytes ∧
          FileStore.SameElsewhere w.files left.files [path]) ∧
        (wanted = true → left.files.read (companion path) = .ok copy ∧
          (w.files.Apart path (companion path) → left.files.read path = .ok bytes) ∧
          (¬w.files.Apart path (companion path) → left.files.read path = .ok copy))) ∧
      (∀ e, first.1 = .error e → ended = .error (writeStop path e) ∧
        FileStore.FailedWrite w.files left.files path bytes e ∧
        (s.write source output markdown).run w = (s.write source output (some false)).run w) ∧
      (first.1 = .ok () →
        first.2.read path = .ok bytes ∧ FileStore.SameElsewhere w.files first.2 [path] ∧
        (∀ e, wanted = true → second.1 = .error e → ended = .error (writeStop (companion path) e) ∧
          FileStore.FailedWrite first.2 left.files (companion path) copy e ∧
          (w.files.Apart path (companion path) → left.files.read path = .ok bytes)) ∧
        ((wanted = true → second.1 = .ok ()) → ended = .ok path) ∧
        (w.files.Linkless → w.files.Apart path (companion path))) ∧
      ∀ stop, ended = .error stop → (∃ target cause, stop = .failed (.unwritable target cause)) ∨
        stop = .nullByte ∧ (path.hasNull = true ∨ (companion path).hasNull = true) := by
  intro path wanted generated ended left
  have hgenerated : generated = ((s.buildDiagram source).outcome w).map (markup s.settings).render :=
    outcome_generate s run source w
  cases hbuild : (s.buildDiagram source).outcome w with
  | error e =>
    obtain ⟨hended, hleft⟩ := write_of_failure hbuild output markdown
    rw [hbuild] at hgenerated
    refine ⟨congrArg Workspace.fields hleft, fun e' he' => ?_, fun text htext => ?_⟩
    · obtain rfl : e = e' := Except.error.inj (hgenerated.symm.trans he')
      exact ⟨hended, congrArg Workspace.files hleft⟩
    · nomatch hgenerated.symm.trans htext
  | ok d =>
    obtain ⟨hended, hstopped, hleft⟩ := write_of_diagram hbuild output markdown
    rw [hbuild] at hgenerated
    refine ⟨by rw [show left = _ from hleft], fun e he => ?_, fun text htext => ?_⟩
    · nomatch hgenerated.symm.trans he
    have hrender : (markup s.settings).render d = text := Except.ok.inj (hgenerated.symm.trans htext)
    rw [hrender] at hended hstopped hleft
    intro bytes copy first second
    have hfiles : left.files = (written w.files path text (s.copyOf wanted text)).2 :=
      congrArg Workspace.files hleft
    rw [hfiles]
    refine ⟨written_frame _ _ _ _, fun p hp => ?_, fun e he => ?_,
      fun hfirst => ⟨read_firstWrite hfirst, (written_firstWrite w.files path text).sameElsewhere,
        fun e hwanted he => ?_, fun hboth => ?_, fun hlinks => apart_of_firstWrite hlinks hfirst⟩,
      fun stop hstop => written_eq_error ((hstopped stop).mp hstop)⟩
    · -- writing has succeeded
      obtain ⟨hok, hpath⟩ := (hended p).mp hp
      obtain ⟨hplain, hcopy⟩ := read_written hok
      exact ⟨hpath.symm, fun hwanted => hplain (if_neg (Bool.eq_false_iff.mp hwanted)),
        fun hwanted => hcopy _ (if_pos hwanted)⟩
    · -- the output cannot be written
      have hresult := written_of_error he (s.copyOf wanted text)
      refine ⟨(hstopped _).mpr (congrArg Prod.fst hresult), ?_, run_write_of_error hbuild hrender he markdown⟩
      rw [hresult]
      exact failed_firstWrite he
    · -- the output can be written, but not the companion
      have hsecond : (secondWrite w.files path text (s.fencedText text)).1 = .error e := he
      have hresult := written_some hfirst (s.fencedText text)
      rw [hsecond] at hresult
      rw [← show s.copyOf wanted text = some _ from if_pos hwanted] at hresult
      refine ⟨(hstopped _).mpr (congrArg Prod.fst hresult), ?_⟩
      rw [hresult]
      exact ⟨failed_secondWrite hsecond, fun happart => read_of_apart happart hfirst _⟩
    · -- everything that is wanted can be written
      refine (hended path).mpr ⟨?_, rfl⟩
      show (written w.files path text (s.copyOf wanted text)).1 = .ok ()
      cases hwanted : wanted with
      | false => exact congrArg Prod.fst (written_none hfirst)
      | true =>
        have hsecond : (secondWrite w.files path text (s.fencedText text)).1 = .ok () := hboth hwanted
        have hresult := written_some hfirst (s.fencedText text)
        rw [hsecond] at hresult
        exact congrArg Prod.fst hresult

/-- The device is full after the fourth byte of the companion: the text is written, and then the work fails. -/
theorem write_follows_generate_full :
    let s : Service :=
      { registry := { plugins := [("lua", .ofLines "lua" (.list []) 0)] }, settings := {}, runId := "a" }
    let full : FileFault := .other 28 "No space left on device"
    let w : Workspace :=
      { files := { entries := [(["m.lua"], .file (Text.Utf8.encode ['x']))]
                   guards := [(["out.md"], .limit 4 full)] } }
    let text := "graph TD;\n  node0[x];\n"
    let left := (s.write "m.lua" (some "out") none).leaves w
    ({ s with runId := "b" }.generate "m.lua").outcome w = .ok text ∧
      (s.write "m.lua" (some "out") none).outcome w =
        .error (.failed (.unwritable "out.md" (.brokeOff full))) ∧
      left.files.read ⟨"", ["out"]⟩ = .ok (Text.Utf8.encode text.toList) ∧
      ∃ n, left.files.read ⟨"", ["out.md"]⟩ =
        .ok ((Text.Utf8.encode ("```mermaid\n" ++ text ++ "\n```").toList).take n) := by
  intro s full w text left
  have htext : ({ s with runId := "b" }.generate "m.lua").outcome w = .ok text := by decide +kernel
  have hpath : Path.ofString ((some "out").getD s.settings.outputFile) = ⟨"", ["out"]⟩ := by decide +kernel
  obtain ⟨-, -, hwrite⟩ := write_follows_generate s "b" "m.lua" (some "out") none w
  obtain ⟨-, -, -, hok, -⟩ := hwrite text htext
  rw [hpath] at hok
  obtain ⟨-, -, hfails, -, happart⟩ := hok (by decide +kernel)
  obtain ⟨hended, hfailed, hread⟩ := hfails (.brokeOff full) rfl (by decide +kernel)
  obtain ⟨n, -, hcut⟩ := hfailed.brokeOff full rfl
  have hlinkless : w.files.Linkless := by
    refine FileStore.linkless_of_entries fun e he target => ?_
    rw [List.mem_singleton.mp he]
    simp
  exact ⟨htext, hended, hread (happart hlinkless), n, hcut⟩

/-- What writing does not keep: a full device leaves the output empty that held something; a companion that
    is a link to the output has the fenced text take the place of the text; and a path that no file can have
    is no failure of writing. -/
theorem output_not_kept :
    let s : Service :=
      { registry := { plugins := [("lua", .ofLines "lua" (.list []) 0)] }, settings := {}, runId := "a" }
    let full : FileFault := .other 28 "No space left on device"
    let source : List String × FileEntry := (["m.lua"], .file (Text.Utf8.encode ['x']))
    let text := "graph TD;\n  node0[x];\n"
    let fullDevice : Workspace :=
      { files := { entries := [source, (["out"], .file [65])], guards := [(["out"], .limit 0 full)] } }
    let linked : Workspace := { files := { entries := [source, (["out.md"], .link ⟨"", ["out"]⟩)] } }
    let write (output : String) := s.write "m.lua" (some output) none
    ((write "out").outcome fullDevice = .error (.failed (.unwritable "out" (.brokeOff full))) ∧
        fullDevice.files.read ⟨"", ["out"]⟩ = .ok [65] ∧
        ((write "out").leaves fullDevice).files.read ⟨"", ["out"]⟩ = .ok []) ∧
      ((write "out").outcome linked = .ok ⟨"", ["out"]⟩ ∧
        ((write "out").leaves linked).files.read ⟨"", ["out"]⟩ =
          .ok (Text.Utf8.encode ("```mermaid\n" ++ text ++ "\n```").toList)) ∧
      (write "a\x00b").outcome linked = .error .nullByte := by
  decide +kernel

end Flowchart.Service
