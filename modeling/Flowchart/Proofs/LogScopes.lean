/-
  Scopes of a logger inside one another, and the records made inside them.

  A scope changes its logger: entering it adds fields, leaving it puts a copy back, and from then on the logger
  works on that copy.  What a record says could so depend on every scope that was ever entered.  It depends only on
  the scopes that stand around the log call in the text, however the scopes before it were left.

  1. **Programs** — log calls, exceptions, exceptions that are caught, and blocks that enter a scope and leave it
     whichever way their body ends (`Program.run`).  Leaving a block notes the logger's fields before and after.

  2. **Reading** — the same program read off its text (`Program.reading`): no logger is changed, and each call is
     given the fields of the blocks around it.

  3. **Steps** — what entering and leaving do to the logger and to the copies that are kept.

  4. **The crux (`run_reading`)** — by induction over the program, a run comes to what the reading says and leaves
     the logger with the fields it had (`Undone`).  The copy of a block that is open is safe, since a run touches
     only the copies of the scopes it enters and the one that the logger works on.

  5. **Records as they are written** — which of the fields come first and which stand under `context` (`Shows`).
-/
import Flowchart.Log.Logger

namespace Flowchart.Log

/-! ## Programs -/

/-- A log call with the fields that are given with it. -/
structure Call where
  severity : Severity
  template : Value
  args : List Value := []
  extra : Fields := []
  error : Option ErrorInfo := none

/-- What may be done with a logger. -/
inductive Program where
  | done
  | log (call : Call)
  | raise
  | andThen (first next : Program)
  /-- The handler runs if the body is left by an exception. -/
  | attempt (body handler : Program)
  /-- The body inside a scope with more fields. -/
  | inside (scope : String) (more : Fields) (body : Program)

/-- What can be seen of a run: the records, and, for each block that is left, the logger's fields before it was
    entered and after it was left. -/
inductive Event where
  | emitted (r : Record)
  | left (before after : Option Fields)

/-- What a run comes to, and whether it was ended by an exception. -/
structure Outcome where
  raised : Bool := false
  events : List Event := []

/-- One run after another. -/
def Outcome.followedBy (first next : Outcome) : Outcome := ⟨next.raised, first.events ++ next.events⟩

/-- The fields of a logger. -/
def Session.fields? (s : Session) (known : String) : Option Fields := (s.find? known).map (·.2.fields)

namespace Program

/-- Runs a program with the logger known as `known`. -/
def run (known : String) : Program → Session → Session × Outcome
  | .done, s => (s, {})
  | .log c, s =>
    match s.log known c.severity c.template c.args (some c.extra) c.error with
    | .ok records => (s, { events := records.map .emitted })
    | .error _ => (s, { raised := true })
  | .raise, s => (s, { raised := true })
  | .andThen first next, s =>
    let done := first.run known s
    if done.2.raised then done
    else
      let more := next.run known done.1
      (more.1, done.2.followedBy more.2)
  | .attempt body handler, s =>
    let done := body.run known s
    if done.2.raised then
      let more := handler.run known done.1
      (more.1, done.2.followedBy more.2)
    else done
  | .inside scope more body, s =>
    -- an exception goes on outwards only after the scope has been left
    let done := body.run known (s.enter scope known more)
    let after := done.1.leave scope
    (after, ⟨done.2.raised, done.2.events ++ [.left (s.fields? known) (after.fields? known)]⟩)

/-- The scopes that a program may enter. -/
def scopes : Program → List String
  | .done | .log _ | .raise => []
  | .andThen first next => first.scopes ++ next.scopes
  | .attempt body handler => body.scopes ++ handler.scopes
  | .inside scope _ body => scope :: body.scopes

end Program

/-- Fields with each name once and no name that records have for themselves.  Nor the one name that may be
    given but is never shown: what was said under it could not be read back from the record. -/
structure Plain (fields : Fields) : Prop where
  nodup : fields.keys.Nodup
  free : ∀ name ∈ fields.keys, name ∉ reservedFields ∧ name ∉ hiddenFields

/-- All fields are plain, and no scope is entered while it is open. -/
def Program.Proper : Program → Prop
  | .done | .raise => True
  | .log c => Plain c.extra
  | .andThen first next => first.Proper ∧ next.Proper
  | .attempt body handler => body.Proper ∧ handler.Proper
  | .inside scope more body => scope ∉ body.scopes ∧ Plain more ∧ body.Proper

/-! ## Reading -/

/-- A record of this level is let through and kept. -/
def Session.keeps (s : Session) (severity : Severity) : Bool := s.threshold.admits severity && s.captures

/-- The fields of a logger inside blocks, which are given from the outermost to the innermost: each overrides
    what is around it. -/
def overridden (initial : Fields) (blocks : List Fields) : Fields := blocks.foldl Assoc.merge initial

/-- The records of a log call where the logger has the fields `context`: at most one. -/
def Call.records (c : Call) (keeps : Severity → Bool) (name : String) (context : Fields) : List Record :=
  if keeps c.severity then
    ((messageOf? c.template c.args).map fun m =>
      ⟨c.severity, loggerName name, m, c.extra.merge context, c.error⟩).toList
  else []

/-- What a program comes to inside `blocks`, for a logger that starts with the fields `initial`. -/
def Program.reading (keeps : Severity → Bool) (name : String) (initial : Fields) :
    Program → List Fields → Outcome
  | .done, _ => {}
  | .log c, blocks => { events := (c.records keeps name (overridden initial blocks)).map .emitted }
  | .raise, _ => { raised := true }
  | .andThen first next, blocks =>
    let done := first.reading keeps name initial blocks
    if done.raised then done else done.followedBy (next.reading keeps name initial blocks)
  | .attempt body handler, blocks =>
    let done := body.reading keeps name initial blocks
    if done.raised then done.followedBy (handler.reading keeps name initial blocks) else done
  | .inside _ more body, blocks =>
    let done := body.reading keeps name initial (blocks ++ [more])
    let context := some (overridden initial blocks)
    ⟨done.raised, done.events ++ [.left context context]⟩

/-- Plain fields stay plain when others are merged in. -/
theorem Plain.merge {fields more : Fields} (h : Plain fields) (hmore : Plain more) :
    Plain (fields.merge more) where
  nodup := Assoc.nodup_keys_merge h.nodup more
  free name hname := by
    rcases (Assoc.mem_keys_merge name fields more).mp hname with hin | hin
    · exact h.free name hin
    · exact hmore.free name hin

/-- The fields inside plain blocks are plain. -/
theorem Plain.overridden {initial : Fields} (h : Plain initial) {blocks : List Fields}
    (hblocks : ∀ block ∈ blocks, Plain block) : Plain (overridden initial blocks) := by
  induction blocks generalizing initial with
  | nil => exact h
  | cons block rest ih =>
    obtain ⟨hblock, hrest⟩ := List.forall_mem_cons.mp hblocks
    exact ih (h.merge hblock) hrest

/-- A field of a record is that of the innermost block that has it, or else that of the logger, or else that given
    with the call. -/
theorem find?_merge_overridden {extra initial : Fields} (hinitial : Plain initial) {blocks : List Fields}
    (hblocks : ∀ block ∈ blocks, Plain block) (key : String) :
    (extra.merge (overridden initial blocks)).find? key =
      (extra :: initial :: blocks).reverse.findSome? (Assoc.find? key) := by
  have hnodup : (overridden initial blocks).keys.Nodup := (hinitial.overridden hblocks).nodup
  have hlayers : (overridden initial blocks).find? key =
      (blocks.reverse.findSome? (Assoc.find? key)).or (initial.find? key) :=
    Assoc.find?_foldl_merge key initial fun block hblock => (hblocks block hblock).nodup
  rw [Assoc.find?_merge key extra hnodup, hlayers]
  simp only [List.reverse_cons, List.findSome?_append, List.findSome?_singleton]

/-! ## Steps -/

section Steps

variable {s : Session} {known scope : String} {i : Nat} {logger : Logger}

theorem find?_eq_some_iff : s.find? known = some (i, logger) ↔
    s.names.find? known = some i ∧ s.loggers[i]? = some logger := by
  unfold Session.find?
  simp only [Option.bind_eq_bind, Option.bind_eq_some_iff]
  constructor
  · rintro ⟨j, hj, l, hl, heq⟩
    cases heq
    exact ⟨hj, hl⟩
  · rintro ⟨hi, hlogger⟩
    exact ⟨i, hi, logger, hlogger, rfl⟩

/-- A log call with plain fields gives its records. -/
theorem log_eq (hfound : s.find? known = some (i, logger)) (hlogger : Plain logger.fields) {c : Call}
    (hextra : Plain c.extra) :
    s.log known c.severity c.template c.args (some c.extra) c.error =
      .ok (c.records s.keeps logger.name logger.fields) := by
  have hfree : List.find? (fun e => reservedFields.contains e.1) (c.extra.merge logger.fields) = none := by
    rw [List.find?_eq_none]
    intro e he hreserved
    have hname : e.1 ∈ Assoc.keys (c.extra.merge logger.fields) := List.mem_map_of_mem he
    exact ((hextra.merge hlogger).free e.1 hname).1 (by simpa using hreserved)
  have hcall : { logger with name := loggerName logger.name }.call c.severity c.template c.args
      (some c.extra) c.error = .ok ((messageOf? c.template c.args).map fun m =>
        ⟨c.severity, loggerName logger.name, m, c.extra.merge logger.fields, c.error⟩) := by
    unfold Logger.call
    simp only [hfree]
  unfold Session.log Call.records Session.keeps
  rw [hfound]
  simp only [hcall]
  cases s.threshold.admits c.severity <;> cases s.captures <;> rfl

/-- The logger after a scope has been entered. -/
def Logger.entered (logger : Logger) (scope : String) (more : Fields) : Logger where
  name := logger.name
  fields := logger.fields.merge more
  home := if logger.home == some scope then none else logger.home

/-- Entering a scope adds its fields to the logger. -/
theorem find?_enter (hfound : s.find? known = some (i, logger)) (more : Fields) :
    (s.enter scope known more).find? known = some (i, logger.entered scope more) := by
  obtain ⟨hi, hlogger⟩ := find?_eq_some_iff.mp hfound
  have hbound : i < s.loggers.length := (List.getElem?_eq_some_iff.mp hlogger).1
  unfold Session.enter
  rw [hfound, find?_eq_some_iff]
  refine ⟨hi, ?_⟩
  rw [List.getElem?_map, List.getElem?_set_self hbound, Option.map_some]
  unfold Logger.entered
  split <;> rfl

/-- Changing what another scope keeps changes nothing for a scope. -/
theorem find?_map_saved {scopes : Assoc Scope} {home : String} (hne : scope ≠ home) (fields : Fields) :
    Assoc.find? scope
        (List.map (fun e => if e.1 == home then (e.1, { e.2 with saved := fields }) else e) scopes) =
      scopes.find? scope := by
  induction scopes with
  | nil => rfl
  | cons e rest ih =>
    obtain ⟨key, kept⟩ := e
    rw [List.map_cons]
    by_cases hkey : key = home
    · subst hkey
      rw [if_pos (beq_self_eq_true _), Assoc.find?_cons, Assoc.find?_cons, if_neg hne, if_neg hne, ih]
    · rw [if_neg (by simpa using hkey), Assoc.find?_cons, Assoc.find?_cons, ih]

/-- A scope that is entered keeps the fields that the logger had. -/
theorem find?_scopes_enter_self (hfound : s.find? known = some (i, logger)) (more : Fields) :
    (s.enter scope known more).scopes.find? scope = some ⟨i, logger.fields⟩ := by
  unfold Session.enter
  rw [hfound]
  exact (Assoc.find?_set _ _ _ _).trans (if_pos rfl)

/-- What another scope keeps stays, unless the logger works on it. -/
theorem find?_scopes_enter_of_ne (hfound : s.find? known = some (i, logger)) (more : Fields)
    {other : String} (hne : other ≠ scope) (hhome : logger.home ≠ some other) :
    (s.enter scope known more).scopes.find? other = s.scopes.find? other := by
  unfold Session.enter
  rw [hfound]
  refine (Assoc.find?_set _ _ _ _).trans ((if_neg hne).trans ?_)
  cases hcase : logger.home with
  | none => rfl
  | some home =>
    have hother : other ≠ home := fun heq => hhome (by rw [hcase, heq])
    exact find?_map_saved hother _

theorem keeps_enter (more : Fields) : (s.enter scope known more).keeps = s.keeps := by
  unfold Session.enter
  split <;> rfl

/-- Leaving a scope puts back what it kept. -/
theorem find?_leave (hfound : s.find? known = some (i, logger)) {saved : Fields}
    (hkept : s.scopes.find? scope = some ⟨i, saved⟩) :
    (s.leave scope).find? known = some (i, { logger with fields := saved, home := some scope }) := by
  obtain ⟨hi, hlogger⟩ := find?_eq_some_iff.mp hfound
  have hbound : i < s.loggers.length := (List.getElem?_eq_some_iff.mp hlogger).1
  unfold Session.leave
  rw [hkept]
  simp only [hlogger]
  exact find?_eq_some_iff.mpr ⟨hi, List.getElem?_set_self hbound⟩

theorem scopes_leave : (s.leave scope).scopes = s.scopes := by
  unfold Session.leave
  split
  · rfl
  · split <;> rfl

theorem keeps_leave : (s.leave scope).keeps = s.keeps := by
  unfold Session.leave
  split
  · rfl
  · split <;> rfl

end Steps

/-! ## Runs -/

/-- Between `s` and `s'` scopes from `opened` were entered, and all of them left: the logger, which was `l` and is
    `l'` now, has the fields it had, and other scopes keep what they kept. -/
structure Undone (known : String) (i : Nat) (opened : List String) (s s' : Session) (l l' : Logger) : Prop where
  keeps : s'.keeps = s.keeps
  found : s'.find? known = some (i, l')
  name : l'.name = l.name
  fields : l'.fields = l.fields
  /-- The logger works on the copy it worked on, or on that of a scope that was entered. -/
  home : ∀ scope ∉ opened, l'.home = some scope → l.home = some scope
  scopes : ∀ scope ∉ opened, l.home ≠ some scope → s'.scopes.find? scope = s.scopes.find? scope

namespace Undone

variable {known : String} {i : Nat} {opened more : List String} {s s₁ s₂ : Session} {l l₁ l₂ : Logger}

theorem refl (hfound : s.find? known = some (i, l)) : Undone known i opened s s l l where
  keeps := rfl
  found := hfound
  name := rfl
  fields := rfl
  home _ _ h := h
  scopes _ _ _ := rfl

theorem mono (h : Undone known i opened s s₁ l l₁) : Undone known i (opened ++ more) s s₁ l l₁ where
  keeps := h.keeps
  found := h.found
  name := h.name
  fields := h.fields
  home scope hscope := h.home scope fun hin => hscope (List.mem_append_left _ hin)
  scopes scope hscope := h.scopes scope fun hin => hscope (List.mem_append_left _ hin)

theorem trans (h : Undone known i opened s s₁ l l₁) (h' : Undone known i more s₁ s₂ l₁ l₂) :
    Undone known i (opened ++ more) s s₂ l l₂ where
  keeps := h'.keeps.trans h.keeps
  found := h'.found
  name := h'.name.trans h.name
  fields := h'.fields.trans h.fields
  home scope hscope hhome := by
    obtain ⟨hopened, hmore⟩ : scope ∉ opened ∧ scope ∉ more := by simpa using hscope
    exact h.home scope hopened (h'.home scope hmore hhome)
  scopes scope hscope hhome := by
    obtain ⟨hopened, hmore⟩ : scope ∉ opened ∧ scope ∉ more := by simpa using hscope
    have hhome₁ : l₁.home ≠ some scope := fun heq => hhome (h.home scope hopened heq)
    rw [h'.scopes scope hmore hhome₁, h.scopes scope hopened hhome]

/-- A block around a run that is undone is undone itself. -/
theorem inside {scope : String} {fields : Fields} (hfound : s.find? known = some (i, l))
    (hfresh : scope ∉ opened)
    (h : Undone known i opened (s.enter scope known fields) s₁ (l.entered scope fields) l₁) :
    Undone known i (scope :: opened) s (s₁.leave scope) l { l with home := some scope } := by
  -- the logger does not work on the copy that the scope has just made, so the body leaves that copy alone
  have hhome : (l.entered scope fields).home ≠ some scope := by
    unfold Logger.entered
    split
    · simp
    · next hother => simpa using hother
  have hkept : s₁.scopes.find? scope = some ⟨i, l.fields⟩ :=
    (h.scopes scope hfresh hhome).trans (find?_scopes_enter_self hfound fields)
  have hname : l₁.name = l.name := h.name
  refine ⟨?_, ?_, rfl, rfl, ?_, ?_⟩
  · rw [keeps_leave, h.keeps, keeps_enter]
  · rw [find?_leave h.found hkept, hname]
  · intro other hother heq
    exact absurd (by simpa using heq) (Ne.symm (List.ne_of_not_mem_cons hother))
  · intro other hother hne
    have hother₁ : (l.entered scope fields).home ≠ some other := by
      unfold Logger.entered
      split
      · simp
      · exact hne
    rw [scopes_leave, h.scopes other (List.not_mem_of_not_mem_cons hother) hother₁,
      find?_scopes_enter_of_ne hfound fields (List.ne_of_not_mem_cons hother) hne]

end Undone

theorem fields?_eq {s : Session} {known : String} {i : Nat} {l : Logger}
    (h : s.find? known = some (i, l)) : s.fields? known = some l.fields := by
  rw [Session.fields?, h, Option.map_some]

/-- Wherever the logger has the fields of the blocks around it, a run of the program comes to what the reading says,
    and all that it entered is undone. -/
def Faithful (known : String) (i : Nat) (initial : Fields) (p : Program) : Prop :=
  ∀ ⦃s : Session⦄ ⦃l : Logger⦄ ⦃blocks : List Fields⦄,
    s.find? known = some (i, l) → l.fields = overridden initial blocks → Plain l.fields →
      (p.run known s).2 = p.reading s.keeps l.name initial blocks ∧
        ∃ l', Undone known i p.scopes s (p.run known s).1 l l'

section Runs

variable {known : String} {i : Nat} {initial : Fields}

/-- What was undone before a run makes no difference to it. -/
theorem Faithful.after {p : Program} (hp : Faithful known i initial p) {opened : List String} {s s₁ : Session}
    {l l₁ : Logger} (undone : Undone known i opened s s₁ l l₁) {blocks : List Fields}
    (hfields : l.fields = overridden initial blocks) (hplain : Plain l.fields) :
    (p.run known s₁).2 = p.reading s.keeps l.name initial blocks ∧
      ∃ l₂, Undone known i (opened ++ p.scopes) s (p.run known s₁).1 l l₂ := by
  obtain ⟨hrun, l₂, undone₂⟩ := hp undone.found (undone.fields.trans hfields) (undone.fields ▸ hplain)
  rw [undone.keeps, undone.name] at hrun
  exact ⟨hrun, l₂, undone.trans undone₂⟩

/-- Every proper program runs as it reads. -/
theorem run_reading {p : Program} (hp : p.Proper) : Faithful known i initial p := by
  -- by induction over the program, for whatever blocks stand around it
  induction p with
  | done => exact fun s l _ hfound _ _ => ⟨rfl, l, .refl hfound⟩
  | raise => exact fun s l _ hfound _ _ => ⟨rfl, l, .refl hfound⟩
  | log c =>
    intro s l blocks hfound hfields hplain
    simp only [Program.run, Program.reading, log_eq hfound hplain hp, ← hfields]
    exact ⟨trivial, l, .refl hfound⟩
  | andThen first next ihfirst ihnext =>
    intro s l blocks hfound hfields hplain
    obtain ⟨hfirst, l₁, undone₁⟩ := ihfirst hp.1 hfound hfields hplain
    simp only [Program.run, Program.reading, hfirst]
    split
    · exact ⟨hfirst, l₁, undone₁.mono⟩
    · obtain ⟨hnext, undone⟩ := (ihnext hp.2).after undone₁ hfields hplain
      exact ⟨by rw [hnext], undone⟩
  | attempt body handler ihbody ihhandler =>
    intro s l blocks hfound hfields hplain
    obtain ⟨hbody, l₁, undone₁⟩ := ihbody hp.1 hfound hfields hplain
    simp only [Program.run, Program.reading, hbody]
    split
    · obtain ⟨hhandler, undone⟩ := (ihhandler hp.2).after undone₁ hfields hplain
      exact ⟨by rw [hhandler], undone⟩
    · exact ⟨hbody, l₁, undone₁.mono⟩
  | inside scope more body ih =>
    intro s l blocks hfound hfields hplain
    obtain ⟨hfresh, hmore, hbody⟩ := hp
    have hfields₁ : (l.entered scope more).fields = overridden initial (blocks ++ [more]) := by
      simp [Logger.entered, overridden, hfields]
    obtain ⟨hinner, l₁, undone₁⟩ := ih hbody (find?_enter hfound more) hfields₁ (hplain.merge hmore)
    rw [keeps_enter] at hinner
    have undone := Undone.inside hfound hfresh undone₁
    refine ⟨?_, _, undone⟩
    simp only [Program.run, Program.reading, hinner, fields?_eq hfound, fields?_eq undone.found, hfields]
    rfl

end Runs

/-- A record has plain fields, and a block leaves the fields that it found. -/
def Event.Sound : Event → Prop
  | .emitted r => Plain r.fields
  | .left before after => after = before

/-- All that a reading shows is sound. -/
theorem sound_reading {keeps : Severity → Bool} {name : String} {initial : Fields} (hinitial : Plain initial)
    {p : Program} (hp : p.Proper) {blocks : List Fields} (hblocks : ∀ block ∈ blocks, Plain block) :
    ∀ e ∈ (p.reading keeps name initial blocks).events, e.Sound := by
  induction p generalizing blocks with
  | done => nofun
  | raise => nofun
  | log c =>
    have hfields : Plain (c.extra.merge (overridden initial blocks)) :=
      Plain.merge hp (hinitial.overridden hblocks)
    intro e he
    obtain ⟨r, hr, rfl⟩ := List.mem_map.mp he
    unfold Call.records at hr
    split at hr
    · obtain ⟨m, -, rfl⟩ := Option.map_eq_some_iff.mp (Option.mem_toList.mp hr)
      exact hfields
    · nomatch hr
  | andThen first next ihfirst ihnext =>
    simp only [Program.reading]
    split
    · exact ihfirst hp.1 hblocks
    · exact List.forall_mem_append.mpr ⟨ihfirst hp.1 hblocks, ihnext hp.2 hblocks⟩
  | attempt body handler ihbody ihhandler =>
    simp only [Program.reading]
    split
    · exact List.forall_mem_append.mpr ⟨ihbody hp.1 hblocks, ihhandler hp.2 hblocks⟩
    · exact ihbody hp.1 hblocks
  | inside scope more body ih =>
    obtain ⟨-, hmore, hbody⟩ := hp
    have hinner : ∀ block ∈ blocks ++ [more], Plain block :=
      List.forall_mem_append.mpr ⟨hblocks, by simpa using hmore⟩
    exact List.forall_mem_append.mpr ⟨ih hbody hinner, by simp [Event.Sound]⟩

/-! ## Records as they are written -/

/-- The fields that are not shown first. -/
def otherFields (fields : Fields) : Fields := fields.filter fun e => !leadingFields.contains e.1

/-- `entries` show `fields`: those that come first by their own names, the others under `context` if there are any,
    and beside them only `bare`, what is shown of a record that has no fields. -/
structure Shows (fields bare entries : Fields) : Prop where
  leading : ∀ name ∈ leadingFields, entries.find? name = fields.find? name
  context : entries.find? "context" =
    if otherFields fields = [] then none else some (.map (otherFields fields))
  rest : ∀ name, name ∉ leadingFields → name ≠ "context" → entries.find? name = bare.find? name

/-- Picking out names keeps their values. -/
theorem find?_filterMap (names : List String) (fields : Fields) (key : String) :
    Assoc.find? key (names.filterMap fun name => (fields.find? name).map (name, ·)) =
      if key ∈ names then fields.find? key else none := by
  induction names with
  | nil => rfl
  | cons name rest ih =>
    rw [List.filterMap_cons]
    by_cases hkey : key = name
    · subst hkey
      cases hval : Assoc.find? key fields with
      | none => simp [ih, hval]
      | some v => simp [Assoc.find?_cons]
    · cases hval : Assoc.find? name fields with
      | none => simp [ih, hkey]
      | some v => simp [Assoc.find?_cons, ih, hkey]

/-- What is written before the fields of a record. -/
def Record.head (r : Record) : Fields :=
  [("level", .text r.severity.name), ("logger", .text r.logger), ("message", .text r.message)]

/-- What is written after the fields of a record. -/
def Record.tail (r : Record) : Fields :=
  match r.error with
  | some e => [("error", .map [("type", textOrNull e.type), ("message", textOrNull e.message)])]
  | none => []

/-- The entry for the fields that are not shown first. -/
def Record.middle (r : Record) : Fields := if r.context.isEmpty then [] else [("context", .map r.context)]

theorem toValue_eq (r : Record) : r.toValue = .map (r.head ++ r.leading ++ r.middle ++ r.tail) := rfl

theorem find?_head {r : Record} {name : String} (h : name ∉ ["level", "logger", "message"]) :
    r.head.find? name = none :=
  Assoc.find?_eq_none h

theorem find?_middle (r : Record) (name : String) :
    r.middle.find? name = if name = "context" ∧ r.context ≠ [] then some (.map r.context) else none := by
  unfold Record.middle
  by_cases hempty : r.context = []
  · simp [hempty, Assoc.find?]
  · by_cases hname : name = "context" <;> simp [hempty, hname, Assoc.find?_cons, Assoc.find?_eq_none, Assoc.keys]

theorem find?_tail {r : Record} {name : String} (h : name ≠ "error") : r.tail.find? name = none := by
  unfold Record.tail
  split
  · rw [Assoc.find?_cons, if_neg h]
    rfl
  · rfl

/-- A record with plain fields shows them when it is written. -/
theorem shows_toValue {r : Record} (hplain : Plain r.fields) :
    ∃ entries bare, r.toValue = .map entries ∧ { r with fields := [] }.toValue = .map bare ∧
      Shows r.fields bare entries := by
  have hcontext : r.context = otherFields r.fields := by
    refine List.filter_congr fun e he => ?_
    have hname : e.1 ∉ hiddenFields := (hplain.free e.1 (List.mem_map_of_mem he)).2
    simp [hname]
  have hleading (name : String) : r.leading.find? name =
      if name ∈ leadingFields then r.fields.find? name else none := find?_filterMap _ _ name
  refine ⟨_, r.head ++ r.tail, toValue_eq r, rfl, ?_, ?_, ?_⟩
  · intro name hname
    have hhead : name ∉ ["level", "logger", "message"] := by
      revert name
      decide
    have hne : name ≠ "context" ∧ name ≠ "error" := by
      constructor <;> rintro rfl <;> exact absurd hname (by decide)
    simp [Assoc.find?_append, find?_head hhead, hleading, hname, find?_middle, find?_tail, hne]
  · have hhead : r.head.find? "context" = none := find?_head (by decide)
    have htail : r.tail.find? "context" = none := find?_tail (by decide)
    have hnot : "context" ∉ leadingFields := by decide
    simp [Assoc.find?_append, hhead, hleading, hnot, find?_middle, htail, hcontext]
  · intro name hname hne
    simp [Assoc.find?_append, hleading, hname, find?_middle, hne]

/-! ## Nested scopes -/

/-- Scopes compose and are undone.  A run comes to what can be read off the program: every record has the fields
    given with the call, overridden by those of the logger, overridden by those of the blocks around the call from
    the outermost to the innermost.  Its fields are shown where they belong, and whichever way a block is left, the
    logger has the fields that it had before. -/
theorem nested_scopes {s : Session} {known : String} {i : Nat} {logger : Logger} {p : Program}
    (hfound : s.find? known = some (i, logger)) (hinitial : Plain logger.fields) (hp : p.Proper) :
    (p.run known s).2 = p.reading s.keeps logger.name logger.fields [] ∧
      (∀ extra blocks, (∀ block ∈ blocks, Plain block) → ∀ key,
        (extra.merge (overridden logger.fields blocks)).find? key =
          (extra :: logger.fields :: blocks).reverse.findSome? (Assoc.find? key)) ∧
      (∀ r, .emitted r ∈ (p.run known s).2.events →
        ∃ entries bare, r.toValue = .map entries ∧ { r with fields := [] }.toValue = .map bare ∧
          Shows r.fields bare entries) ∧
      (∀ before after, .left before after ∈ (p.run known s).2.events → after = before) ∧
      (p.run known s).1.fields? known = s.fields? known := by
  have hfields : logger.fields = overridden logger.fields [] := rfl
  obtain ⟨hreading, l', undone⟩ := run_reading hp hfound hfields hinitial
  have hsound : ∀ e ∈ (p.run known s).2.events, e.Sound := by
    rw [hreading]
    exact sound_reading hinitial hp (by simp)
  refine ⟨hreading, fun extra blocks hblocks => find?_merge_overridden hinitial hblocks, ?_, ?_, ?_⟩
  · exact fun r hr => shows_toValue (hsound _ hr)
  · exact fun before after hleft => hsound _ hleft
  · rw [fields?_eq undone.found, fields?_eq hfound, undone.fields]

/-- An exception leaves two blocks that override one another and a field given with the call.  It is caught, and
    the outer scope is entered once more. -/
theorem nested_scopes_caught :
    let initial : Fields := [("run_id", .text "r1"), ("stage", .text "start")]
    let outer : Fields := [("run_id", .text "r1"), ("stage", .text "parse"), ("depth", .int 1)]
    let s : Session := { captures := true, loggers := [⟨"flow", initial, none⟩], names := [("log", 0)] }
    let inner : Program := .andThen
      (.log { severity := .error, template := .text "deep", extra := [("depth", .int 9), ("try", .int 1)] }) .raise
    let p : Program := .attempt
      (.inside "outer" [("stage", .text "parse"), ("depth", .int 1)]
        (.inside "inner" [("depth", .int 2), ("source_path", .text "a.lua")] inner))
      (.inside "outer" [("depth", .int 3)] (.log { severity := .warning, template := .text "again" }))
    s.find? "log" = some (0, ⟨"flow", initial, none⟩) ∧ Plain initial ∧ p.Proper ∧
      (p.run "log" s).1.fields? "log" = some initial ∧
      (p.run "log" s).2.events =
        [.emitted ⟨.error, "flow", "deep", [("depth", .int 2), ("try", .int 1), ("run_id", .text "r1"),
            ("stage", .text "parse"), ("source_path", .text "a.lua")], none⟩,
          .left (some outer) (some outer), .left (some initial) (some initial),
          .emitted ⟨.warning, "flow", "again", initial ++ [("depth", .int 3)], none⟩,
          .left (some initial) (some initial)] := by
  intro initial outer s inner p
  have hinitial : Plain initial := ⟨by decide, by decide⟩
  have hp : p.Proper :=
    ⟨⟨by decide, ⟨by decide, by decide⟩, by decide, ⟨by decide, by decide⟩, ⟨by decide, by decide⟩, trivial⟩,
      by decide, ⟨by decide, by decide⟩, by decide, by decide⟩
  have hfound : s.find? "log" = some (0, ⟨"flow", initial, none⟩) := rfl
  obtain ⟨hreading, -, -, -, hfields⟩ := nested_scopes hfound hinitial hp
  refine ⟨hfound, hinitial, hp, hfields, ?_⟩
  rw [hreading]
  rfl

end Flowchart.Log
