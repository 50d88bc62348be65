/-
  What a registration that fails leaves behind.

  The extensions of a plugin come from its configuration and may be anything.  A registration goes through
  them one by one and fails at the first that is no text, or at once if there is nothing to go through; by
  then it has changed both tables of the registry, and nothing takes that back.

  1. **The loop** — going through any list of values gives the language the texts that come before the first
     other value, and fails if there is such a value (`outcome_claim`, `leaves_claim`).

  2. **The registration** — whether it fails or not, the plugin is known by its language afterwards, and owns
     the extensions before the fault (`leaves_register`).  It fails exactly if there is a fault
     (`outcome_register`).

  3. **What has changed** — the look-ups of the two tables, and when nothing has changed at all: if the plugin
     was there already and had the extensions before the fault (`registered_eq_self_iff`).
-/
import Flowchart.Proofs.Registrations

namespace Flowchart

/-! ## Setting a key -/

namespace Assoc

variable {α : Type}

/-- A key that is set keeps its place, or comes last if it is new. -/
theorem keys_set (key : String) (value : α) (entries : Assoc α) :
    (entries.set key value).keys =
      if key ∈ entries.keys then entries.keys else entries.keys ++ [key] := by
  induction entries with
  | nil => rfl
  | cons e rest ih =>
    obtain ⟨k, v⟩ := e
    rw [set]
    by_cases hk : k = key
    · subst hk
      simp [keys]
    · have hne : key ≠ k := Ne.symm hk
      unfold keys at ih ⊢
      simp only [beq_iff_eq, if_neg hk, List.map_cons, ih, List.mem_cons, hne, false_or]
      split
      · rfl
      · rfl

/-- Setting a key changes nothing exactly if the key had that value. -/
theorem set_eq_self_iff {key : String} {value : α} {entries : Assoc α} :
    entries.set key value = entries ↔ entries.find? key = some value := by
  constructor
  · intro heq
    rw [← heq, find?_set, if_pos rfl]
  · intro hfind
    induction entries with
    | nil => nomatch hfind
    | cons e rest ih =>
      obtain ⟨k, v⟩ := e
      rw [find?_cons] at hfind
      rw [set]
      by_cases hk : k = key
      · subst hk
        rw [if_pos rfl] at hfind
        rw [if_pos (beq_self_eq_true k), Option.some.inj hfind]
      · rw [if_neg (Ne.symm hk)] at hfind
        rw [if_neg (by simpa using hk), ih hfind]

end Assoc

/-! ## Extensions before a fault -/

/-- The texts at the start of a list of values. -/
def leadingTexts : List Value → List String
  | .text s :: rest => s :: leadingTexts rest
  | _ => []

/-- The first value that is no text comes right after the leading texts. -/
theorem leadingTexts_of_find? {items : List Value} {v : Value}
    (h : items.find? (·.text?.isNone) = some v) :
    ∃ rest, items = (leadingTexts items).map .text ++ v :: rest ∧ v.text? = none := by
  induction items with
  | nil => nomatch h
  | cons w items ih =>
    cases w with
    | text s =>
      rw [List.find?_cons_of_neg (by exact Bool.false_ne_true)] at h
      obtain ⟨rest, hrest, hv⟩ := ih h
      exact ⟨rest, congrArg (Value.text s :: ·) hrest, hv⟩
    | _ =>
      obtain rfl := Option.some.inj h
      exact ⟨items, rfl, rfl⟩

namespace Plugin

/-- The extensions of a plugin up to the first that is no text; none if there is nothing to go through. -/
def soundExtensions (p : Plugin) : List String :=
  match p.extensionItems with
  | .ok items => leadingTexts items
  | .error _ => []

/-- What is wrong with the extensions of a plugin: there is nothing to go through, or something among them
    is no text. -/
def extensionFault? (p : Plugin) : Option Mistake :=
  match p.extensionItems with
  | .ok items => (items.find? (·.text?.isNone)).map fun v => .noAttribute v.typeName "lower"
  | .error m => some m

/-- There is nothing to go through, or a value that is no text comes right after the sound extensions. -/
theorem fault_cases {p : Plugin} {m : Mistake} (h : p.extensionFault? = some m) :
    (p.extensionItems = .error m ∧ p.soundExtensions = []) ∨
    ∃ v rest, p.extensionItems = .ok (p.soundExtensions.map .text ++ v :: rest) ∧ v.text? = none ∧
      m = .noAttribute v.typeName "lower" := by
  rw [extensionFault?] at h
  rw [soundExtensions]
  cases hitems : p.extensionItems with
  | error e =>
    rw [hitems] at h
    rw [Option.some.inj h]
    exact Or.inl ⟨rfl, rfl⟩
  | ok items =>
    rw [hitems] at h
    obtain ⟨v, hv, rfl⟩ := Option.map_eq_some_iff.mp h
    obtain ⟨rest, hsplit, hbad⟩ := leadingTexts_of_find? hv
    exact Or.inr ⟨v, rest, congrArg Except.ok hsplit, hbad, rfl⟩

end Plugin

namespace Registry

/-! ## The loop -/

/-- A text is given to the language, whether or not it had another owner. -/
theorem claim_text (language s : String) (rest : List Value) (r : Registry) :
    (claim language (.text s :: rest)).outcome r =
      (claim language rest).outcome { r with extensions := r.extensions.set (Text.lower s) language } ∧
    (claim language (.text s :: rest)).leaves r =
      (claim language rest).leaves { r with extensions := r.extensions.set (Text.lower s) language } := by
  rw [claim]
  simp only [extensionOf, Action.outcome_bind, Action.leaves_bind, Action.outcome_ofExcept,
    Action.leaves_ofExcept, Action.outcome_state, Action.leaves_state]
  cases r.extensions.find? (Text.lower s) with
  | some owner => exact ⟨rfl, rfl⟩
  | none => exact ⟨rfl, rfl⟩

/-- Anything else ends the loop where it stands. -/
theorem claim_other (language : String) {v : Value} (hv : v.text? = none) (rest : List Value)
    (r : Registry) :
    (claim language (v :: rest)).outcome r = .error (.noAttribute v.typeName "lower") ∧
    (claim language (v :: rest)).leaves r = r := by
  cases v with
  | text s => nomatch hv
  | _ => exact ⟨rfl, rfl⟩

/-- The loop fails at the first value that is no text. -/
theorem outcome_claim (language : String) (items : List Value) (r : Registry) :
    (claim language items).outcome r =
      match items.find? (·.text?.isNone) with
      | some v => .error (.noAttribute v.typeName "lower")
      | none => .ok () := by
  induction items generalizing r with
  | nil => rfl
  | cons v rest ih =>
    cases v with
    | text s =>
      rw [(claim_text language s rest r).1, ih]
      rfl
    | _ => exact (claim_other language rfl rest r).1

/-- The loop gives the language the texts before that value. -/
theorem leaves_claim (language : String) (items : List Value) (r : Registry) :
    (claim language items).leaves r =
      { r with extensions := claimed language (leadingTexts items) r.extensions } := by
  induction items generalizing r with
  | nil => rfl
  | cons v rest ih =>
    cases v with
    | text s =>
      rw [(claim_text language s rest r).2, ih]
      rfl
    | _ => exact (claim_other language rfl rest r).2

/-! ## The registration -/

/-- The registry in which a plugin is known by its language and owns some extensions. -/
def registered (r : Registry) (p : Plugin) (exts : List String) : Registry :=
  { r with
    plugins := r.plugins.set p.language p
    extensions := claimed p.language exts r.extensions }

/-- A registration sets the plugin of the language first, and then goes through its extensions. -/
theorem register_steps (p : Plugin) (r : Registry) :
    (register p).outcome r =
      (match p.extensionItems with
      | .ok items => (claim p.language items).outcome { r with plugins := r.plugins.set p.language p }
      | .error m => .error m) ∧
    (register p).leaves r =
      match p.extensionItems with
      | .ok items => (claim p.language items).leaves { r with plugins := r.plugins.set p.language p }
      | .error _ => { r with plugins := r.plugins.set p.language p } := by
  rw [register]
  simp only [Action.outcome_bind, Action.leaves_bind, Action.outcome_state, Action.leaves_state]
  -- the note about an earlier plugin changes nothing
  split
  all_goals
    simp only [Action.outcome_bind, Action.leaves_bind, Action.outcome_note, Action.leaves_note,
      Action.outcome_change, Action.leaves_change, Action.outcome_ofExcept, Action.leaves_ofExcept]
    cases p.extensionItems with
    | error m => exact ⟨rfl, rfl⟩
    | ok items =>
      dsimp only
      cases (claim p.language items).outcome { r with plugins := r.plugins.set p.language p } with
      | error m => exact ⟨rfl, rfl⟩
      | ok u => exact ⟨rfl, rfl⟩

/-- A registration fails exactly if there is a fault in the extensions. -/
theorem outcome_register (p : Plugin) (r : Registry) :
    (register p).outcome r =
      match p.extensionFault? with
      | some m => .error m
      | none => .ok () := by
  rw [(register_steps p r).1, Plugin.extensionFault?]
  cases p.extensionItems with
  | error m => rfl
  | ok items =>
    dsimp only
    rw [outcome_claim]
    cases items.find? (·.text?.isNone) with
    | none => rfl
    | some v => rfl

/-- However a registration ends, the plugin is known by its language and owns the extensions before the
    fault. -/
theorem leaves_register (p : Plugin) (r : Registry) :
    (register p).leaves r = r.registered p p.soundExtensions := by
  rw [(register_steps p r).2, Plugin.soundExtensions]
  cases p.extensionItems with
  | error m => rfl
  | ok items =>
    dsimp only
    rw [leaves_claim]
    rfl

/-! ## What has changed -/

/-- Giving a language extensions changes nothing exactly if it had them all. -/
theorem claimed_eq_self_iff {language : String} {exts : List String} {owners : Assoc String} :
    claimed language exts owners = owners ↔
      ∀ e ∈ exts.map Text.lower, owners.find? e = some language := by
  constructor
  · intro heq e he
    rw [← heq, find?_claimed, if_pos he]
  · intro hall
    induction exts with
    | nil => rfl
    | cons ext rest ih =>
      have hext : owners.set (Text.lower ext) language = owners :=
        Assoc.set_eq_self_iff.mpr (hall _ List.mem_cons_self)
      rw [claimed, List.foldl_cons, hext]
      exact ih fun e he => hall e (List.mem_cons_of_mem _ he)

/-- Nothing has changed exactly if the plugin was there and had the extensions. -/
theorem registered_eq_self_iff {r : Registry} {p : Plugin} {exts : List String} :
    r.registered p exts = r ↔
      r.plugin? p.language = some p ∧ ∀ e ∈ exts.map Text.lower, r.extensions.find? e = some p.language := by
  rw [plugin?, ← Assoc.set_eq_self_iff, ← claimed_eq_self_iff]
  constructor
  · intro heq
    exact ⟨congrArg Registry.plugins heq, congrArg Registry.extensions heq⟩
  · rintro ⟨hplugins, hextensions⟩
    rw [registered, hplugins, hextensions]

theorem plugin?_registered (r : Registry) (p : Plugin) (exts : List String) (language : String) :
    (r.registered p exts).plugin? language =
      if language = p.language then some p else r.plugin? language :=
  Assoc.find?_set p.language language p r.plugins

theorem find?_registered (r : Registry) (p : Plugin) (exts : List String) (e : String) :
    (r.registered p exts).extensions.find? e =
      if e ∈ exts.map Text.lower then some p.language else r.extensions.find? e :=
  find?_claimed p.language exts r.extensions e

/-- The plugin for a file, by the owner of its extension; a language without a name has no files. -/
theorem pluginFor_eq (r : Registry) (path : String) :
    (r.pluginFor path).1 =
      (r.extensions.find? (fileExtension path)).bind fun language =>
        if language = "" then none else r.plugin? language := by
  rw [pluginFor]
  cases r.extensions.find? (fileExtension path) with
  | none => rfl
  | some language =>
    by_cases hempty : language = ""
    · subst hempty
      rfl
    · have hne : language.isEmpty = false := by simpa using hempty
      simp [hne, hempty]

/-- Files whose extension is now that of the language get the plugin; all others what they had. -/
theorem pluginFor_registered (r : Registry) (p : Plugin) (exts : List String) (path : String) :
    ((r.registered p exts).pluginFor path).1 =
      if fileExtension path ∈ exts.map Text.lower ∨
          r.extensions.find? (fileExtension path) = some p.language then
        if p.language = "" then none else some p
      else (r.pluginFor path).1 := by
  rw [pluginFor_eq, pluginFor_eq, find?_registered]
  simp only [plugin?_registered]
  by_cases hnew : fileExtension path ∈ exts.map Text.lower
  · simp [hnew]
  · rw [if_neg hnew]
    cases howner : r.extensions.find? (fileExtension path) with
    | none => simp [hnew]
    | some language =>
      by_cases hlanguage : language = p.language
      · simp [hlanguage]
      · simp [hnew, hlanguage]

/-- `r'` is what a registration of `p` has made of `r` that got as far as the extensions `exts`. -/
structure Halfway (p : Plugin) (exts : List String) (r r' : Registry) : Prop where
  /-- The language keeps its place, or comes last if it is new. -/
  languages : r'.languages = if p.language ∈ r.languages then r.languages else r.languages ++ [p.language]
  plugins : ∀ language, r'.plugin? language = if language = p.language then some p else r.plugin? language
  /-- The extensions are given away one after the other. -/
  extensions : r'.extensions =
    exts.foldl (fun owners ext => owners.set (Text.lower ext) p.language) r.extensions
  owners : ∀ e, r'.extensions.find? e =
    if e ∈ exts.map Text.lower then some p.language else r.extensions.find? e
  files : ∀ path, (r'.pluginFor path).1 =
    if fileExtension path ∈ exts.map Text.lower ∨
        r.extensions.find? (fileExtension path) = some p.language then
      if p.language = "" then none else some p
    else (r.pluginFor path).1
  configs : r'.configs = r.configs

/-- **A registration that fails stays half done.**  It fails because there are no extensions to go through,
    or at the first one that is no text.  The plugin is known by its language all the same, and owns the
    extensions before the fault; everything else is as it was.  So nothing has changed exactly if the plugin
    was registered already and had those extensions. -/
theorem failed_registration_halfway {p : Plugin} {m : Mistake} {r : Registry}
    (h : (register p).outcome r = .error m) :
    ((p.extensionItems = .error m ∧ p.soundExtensions = []) ∨
      ∃ v rest, p.extensionItems = .ok (p.soundExtensions.map .text ++ v :: rest) ∧ v.text? = none ∧
        m = .noAttribute v.typeName "lower") ∧
    Halfway p p.soundExtensions r ((register p).leaves r) ∧
    ((register p).leaves r = r ↔ r.plugin? p.language = some p ∧
      ∀ e ∈ p.soundExtensions.map Text.lower, r.extensions.find? e = some p.language) := by
  have hfault : p.extensionFault? = some m := by
    rw [outcome_register] at h
    cases hfault : p.extensionFault? with
    | none => rw [hfault] at h; nomatch h
    | some m' => rw [hfault] at h; exact congrArg some (Except.error.inj h)
  refine ⟨Plugin.fault_cases hfault, ?_, ?_⟩
  · rw [leaves_register]
    exact ⟨Assoc.keys_set p.language p r.plugins, plugin?_registered r p p.soundExtensions, rfl,
      find?_registered r p p.soundExtensions, pluginFor_registered r p p.soundExtensions, rfl⟩
  · rw [leaves_register]
    exact registered_eq_self_iff

/-- A plugin that was there already and had the extension before the fault: here nothing changes. -/
theorem failed_registration_halfway_repeated :
    let broken : Plugin := .ofLines "lua" (.list [.text ".LUA", .int 5, .text ".luau"]) 1
    let r : Registry := (register broken).leaves {}
    (register broken).outcome r = .error (.noAttribute "int" "lower") ∧
      broken.soundExtensions = [".LUA"] ∧ (register broken).leaves r = r := by
  intro broken r
  have hfail : (register broken).outcome r = .error (.noAttribute "int" "lower") := rfl
  have hthere : r.plugin? broken.language = some broken := rfl
  have howned : ∀ e ∈ broken.soundExtensions.map Text.lower, r.extensions.find? e = some "lua" := by
    decide +kernel
  exact ⟨hfail, rfl, (failed_registration_halfway hfail).2.2.mpr ⟨hthere, howned⟩⟩

/-- A registration that fails in a fresh registry: a language, an extension and a plugin for files are
    there that were not before. -/
theorem failed_registration_not_undone :
    let broken : Plugin := .ofLines "a" (.list [.text ".ok", .int 5, .text ".never"]) 1
    let r : Registry := {}
    (register broken).outcome r = .error (.noAttribute "int" "lower") ∧
      (register broken).leaves r ≠ r ∧
      (r.languages = [] ∧ ((register broken).leaves r).languages = ["a"]) ∧
      (r.fileExtensions = [] ∧ ((register broken).leaves r).fileExtensions = [".ok"]) ∧
      (r.plugin? "a" = none ∧ ((register broken).leaves r).plugin? "a" = some broken) ∧
      ((r.pluginFor "x.ok").1 = none ∧ (((register broken).leaves r).pluginFor "x.ok").1 = some broken) := by
  intro broken r
  have hlanguages : ((register broken).leaves r).languages = ["a"] := rfl
  have hplugin : ((register broken).leaves r).plugin? "a" = some broken := rfl
  have hextensions : ((register broken).leaves r).extensions = [(".ok", "a")] := by decide +kernel
  have hpath : fileExtension "x.ok" = ".ok" := by decide +kernel
  refine ⟨rfl, ?_, ⟨rfl, hlanguages⟩, ⟨rfl, ?_⟩, ⟨rfl, hplugin⟩, rfl, ?_⟩
  · intro hsame
    rw [hsame] at hlanguages
    nomatch hlanguages
  · rw [fileExtensions, hextensions]
    rfl
  · rw [pluginFor_eq, hpath, hextensions]
    exact hplugin

end Registry

end Flowchart
