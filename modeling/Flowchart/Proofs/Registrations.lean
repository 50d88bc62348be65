/-
  What the registry of plugins knows, by the history of its registrations.

  The registry keeps two tables that change by different rules.  A registration gives its language the new
  plugin and takes over every extension that the plugin declares; taking a language out gives back only
  those extensions that still are its own and that its present plugin declares.

  1. **Runs** — `after` is the registry after a list of requests, from an empty one on.  A request is
     `Proper` if the language has a name and the extensions are a list of texts.

  2. **The step** — one request changes the look-ups of both tables by a fixed rule
     (`perform_register`, `perform_unregister`).

  3. **Histories** — `Since` says that something happened and that nothing undid it from then on; it has a
     law for one more request (`since_snoc`).  `Current` and `Owned` are the two look-ups as such
     histories, and by induction over the run they are what the tables say (`tables_after`).

  4. **Stale extensions** — a registration that overwrites a language leaves it the extensions that only
     the old plugin declared, and nothing else leaves an extension behind (`backed_prefixes_iff`).
-/
import Flowchart.Plugin.Registry
import Mathlib.Data.List.Induction

namespace Flowchart

/-! ## Work that succeeds -/

namespace Action

variable {σ ε α β : Type} {s s' s'' : σ}

/-- The work succeeds with `a` and leaves the state `s'`, whatever it notes. -/
def Ends (work : Action σ ε α) (s : σ) (a : α) (s' : σ) : Prop :=
  ∃ records, work.run s = (.ok a, s', records)

theorem Ends.bind {work : Action σ ε α} {next : α → Action σ ε β} {a : α} {b : β}
    (h : work.Ends s a s') (h' : (next a).Ends s' b s'') : (work >>= next).Ends s b s'' := by
  obtain ⟨records, hrun⟩ := h
  obtain ⟨more, hrun'⟩ := h'
  exact ⟨records ++ more, by rw [run_bind_ok hrun, hrun']⟩

theorem ends_pure (a : α) : (pure a : Action σ ε α).Ends s a s := ⟨_, rfl⟩

theorem ends_state : (state : Action σ ε σ).Ends s s s := ⟨_, rfl⟩

theorem ends_change (f : σ → σ) : (change f : Action σ ε Unit).Ends s () (f s) := ⟨_, rfl⟩

theorem ends_note (severity : Log.Severity) (logger message : String) :
    (note severity logger message : Action σ ε Unit).Ends s () s := ⟨_, rfl⟩

theorem ends_ofExcept (a : α) : (ofExcept (.ok a) : Action σ ε α).Ends s a s := ⟨_, rfl⟩

end Action

/-! ## Proper plugins -/

namespace Plugin

/-- The plugin declares the extension, which is given in small letters. -/
def declares (p : Plugin) (ext : String) : Bool :=
  match p.extensions with
  | some (.list items) => items.any fun v => v.text?.map Text.lower == some ext
  | _ => false

/-- The extensions of the plugin are a list of texts. -/
def Listed (p : Plugin) : Prop := ∃ exts : List String, p.extensions = some (.list (exts.map .text))

theorem declares_iff {p : Plugin} {exts : List String}
    (h : p.extensions = some (.list (exts.map .text))) (ext : String) :
    p.declares ext = true ↔ ext ∈ exts.map Text.lower := by
  rw [declares, h]
  simp [Value.text?]

end Plugin

namespace Registry

/-! ## Giving and taking extensions -/

/-- The extensions after a language was given some more. -/
def claimed (language : String) (exts : List String) (owners : Assoc String) : Assoc String :=
  exts.foldl (fun owners ext => owners.set (Text.lower ext) language) owners

/-- The extensions after some were taken from a language, where they were its own. -/
def released (language : String) (exts : List String) (owners : Assoc String) : Assoc String :=
  exts.foldl (fun owners ext =>
    if owners.find? (Text.lower ext) = some language then owners.drop (Text.lower ext) else owners) owners

theorem ends_claim (language : String) (exts : List String) (r : Registry) :
    (claim language (exts.map .text)).Ends r ()
      { r with extensions := claimed language exts r.extensions } := by
  induction exts generalizing r with
  | nil => exact Action.ends_pure ()
  | cons ext rest ih =>
    rw [List.map_cons, claim]
    refine (Action.ends_ofExcept _).bind (Action.ends_state.bind ?_)
    -- the note about an earlier owner changes nothing
    cases r.extensions.find? (Text.lower ext) with
    | some owner => exact (Action.ends_note _ _ _).bind ((Action.ends_change _).bind (ih _))
    | none => exact (Action.ends_change _).bind (ih _)

theorem find?_claimed (language : String) (exts : List String) (owners : Assoc String) (e : String) :
    (claimed language exts owners).find? e =
      if e ∈ exts.map Text.lower then some language else owners.find? e := by
  induction exts generalizing owners with
  | nil => rfl
  | cons ext rest ih =>
    rw [claimed, List.foldl_cons]
    show (claimed language rest _).find? e = _
    rw [ih, Assoc.find?_set, List.map_cons]
    by_cases hrest : e ∈ rest.map Text.lower
    · rw [if_pos hrest, if_pos (List.mem_cons_of_mem _ hrest)]
    · rw [if_neg hrest]
      simp only [List.mem_cons, hrest, or_false]

theorem ends_release (language : String) (exts : List String) (r : Registry) :
    (release language (exts.map .text)).Ends r ()
      { r with extensions := released language exts r.extensions } := by
  induction exts generalizing r with
  | nil => exact Action.ends_pure ()
  | cons ext rest ih =>
    rw [List.map_cons, release]
    refine (Action.ends_ofExcept _).bind (Action.ends_state.bind ?_)
    by_cases hown : r.extensions.find? (Text.lower ext) = some language
    · rw [if_pos (beq_iff_eq.mpr hown), released, List.foldl_cons, if_pos hown]
      exact (Action.ends_change _).bind (ih _)
    · rw [if_neg fun h => hown (beq_iff_eq.mp h), released, List.foldl_cons, if_neg hown]
      exact ih r

theorem find?_released_eq_some_iff {language owner e : String} {exts : List String}
    {owners : Assoc String} :
    (released language exts owners).find? e = some owner ↔
      owners.find? e = some owner ∧ ¬(e ∈ exts.map Text.lower ∧ language = owner) := by
  induction exts generalizing owners with
  | nil => simp [released]
  | cons ext rest ih =>
    rw [released, List.foldl_cons]
    show (released language rest _).find? e = some owner ↔ _
    rw [ih, List.map_cons, List.mem_cons]
    by_cases hown : owners.find? (Text.lower ext) = some language
    · rw [if_pos hown, Assoc.find?_drop]
      by_cases he : e = Text.lower ext
      · subst he
        simp [hown]
      · simp [he]
    · rw [if_neg hown]
      by_cases he : e = Text.lower ext
      · subst he
        refine and_congr_right fun hfind => ?_
        have hne : language ≠ owner := fun heq => hown (heq ▸ hfind)
        simp [hne]
      · simp [he]

/-! ## The step -/

/-- What can be asked of a registry. -/
inductive Request where
  | register (p : Plugin)
  | unregister (language : String)

/-- The registry after a request. -/
def perform (r : Registry) : Request → Registry
  | .register p => ((register p).run r).2.1
  | .unregister language => ((unregister language).run r).2.1

/-- The registry after some requests, from an empty one on. -/
def after (run : List Request) : Registry := run.foldl perform {}

theorem after_snoc (run : List Request) (q : Request) :
    after (run ++ [q]) = perform (after run) q := by
  rw [after, List.foldl_append]
  rfl

/-- A plugin that is registered has a language with a name and a list of texts as its extensions. -/
def Request.Proper : Request → Prop
  | .register p => p.language ≠ "" ∧ p.Listed
  | .unregister _ => True

theorem ends_register {p : Plugin} {exts : List String}
    (h : p.extensions = some (.list (exts.map .text))) (r : Registry) :
    (register p).Ends r () { r with
      plugins := r.plugins.set p.language p
      extensions := claimed p.language exts r.extensions } := by
  have hitems : p.extensionItems = .ok (exts.map .text) := by
    rw [Plugin.extensionItems, h]
    rfl
  rw [register, hitems]
  refine Action.ends_state.bind ?_
  -- the note about an earlier plugin changes nothing
  split
  · exact (Action.ends_note _ _ _).bind ((Action.ends_change _).bind ((Action.ends_ofExcept _).bind
      ((ends_claim p.language exts _).bind (Action.ends_note _ _ _))))
  · exact (Action.ends_change _).bind ((Action.ends_ofExcept _).bind
      ((ends_claim p.language exts _).bind (Action.ends_note _ _ _)))

theorem ends_unregister_of_none {language : String} {r : Registry}
    (h : r.plugins.find? language = none) : (unregister language).Ends r false r := by
  rw [unregister]
  refine Action.ends_state.bind ?_
  rw [h]
  exact Action.ends_pure false

theorem ends_unregister_of_some {language : String} {r : Registry} {p : Plugin} {exts : List String}
    (h : r.plugins.find? language = some p) (hexts : p.extensions = some (.list (exts.map .text))) :
    (unregister language).Ends r true { r with
      plugins := r.plugins.drop language
      extensions := released language exts r.extensions } := by
  have hitems : p.extensionItems = .ok (exts.map .text) := by
    rw [Plugin.extensionItems, hexts]
    rfl
  rw [unregister]
  refine Action.ends_state.bind ?_
  rw [h]
  dsimp only
  rw [hitems]
  exact (Action.ends_ofExcept _).bind ((ends_release language exts r).bind
    ((Action.ends_change _).bind ((Action.ends_note _ _ _).bind (Action.ends_pure true))))

/-- A registration sets the plugin of its language, and the language of every extension that the plugin
    declares. -/
theorem perform_register {p : Plugin} (h : p.Listed) (r : Registry) :
    (∀ language, (r.perform (.register p)).plugin? language =
      if language = p.language then some p else r.plugin? language) ∧
    ∀ e, (r.perform (.register p)).extensions.find? e =
      if p.declares e = true then some p.language else r.extensions.find? e := by
  obtain ⟨exts, hexts⟩ := h
  obtain ⟨records, hrun⟩ := ends_register hexts r
  refine ⟨fun language => ?_, fun e => ?_⟩
  · rw [perform, hrun, plugin?, plugin?, Assoc.find?_set]
  · rw [perform, hrun, find?_claimed]
    simp only [Plugin.declares_iff hexts]

/-- Taking a language out drops its plugin, and the extensions that are its own and that its plugin
    declares. -/
theorem perform_unregister {language : String} {r : Registry}
    (h : ∀ p, r.plugin? language = some p → p.Listed) :
    (∀ other, (r.perform (.unregister language)).plugin? other =
      if other = language then none else r.plugin? other) ∧
    ∀ e owner, (r.perform (.unregister language)).extensions.find? e = some owner ↔
      r.extensions.find? e = some owner ∧
        (language = owner → ∀ p, r.plugin? owner = some p → p.declares e = false) := by
  cases hp : r.plugins.find? language with
  | none =>
    obtain ⟨records, hrun⟩ := ends_unregister_of_none hp
    rw [perform, hrun]
    refine ⟨fun other => ?_, fun e owner => ?_⟩
    · split
      · next hother => rw [hother]; exact hp
      · rfl
    · refine ⟨fun he => ⟨he, ?_⟩, And.left⟩
      rintro rfl p hp'
      rw [plugin?, hp] at hp'
      nomatch hp'
  | some p =>
    obtain ⟨exts, hexts⟩ := h p hp
    obtain ⟨records, hrun⟩ := ends_unregister_of_some hp hexts
    rw [perform, hrun]
    refine ⟨fun other => Assoc.find?_drop language other r.plugins, fun e owner => ?_⟩
    show (released language exts r.extensions).find? e = some owner ↔ _
    rw [find?_released_eq_some_iff]
    refine and_congr_right fun _ => ?_
    constructor
    · rintro hkept rfl p' hp'
      obtain rfl : p = p' := Option.some.inj (hp.symm.trans hp')
      rw [Bool.eq_false_iff]
      exact fun hd => hkept ⟨(Plugin.declares_iff hexts e).mp hd, rfl⟩
    · rintro hfree ⟨hmem, rfl⟩
      have hd := (Plugin.declares_iff hexts e).mpr hmem
      rw [hfree rfl p hp] at hd
      nomatch hd

end Registry

/-! ## Histories -/

/-- At some point of the run `start` happened, and each event after it was harmless, given what had
    happened before that event. -/
def Since {α : Type} (start : α → Prop) (harmless : List α → α → Prop) (run : List α) : Prop :=
  ∃ before x after, run = before ++ x :: after ∧ start x ∧
    ∀ mid y rest, after = mid ++ y :: rest → harmless (before ++ x :: mid) y

section Since

variable {α : Type} {start : α → Prop} {harmless : List α → α → Prop}

theorem not_since_nil : ¬Since start harmless [] := by
  rintro ⟨before, x, after, hrun, -⟩
  exact List.append_ne_nil_of_right_ne_nil before (List.cons_ne_nil x after) hrun.symm

theorem Since.exists_mem {run : List α} (h : Since start harmless run) : ∃ x ∈ run, start x := by
  obtain ⟨before, x, after, rfl, hstart, -⟩ := h
  exact ⟨x, List.mem_append_right before List.mem_cons_self, hstart⟩

/-- With one more event: either it is the start, or the start was before and the event is harmless. -/
theorem since_snoc {run : List α} {y : α} :
    Since start harmless (run ++ [y]) ↔ start y ∨ harmless run y ∧ Since start harmless run := by
  constructor
  · rintro ⟨before, x, after, hrun, hstart, hafter⟩
    rcases List.eq_nil_or_concat after with rfl | ⟨mid, z, rfl⟩
    · -- the start is the last event
      obtain ⟨-, hy⟩ := List.append_inj' hrun rfl
      obtain rfl := List.singleton_inj.mp hy
      exact .inl hstart
    · have hsplit : run ++ [y] = (before ++ x :: mid) ++ [z] := by rw [hrun]; simp
      obtain ⟨rfl, hy⟩ := List.append_inj' hsplit rfl
      obtain rfl := List.singleton_inj.mp hy
      refine .inr ⟨hafter mid y [] (by simp), before, x, mid, rfl, hstart, ?_⟩
      rintro first w rest rfl
      exact hafter first w (rest ++ [y]) (by simp)
  · rintro (hstart | ⟨hlast, before, x, after, rfl, hstart, hafter⟩)
    · refine ⟨run, y, [], rfl, hstart, ?_⟩
      intro mid z rest hnil
      exact absurd hnil.symm (List.append_ne_nil_of_right_ne_nil mid (List.cons_ne_nil z rest))
    · refine ⟨before, x, after ++ [y], by simp, hstart, ?_⟩
      intro mid z rest hmid
      rcases List.eq_nil_or_concat rest with rfl | ⟨others, w, rfl⟩
      · obtain ⟨rfl, hz⟩ := List.append_inj' hmid rfl
        obtain rfl := List.singleton_inj.mp hz
        exact hlast
      · have hsplit : after ++ [y] = (mid ++ z :: others) ++ [w] := by rw [hmid]; simp
        obtain ⟨rfl, -⟩ := List.append_inj' hsplit rfl
        exact hafter mid z others rfl

end Since

namespace Registry

/-- The request changes the plugin of the language. -/
def Request.Concerns (language : String) : Request → Prop
  | .register p => p.language = language
  | .unregister other => other = language

/-- `p` is the plugin that was registered last under the language, and was not taken out since. -/
def Current (run : List Request) (language : String) (p : Plugin) : Prop :=
  Since (fun q => q = .register p ∧ p.language = language) (fun _ q => ¬q.Concerns language) run

/-- The last registration that declares the extension was of the language, and from then on the language
    was never taken out while its plugin at that time declared the extension. -/
def Owned (run : List Request) (ext language : String) : Prop :=
  Since (fun q => ∃ p, q = .register p ∧ p.language = language ∧ p.declares ext = true)
    (fun past q => match q with
      | .register p => p.declares ext = false
      | .unregister other =>
        other = language → ∀ p, Current past language p → p.declares ext = false) run

/-- The plugins of a proper run have lists of texts as their extensions. -/
theorem Current.listed {run : List Request} {language : String} {p : Plugin}
    (hp : Current run language p) (h : ∀ q ∈ run, q.Proper) : p.Listed := by
  obtain ⟨q, hq, rfl, -⟩ := hp.exists_mem
  exact (h _ hq).2

/-- In a proper run every owner of an extension has a name. -/
theorem Owned.language_ne_empty {run : List Request} {ext language : String}
    (howned : Owned run ext language) (h : ∀ q ∈ run, q.Proper) : language ≠ "" := by
  obtain ⟨q, hq, p, rfl, rfl, -⟩ := howned.exists_mem
  exact (h _ hq).1

/-- A registration is the last one of its language. -/
theorem current_snoc_register {run : List Request} {p p' : Plugin} {language : String} :
    Current (run ++ [.register p]) language p' ↔
      if language = p.language then p = p' else Current run language p' := by
  rw [Current, since_snoc, ← Current, Request.register.injEq]
  show (p = p' ∧ p'.language = language) ∨ ¬p.language = language ∧ Current run language p' ↔ _
  split
  · next h =>
    constructor
    · rintro (⟨heq, -⟩ | ⟨hne, -⟩)
      · exact heq
      · exact absurd h.symm hne
    · rintro rfl
      exact .inl ⟨rfl, h.symm⟩
  · next h =>
    constructor
    · rintro (⟨rfl, hlanguage⟩ | ⟨-, hcurrent⟩)
      · exact absurd hlanguage.symm h
      · exact hcurrent
    · exact fun hcurrent => .inr ⟨fun hlanguage => h hlanguage.symm, hcurrent⟩

theorem current_snoc_unregister {run : List Request} {p : Plugin} {other language : String} :
    Current (run ++ [.unregister other]) language p ↔
      language ≠ other ∧ Current run language p := by
  rw [Current, since_snoc, ← Current]
  show (_ ∧ _) ∨ ¬other = language ∧ Current run language p ↔ _
  simp [eq_comm]

/-- A registration takes over the extensions that it declares. -/
theorem owned_snoc_register {run : List Request} {p : Plugin} {ext language : String} :
    Owned (run ++ [.register p]) ext language ↔
      if p.declares ext = true then p.language = language else Owned run ext language := by
  have hstart : (∃ p', Request.register p = .register p' ∧ p'.language = language ∧
      p'.declares ext = true) ↔ p.language = language ∧ p.declares ext = true := by
    simp
  rw [Owned, since_snoc, ← Owned, hstart]
  show _ ∨ p.declares ext = false ∧ Owned run ext language ↔ _
  cases p.declares ext with
  | true => simp
  | false => simp

theorem owned_snoc_unregister {run : List Request} {other ext language : String} :
    Owned (run ++ [.unregister other]) ext language ↔ Owned run ext language ∧
      (other = language → ∀ p, Current run language p → p.declares ext = false) := by
  rw [Owned, since_snoc, ← Owned]
  simp [and_comm]

/-- **The run.**  The tables after a proper run are what its history says. -/
theorem tables_after {run : List Request} (h : ∀ q ∈ run, q.Proper) :
    (∀ language p, (after run).plugin? language = some p ↔ Current run language p) ∧
    ∀ ext language, (after run).extensions.find? ext = some language ↔ Owned run ext language := by
  induction run using List.reverseRecOn with
  | nil =>
    exact ⟨fun language p => iff_of_false (fun hnone => nomatch hnone) not_since_nil,
      fun ext language => iff_of_false (fun hnone => nomatch hnone) not_since_nil⟩
  | append_singleton run q ih =>
    have hrun : ∀ q' ∈ run, q'.Proper := fun q' hq' => h q' (List.mem_append_left _ hq')
    have hq : q.Proper := h q (by simp)
    obtain ⟨hplugins, hextensions⟩ := ih hrun
    rw [after_snoc]
    cases q with
    | register p =>
      obtain ⟨hplugin, hextension⟩ := perform_register hq.2 (after run)
      refine ⟨fun language p' => ?_, fun ext language => ?_⟩
      · rw [hplugin, current_snoc_register]
        split
        · exact Option.some_inj
        · exact hplugins language p'
      · rw [hextension, owned_snoc_register]
        split
        · exact Option.some_inj
        · exact hextensions ext language
    | unregister other =>
      obtain ⟨hplugin, hextension⟩ := perform_unregister fun p hp =>
        ((hplugins other p).mp hp).listed hrun
      refine ⟨fun language p => ?_, fun ext language => ?_⟩
      · rw [hplugin, current_snoc_unregister]
        split
        · next heq => simp [heq]
        · next hne => rw [hplugins, and_iff_right hne]
      · rw [hextension, owned_snoc_unregister, hextensions]
        simp only [hplugins]

/-! ## Looking a file up -/

/-- A file gets the plugin of the language that owns its extension. -/
theorem pluginFor_eq_some_iff {r : Registry} (h : ∀ e, r.extensions.find? e ≠ some "") {path : String}
    {p : Plugin} :
    (r.pluginFor path).1 = some p ↔
      ∃ language, r.extensions.find? (Text.lower (Path.ofString path).suffix) = some language ∧
        r.plugin? language = some p := by
  rw [pluginFor, fileExtension]
  cases hfind : r.extensions.find? (Text.lower (Path.ofString path).suffix) with
  | none => simp
  | some language =>
    have hne : language.isEmpty = false := by
      rw [Bool.eq_false_iff, ne_eq, String.isEmpty_iff]
      rintro rfl
      exact h _ hfind
    simp [hne]

/-- No language without a name comes to own an extension. -/
theorem owner_ne_empty {run : List Request} (h : ∀ q ∈ run, q.Proper) (e : String) :
    (after run).extensions.find? e ≠ some "" := by
  intro hfind
  have howned : Owned run e "" := ((tables_after h).2 e "").mp hfind
  exact howned.language_ne_empty h rfl

/-- **Extensions follow the history.**  After any proper run an extension belongs to a language exactly if
    the last registration that declares it was of that language and the language was not taken out since
    while its plugin declared it.  A file gets the plugin registered last under the language that owns its
    extension, and none if there is no such language or its plugin was taken out. -/
theorem extensions_follow_history {run : List Request} (h : ∀ q ∈ run, q.Proper) :
    (∀ ext language, (after run).extensions.find? ext = some language ↔ Owned run ext language) ∧
    ∀ path ext, Text.lower (Path.ofString path).suffix = ext →
      (∀ p, ((after run).pluginFor path).1 = some p ↔
        ∃ language, Owned run ext language ∧ Current run language p) ∧
      (((after run).pluginFor path).1 = none ↔
        (∀ language, ¬Owned run ext language) ∨
          ∃ language, Owned run ext language ∧ ∀ p, ¬Current run language p) := by
  obtain ⟨hplugins, hextensions⟩ := tables_after h
  refine ⟨hextensions, ?_⟩
  rintro path ext rfl
  have hsome (p : Plugin) : ((after run).pluginFor path).1 = some p ↔
      ∃ language, Owned run (Text.lower (Path.ofString path).suffix) language ∧
        Current run language p := by
    simp only [pluginFor_eq_some_iff (owner_ne_empty h), hextensions, hplugins]
  refine ⟨hsome, fun hnone => ?_, ?_⟩
  · by_cases howned : ∃ language, Owned run (Text.lower (Path.ofString path).suffix) language
    · obtain ⟨language, hlanguage⟩ := howned
      refine .inr ⟨language, hlanguage, fun p hp => ?_⟩
      have hfound := (hsome p).mpr ⟨language, hlanguage, hp⟩
      rw [hnone] at hfound
      nomatch hfound
    · exact .inl fun language hlanguage => howned ⟨language, hlanguage⟩
  · intro hmissing
    rw [Option.eq_none_iff_forall_ne_some]
    intro p hp
    obtain ⟨language, hlanguage, hcurrent⟩ := (hsome p).mp hp
    rcases hmissing with hunowned | ⟨other, hother, hgone⟩
    · exact hunowned language hlanguage
    · -- an extension has one owner
      have howners := ((hextensions _ _).mpr hlanguage).symm.trans ((hextensions _ _).mpr hother)
      exact hgone p (Option.some.inj howners ▸ hcurrent)

/-- Two languages share an extension, one of them is overwritten and the other one taken out. -/
theorem extensions_follow_history_overwritten :
    let plugin (language : String) (exts : List String) (serial : Nat) : Plugin :=
      .ofLines language (.list (exts.map .text)) serial
    let newer := plugin "lua" [".luau"] 3
    let run : List Request := [.register (plugin "lua" [".LUA", ".x"] 1),
      .register (plugin "moon" [".X"] 2), .register newer, .unregister "moon"]
    (∀ q ∈ run, q.Proper) ∧ Owned run ".lua" "lua" ∧ (∀ language, ¬Owned run ".x" language) ∧
      ((after run).pluginFor "dir/a.Lua").1 = some newer ∧ Current run "lua" newer ∧
      ((after run).pluginFor "b.x").1 = none := by
  intro plugin newer run
  have hproper : ∀ q ∈ run, q.Proper := by
    simp only [run, List.forall_mem_cons]
    exact ⟨⟨by decide, _, rfl⟩, ⟨by decide, _, rfl⟩, ⟨by decide, _, rfl⟩, trivial,
      fun _ hq => absurd hq List.not_mem_nil⟩
  have hextensions : (after run).extensions = [(".lua", "lua"), (".luau", "lua")] := by decide +kernel
  have hplugins : (after run).plugins = [("lua", newer)] := rfl
  obtain ⟨howned, hfiles⟩ := extensions_follow_history hproper
  have hlua : Owned run ".lua" "lua" := (howned _ _).mp (by rw [hextensions]; rfl)
  have hnone : ∀ language, ¬Owned run ".x" language := by
    intro language h
    have hfind := (howned ".x" language).mpr h
    rw [hextensions] at hfind
    nomatch hfind
  have hcurrent : Current run "lua" newer :=
    ((tables_after hproper).1 _ _).mp (by rw [plugin?, hplugins]; rfl)
  exact ⟨hproper, hlua, hnone,
    ((hfiles "dir/a.Lua" ".lua" (by decide +kernel)).1 newer).mpr ⟨"lua", hlua, hcurrent⟩, hcurrent,
    (hfiles "b.x" ".x" (by decide +kernel)).2.mpr (.inl hnone)⟩

/-! ## Stale extensions -/

/-- Every extension that is listed belongs to a language that is registered and whose plugin declares
    the extension. -/
def Backed (r : Registry) : Prop :=
  ∀ e ∈ r.fileExtensions, ∃ language p,
    r.extensions.find? e = some language ∧ r.plugin? language = some p ∧ p.declares e = true

/-- A registration declares all the extensions that its language has already. -/
def Request.Covers (r : Registry) : Request → Prop
  | .register p => ∀ e, r.extensions.find? e = some p.language → p.declares e = true
  | .unregister _ => True

theorem mem_fileExtensions_iff {r : Registry} {e : String} :
    e ∈ r.fileExtensions ↔ ∃ language, r.extensions.find? e = some language := by
  rw [← Option.isSome_iff_exists, Assoc.find?_isSome, Assoc.contains, fileExtensions, Assoc.keys]
  simp

/-- **The step.**  Where every extension is backed, only a registration that does not declare all the
    extensions of its language leaves one behind. -/
theorem Backed.perform_iff {r : Registry} (h : r.Backed) {q : Request} (hq : q.Proper)
    (hlisted : ∀ language p, r.plugin? language = some p → p.Listed) :
    (r.perform q).Backed ↔ q.Covers r := by
  cases q with
  | register p =>
    obtain ⟨hplugin, hextension⟩ := perform_register hq.2 r
    constructor
    · -- an extension that the language had is still its own, and `p` is its plugin now
      intro hbacked e he
      have howner : (r.perform (.register p)).extensions.find? e = some p.language := by
        rw [hextension]
        split
        · rfl
        · exact he
      obtain ⟨language, p', hfind, hp', hdeclares⟩ :=
        hbacked e (mem_fileExtensions_iff.mpr ⟨_, howner⟩)
      obtain rfl := Option.some.inj (howner.symm.trans hfind)
      rw [hplugin, if_pos rfl] at hp'
      exact Option.some.inj hp' ▸ hdeclares
    · intro hcovers e he
      obtain ⟨language, hfind⟩ := mem_fileExtensions_iff.mp he
      refine ⟨language, ?_⟩
      by_cases hdeclares : p.declares e = true
      · obtain rfl : p.language = language := by
          rw [hextension, if_pos hdeclares] at hfind
          exact Option.some.inj hfind
        exact ⟨p, hfind, by rw [hplugin, if_pos rfl], hdeclares⟩
      · have hold : r.extensions.find? e = some language := by
          rwa [hextension, if_neg hdeclares] at hfind
        have hne : language ≠ p.language := fun heq => hdeclares (hcovers e (heq ▸ hold))
        obtain ⟨other, p', hother, hp', hd⟩ := h e (mem_fileExtensions_iff.mpr ⟨_, hold⟩)
        obtain rfl := Option.some.inj (hold.symm.trans hother)
        exact ⟨p', hfind, by rw [hplugin, if_neg hne, hp'], hd⟩
  | unregister language =>
    obtain ⟨hplugin, hextension⟩ := perform_unregister (hlisted language)
    refine iff_of_true ?_ trivial
    intro e he
    obtain ⟨owner, hfind⟩ := mem_fileExtensions_iff.mp he
    obtain ⟨hold, hkept⟩ := (hextension e owner).mp hfind
    obtain ⟨other, p, hother, hp, hd⟩ := h e (mem_fileExtensions_iff.mpr ⟨_, hold⟩)
    obtain rfl := Option.some.inj (hold.symm.trans hother)
    -- an extension of the language itself was declared by its plugin, and so is gone
    have hne : owner ≠ language := by
      rintro rfl
      rw [hkept rfl p hp] at hd
      nomatch hd
    exact ⟨owner, p, hfind, by rw [hplugin, if_neg hne, hp], hd⟩

/-- **The run.**  Every registry of the run is backed exactly if every request covers what its language
    has. -/
theorem backed_prefixes_iff {run : List Request} (h : ∀ q ∈ run, q.Proper) :
    (∀ past, past <+: run → (after past).Backed) ↔
      ∀ past q, past ++ [q] <+: run → q.Covers (after past) := by
  induction run using List.reverseRecOn with
  | nil =>
    refine iff_of_true (fun past hpast => ?_) fun past q hpast => ?_
    · obtain rfl := List.prefix_nil.mp hpast
      exact fun e he => absurd he List.not_mem_nil
    · exact absurd (List.prefix_nil.mp hpast) (by simp)
  | append_singleton run q ih =>
    have hrun : ∀ q' ∈ run, q'.Proper := fun q' hq' => h q' (List.mem_append_left _ hq')
    have hbacked : (∀ past, past <+: run ++ [q] → (after past).Backed) ↔
        (∀ past, past <+: run → (after past).Backed) ∧ (after (run ++ [q])).Backed := by
      simp only [List.prefix_concat_iff, or_imp, forall_and, forall_eq]
      exact and_comm
    have hcovers : (∀ past q', past ++ [q'] <+: run ++ [q] → q'.Covers (after past)) ↔
        (∀ past q', past ++ [q'] <+: run → q'.Covers (after past)) ∧ q.Covers (after run) := by
      simp only [List.prefix_concat_iff, or_imp, forall_and]
      rw [and_comm]
      refine and_congr_right fun _ => ⟨fun hlast => hlast run q rfl, fun hlast past q' heq => ?_⟩
      obtain ⟨rfl, hq⟩ := List.append_inj' heq rfl
      exact List.singleton_inj.mp hq ▸ hlast
    rw [hbacked, hcovers, ih hrun, after_snoc]
    refine and_congr_right fun hall => ?_
    have hnow : (after run).Backed := (ih hrun).mpr hall run List.prefix_rfl
    exact hnow.perform_iff (h q (by simp)) fun language p hp =>
      (((tables_after hrun).1 language p).mp hp).listed hrun

/-- **Where extensions go stale.**  All through a proper run every listed extension is backed by a plugin
    exactly if each registration declares all the extensions that its language has at that time.  Where
    every extension is backed, a file with a listed extension gets a plugin that declares it. -/
theorem backed_along_iff {run : List Request} (h : ∀ q ∈ run, q.Proper) :
    ((∀ past, past <+: run → (after past).Backed) ↔
      ∀ past q, past ++ [q] <+: run → q.Covers (after past)) ∧
    ((after run).Backed → ∀ path ext, Text.lower (Path.ofString path).suffix = ext →
      ext ∈ (after run).fileExtensions →
        ∃ p, ((after run).pluginFor path).1 = some p ∧ p.declares ext = true) := by
  refine ⟨backed_prefixes_iff h, ?_⟩
  rintro hbacked path ext rfl hext
  obtain ⟨language, p, hfind, hp, hdeclares⟩ := hbacked _ hext
  exact ⟨p, (pluginFor_eq_some_iff (owner_ne_empty h)).mpr ⟨language, hfind, hp⟩, hdeclares⟩

/-- A language that is overwritten by a plugin with one more extension. -/
theorem backed_along_iff_widened :
    let plugin (exts : List String) (serial : Nat) : Plugin :=
      .ofLines "lua" (.list (exts.map .text)) serial
    let run : List Request := [.register (plugin [".lua"] 1), .register (plugin [".LUA", ".luau"] 2)]
    (∀ q ∈ run, q.Proper) ∧ (∀ past, past <+: run → (after past).Backed) ∧
      ".luau" ∈ (after run).fileExtensions ∧
      ∃ p, ((after run).pluginFor "x.LuaU").1 = some p ∧ p.declares ".luau" = true := by
  intro plugin run
  have hproper : ∀ q ∈ run, q.Proper := by
    simp only [run, List.forall_mem_cons]
    exact ⟨⟨by decide, _, rfl⟩, ⟨by decide, _, rfl⟩, fun _ hq => absurd hq List.not_mem_nil⟩
  have hcovers : ∀ past q, past ++ [q] <+: run → q.Covers (after past) := by
    intro past q hpast
    rcases past with _ | ⟨x, _ | ⟨y, rest⟩⟩
    · obtain rfl : q = .register (plugin [".lua"] 1) := by simpa [run] using hpast
      exact fun e he => nomatch he
    · obtain ⟨rfl, rfl⟩ : x = .register (plugin [".lua"] 1) ∧
          q = .register (plugin [".LUA", ".luau"] 2) := by
        simpa [run] using hpast
      intro e he
      have howners : (after [.register (plugin [".lua"] 1)]).extensions = [(".lua", "lua")] := by
        decide +kernel
      rw [howners, Assoc.find?_cons] at he
      split at he
      · next heq =>
        subst heq
        rfl
      · nomatch he
    · have hlength := hpast.length_le
      simp [run] at hlength
  obtain ⟨halong, hfiles⟩ := backed_along_iff hproper
  have hbacked := halong.mpr hcovers
  have hlisted : ".luau" ∈ (after run).fileExtensions := by decide +kernel
  exact ⟨hproper, hbacked, hlisted,
    hfiles (hbacked run List.prefix_rfl) "x.LuaU" ".luau" (by decide +kernel) hlisted⟩

/-- A language is overwritten by a plugin without the old extension and then taken out: the extension is
    still listed, though there is no plugin any more. -/
theorem overwritten_extension_stale :
    let plugin (ext : String) (serial : Nat) : Plugin := .ofLines "lua" (.list [.text ext]) serial
    let run : List Request :=
      [.register (plugin ".lua" 1), .register (plugin ".luau" 2), .unregister "lua"]
    (∀ q ∈ run, q.Proper) ∧ (after run).languages = [] ∧ (after run).fileExtensions = [".lua"] ∧
      ((after run).pluginFor "x.lua").1 = none ∧ ¬(after run).Backed := by
  intro plugin run
  have hproper : ∀ q ∈ run, q.Proper := by
    simp only [run, List.forall_mem_cons]
    exact ⟨⟨by decide, [".lua"], rfl⟩, ⟨by decide, [".luau"], rfl⟩, trivial,
      fun _ hq => absurd hq List.not_mem_nil⟩
  have hplugins : (after run).plugins = [] := rfl
  have hextensions : (after run).extensions = [(".lua", "lua")] := by decide +kernel
  refine ⟨hproper, by rw [languages, hplugins]; rfl, by rw [fileExtensions, hextensions]; rfl, ?_,
    fun hbacked => ?_⟩
  · rw [Option.eq_none_iff_forall_ne_some]
    intro p hp
    obtain ⟨language, -, hlanguage⟩ := (pluginFor_eq_some_iff (owner_ne_empty hproper)).mp hp
    rw [plugin?, hplugins] at hlanguage
    nomatch hlanguage
  · have hlisted : ".lua" ∈ (after run).fileExtensions := by
      rw [fileExtensions, hextensions]
      exact List.mem_singleton_self ".lua"
    obtain ⟨language, p, -, hp, -⟩ := hbacked ".lua" hlisted
    rw [plugin?, hplugins] at hp
    nomatch hp

end Registry

end Flowchart
