/-
  What the arguments of a command ask for.

  Arguments are taken from the front, an option together with its value, and the input where it first can
  stand.  On the way no option is lost, none is taken for the value of another, and none is made up: the
  arguments that come out ask for an option exactly if one of those that went in names it.

  1. **One option** — reading an option finds just that option, unless it finds a call for help, which ends
     everything (`unfold_cases`).

  2. **The step** — `Reads` says what taking some tokens does to what was taken before.  It holds of one
     option with its value and of tokens that are no options, and what holds of two stretches one after
     the other holds of both together (`Reads.trans`).

  3. **The run** — by induction on the fuel, of which there is always enough, all tokens are read
     (`reads_take`).

  4. **Spelling** — an argument names an option by any beginning of its name that begins no other
     (`Spells`), and an option is asked for exactly if an argument before the divider does so
     (`asks_iff_spelled`).
-/
import Flowchart.CommandLine.Arguments
import Mathlib.Data.List.Infix
import Mathlib.Data.List.TakeWhile

namespace Flowchart.CommandLine

/-! ## Asking -/

/-- The arguments say something about an option. -/
def Arguments.asks (a : Arguments) : Switch → Bool
  | .help => false
  | .output => a.output.isSome
  | .noMarkdown => a.noMarkdown
  | .labelElseif => a.labelElseif
  | .logLevel => a.logLevel.isSome

/-- Taking an option is asking for it; a log level has to be one of those to choose from. -/
theorem asks_of_apply {a a' : Arguments} {s : Switch} {value : String} (h : apply a s value = .ok a') :
    (∀ s', a'.asks s' = true ↔ a.asks s' = true ∨ s' = s) ∧
      ∀ level, a'.logLevel = some level → a.logLevel = some level ∨ level ∈ logLevels := by
  cases s with
  | help => nomatch h
  | output =>
    obtain rfl := Except.ok.inj h
    exact ⟨fun s' => by cases s' <;> simp [Arguments.asks], fun _ => .inl⟩
  | noMarkdown =>
    obtain rfl := Except.ok.inj h
    exact ⟨fun s' => by cases s' <;> simp [Arguments.asks], fun _ => .inl⟩
  | labelElseif =>
    obtain rfl := Except.ok.inj h
    exact ⟨fun s' => by cases s' <;> simp [Arguments.asks], fun _ => .inl⟩
  | logLevel =>
    unfold apply at h
    dsimp only at h
    split at h
    · next hmem =>
      obtain rfl := Except.ok.inj h
      refine ⟨fun s' => by cases s' <;> simp [Arguments.asks], fun level hlevel => .inr ?_⟩
      obtain rfl := Option.some.inj hlevel
      exact List.contains_iff_mem.mp hmem
    · nomatch h

/-! ## One option -/

/-- A call for help ends everything. -/
theorem applyAll_help (a : Arguments) (value : String) (found : List (Switch × String)) :
    applyAll a ((.help, value) :: found) = .error .help := rfl

theorem applyAll_single (a : Arguments) (s : Switch) (value : String) :
    applyAll a [(s, value)] = apply a s value := by
  rw [applyAll]
  cases apply a s value with
  | error e => rfl
  | ok a' => rfl

/-- Reading an option finds a call for help, or just that option with its value, which is glued to it or
    the free token after it. -/
theorem unfold_cases {s : Switch} {short : Bool} {glued : Option Glued} {rest : List Token} {fuel : Nat}
    {u : Unfolded} (hshort : short = true → s.takesValue = false → s = .help)
    (h : unfold s short glued rest (fuel + 1) = .ok u) :
    (∃ value more, u.found = (.help, value) :: more) ∨
      ∃ value taken, u.found = [(s, value)] ∧ rest = taken ++ u.rest ∧ (∀ t ∈ taken, t.mark = .free) ∧
        (s.takesValue = false → glued = none) := by
  rw [unfold.eq_def] at h
  dsimp only at h
  cases hvalue : s.takesValue with
  | true =>
    rw [hvalue] at h
    right
    cases glued with
    | some g =>
      obtain rfl := Except.ok.inj h
      exact ⟨_, [], rfl, rfl, by simp, nofun⟩
    | none =>
      dsimp only at h
      rw [if_pos rfl] at h
      split at h
      · next value rest' =>
        obtain rfl := Except.ok.inj h
        exact ⟨value, [⟨value, .free⟩], rfl, rfl, by simp, nofun⟩
      · nomatch h
  | false =>
    rw [hvalue] at h
    cases glued with
    | none =>
      obtain rfl := Except.ok.inj h
      exact .inr ⟨_, [], rfl, rfl, by simp, fun _ => rfl⟩
    | some g =>
      -- only letters may have something glued to them, and the only one without a value calls for help
      left
      dsimp only at h
      rw [if_neg Bool.false_ne_true] at h
      split at h
      · next c more _ =>
        obtain rfl := hshort rfl hvalue
        split at h
        · nomatch h
        · split at h
          · next next' _ =>
            cases hnext : unfold next' true (gluedTo more) rest fuel with
            | error e =>
              rw [hnext] at h
              nomatch h
            | ok others =>
              rw [hnext] at h
              obtain rfl := Except.ok.inj h
              exact ⟨_, _, rfl⟩
          · obtain rfl := Except.ok.inj h
            exact ⟨_, _, rfl⟩
      · nomatch h

/-! ## The step -/

namespace Token

/-- The option that a token names. -/
def switch? (t : Token) : Option Switch :=
  match t.mark with
  | .option s _ _ => s
  | _ => none

/-- The token names an option by one of its names. -/
def Listed (t : Token) : Prop :=
  ∀ s name glued, t.mark = .option (some s) name glued → (name, s) ∈ namedSwitches

/-- The token glues no value to an option that takes none. -/
def Bare (t : Token) : Prop :=
  ∀ s name glued, t.mark = .option (some s) name glued → s.takesValue = false → glued = none

theorem switch?_of_not_isOption {t : Token} (h : t.isOption = false) : t.switch? = none := by
  obtain ⟨text, mark⟩ := t
  cases mark with
  | option s name glued => nomatch h
  | free => rfl
  | divider => rfl

theorem bare_of_switch? {t : Token} (h : t.switch? = none) : t.Bare := by
  intro s name glued hmark
  rw [switch?, hmark] at h
  nomatch h

end Token

/-- Taking the tokens makes `a'` of the arguments `a`: what they name is asked for besides what was, every
    option among them stands as it should, and a new log level is one of those to choose from. -/
structure Reads (a : Arguments) (tokens : List Token) (a' : Arguments) : Prop where
  asks : ∀ s, a'.asks s = true ↔ a.asks s = true ∨ ∃ tok ∈ tokens, tok.switch? = some s
  bare : ∀ tok ∈ tokens, tok.Bare
  level : ∀ level, a'.logLevel = some level → a.logLevel = some level ∨ level ∈ logLevels

namespace Reads

variable {a a' a'' : Arguments} {tokens more : List Token}

theorem trans (h : Reads a tokens a') (h' : Reads a' more a'') : Reads a (tokens ++ more) a'' where
  asks s := by
    rw [h'.asks, h.asks, or_assoc]
    simp only [List.mem_append, or_and_right, exists_or]
  bare tok htok := (List.mem_append.mp htok).elim (h.bare tok) (h'.bare tok)
  level level hlevel := by
    rcases h'.level level hlevel with hbefore | hmem
    · exact h.level level hbefore
    · exact .inr hmem

/-- Tokens that name no option ask for none. -/
theorem of_unnamed (hnone : ∀ tok ∈ tokens, tok.switch? = none) (hasks : ∀ s, a'.asks s = a.asks s)
    (hlevel : a'.logLevel = a.logLevel) : Reads a tokens a' where
  asks s := by
    rw [hasks]
    refine ⟨.inl, ?_⟩
    rintro (h | ⟨tok, htok, hs⟩)
    · exact h
    · rw [hnone tok htok] at hs
      nomatch hs
  bare tok htok := Token.bare_of_switch? (hnone tok htok)
  level level h := .inl (hlevel ▸ h)

/-- An option that was named and has been applied. -/
theorem of_apply {s : Switch} {name value : String} {glued : Option Glued} (text : String)
    (hbare : s.takesValue = false → glued = none) (happly : apply a s value = .ok a') :
    Reads a [⟨text, .option (some s) name glued⟩] a' where
  asks s' := by
    rw [(asks_of_apply happly).1]
    refine or_congr_right ⟨fun h => ⟨_, List.mem_singleton_self _, congrArg some h.symm⟩, ?_⟩
    rintro ⟨tok, htok, hs⟩
    obtain rfl := List.mem_singleton.mp htok
    exact (Option.some.inj hs).symm
  bare tok htok s' name' glued' hmark := by
    obtain rfl := List.mem_singleton.mp htok
    obtain ⟨⟨rfl⟩, -, rfl⟩ := Mark.option.inj hmark
    exact hbare
  level := (asks_of_apply happly).2

end Reads

/-- Of the options that are named by one letter only the call for help takes no value. -/
theorem help_of_short {name : String} {s : Switch} (h : (name, s) ∈ namedSwitches)
    (hshort : (name.length == 2) = true) (hvalue : s.takesValue = false) : s = .help := by
  have hall : ∀ e ∈ namedSwitches, (e.1.length == 2) = true → e.2.takesValue = false → e.2 = .help := by
    decide +kernel
  exact hall _ h hshort hvalue

/-- Reading an option and applying what was found takes the option and perhaps the free token after it. -/
theorem reads_unfold {a a' : Arguments} {s : Switch} {name : String} {glued : Option Glued}
    {rest : List Token} {fuel : Nat} {u : Unfolded} (text : String) (hlisted : (name, s) ∈ namedSwitches)
    (hunfold : unfold s (name.length == 2) glued rest (fuel + 1) = .ok u)
    (happly : applyAll a u.found = .ok a') :
    ∃ taken, ⟨text, .option (some s) name glued⟩ :: rest = taken ++ u.rest ∧ taken ≠ [] ∧
      Reads a taken a' := by
  rcases unfold_cases (help_of_short hlisted) hunfold with
    ⟨value, more, hfound⟩ | ⟨value, taken, hfound, rfl, hfree, hbare⟩
  · rw [hfound, applyAll_help] at happly
    nomatch happly
  · rw [hfound, applyAll_single] at happly
    have hnone : ∀ tok ∈ taken, tok.switch? = none := by
      intro tok htok
      rw [Token.switch?, hfree tok htok]
    refine ⟨⟨text, .option (some s) name glued⟩ :: taken, rfl, List.cons_ne_nil _ _, ?_⟩
    exact (Reads.of_apply text hbare happly).trans (.of_unnamed hnone (fun _ => rfl) rfl)

/-- The input and the dividers around it are no options. -/
theorem takeInput_split (tokens : List Token) :
    ∃ taken, tokens = taken ++ (takeInput tokens).2 ∧ ∀ tok ∈ taken, tok.switch? = none := by
  let isDivider (t : Token) : Bool := t.mark == .divider
  have hdropped (ts : List Token) : ∀ tok ∈ ts.takeWhile isDivider, tok.switch? = none := by
    intro tok htok
    have hdivider : isDivider tok = true := List.mem_takeWhile_imp htok
    rw [Token.switch?, beq_iff_eq.mp hdivider]
  unfold takeInput
  extract_lets todo
  have htodo : tokens = tokens.takeWhile isDivider ++ todo := List.takeWhile_append_dropWhile.symm
  clear_value todo
  split
  · next text rest =>
    refine ⟨tokens.takeWhile isDivider ++ ⟨text, .free⟩ :: rest.takeWhile isDivider, ?_, ?_⟩
    · rw [List.append_assoc, List.cons_append, List.takeWhile_append_dropWhile]
      exact htodo
    · intro tok htok
      rcases List.mem_append.mp htok with htok | htok
      · exact hdropped _ tok htok
      · rcases List.mem_cons.mp htok with rfl | htok
        · rfl
        · exact hdropped _ tok htok
  · exact ⟨_, htodo, hdropped tokens⟩

/-! ## The run -/

/-- How many rounds it takes at most: one for each token, and one for an input that is not there. -/
def rounds (tokens : List Token) (inputDone : Bool) : Nat := tokens.length + if inputDone then 0 else 1

/-- All tokens are read, if there is fuel for them. -/
theorem reads_take {fuel : Nat} {tokens : List Token} {t t' : Taken} (hfuel : rounds tokens t.inputDone < fuel)
    (hlisted : ∀ tok ∈ tokens, tok.Listed) (h : take fuel tokens t = .ok t') :
    Reads t.arguments tokens t'.arguments := by
  induction fuel generalizing tokens t with
  | zero => exact absurd hfuel (Nat.not_lt_zero _)
  | succ fuel ih =>
    -- each round takes some tokens from the front, and leaves fuel for the others
    have hround {taken rest : List Token} {s : Taken} (hrest : take fuel rest s = .ok t')
        (hsplit : tokens = taken ++ rest) (hreads : Reads t.arguments taken s.arguments)
        (hless : rounds rest s.inputDone < rounds tokens t.inputDone) :
        Reads t.arguments tokens t'.arguments := by
      rw [hsplit] at hlisted ⊢
      refine hreads.trans (ih (by omega) (fun tok htok => hlisted tok ?_) hrest)
      exact List.mem_append_right _ htok
    rw [take.eq_def] at h
    dsimp only at h
    split at h
    · -- an unknown option is left over
      next text name glued rest =>
      refine hround h List.singleton_append.symm ?_ ?_
      · exact .of_unnamed (by simp [Token.switch?]) (fun _ => rfl) rfl
      · simp [rounds]
    · -- an option is read with its value
      next text s name glued rest =>
      cases hunfold : unfold s (name.length == 2) glued rest ((glued.map fun g => g.value.length).getD 0 + 2) with
      | error e =>
        rw [hunfold] at h
        nomatch h
      | ok u =>
        rw [hunfold] at h
        change (applyAll t.arguments u.found >>= fun a => take fuel u.rest
          { t with arguments := a, leftOver := t.leftOver ++ u.unknown }) = _ at h
        cases happly : applyAll t.arguments u.found with
        | error e =>
          rw [happly] at h
          nomatch h
        | ok a =>
          rw [happly] at h
          have hname : (name, s) ∈ namedSwitches := hlisted _ List.mem_cons_self s name glued rfl
          obtain ⟨taken, hsplit, hsome, hreads⟩ := reads_unfold text hname hunfold happly
          have hlength : 0 < taken.length := List.length_pos_iff.mpr hsome
          refine hround h hsplit hreads ?_
          rw [hsplit, rounds, rounds, List.length_append]
          dsimp only
          omega
    · next hunknown hknown =>
      split at h
      · -- the input is taken, or found missing
        next hdone =>
        have hundone : t.inputDone = false := by simpa using hdone
        obtain ⟨taken, hsplit, hnone⟩ := takeInput_split tokens
        split at h
        · refine hround h hsplit (.of_unnamed hnone (fun s => ?_) rfl) ?_
          · cases s <;> rfl
          · have hlength := congrArg List.length hsplit
            rw [List.length_append] at hlength
            rw [rounds, rounds, hundone]
            simp only [if_true, Bool.false_eq_true, if_false]
            omega
        · next hfree =>
          obtain rfl := Except.ok.inj h
          refine .of_unnamed (fun tok htok => ?_) (fun s => by cases s <;> rfl) rfl
          rw [hsplit] at htok
          rcases List.mem_append.mp htok with htok | htok
          · exact hnone tok htok
          · have hplain : ∀ tok ∈ (takeInput tokens).2, tok.isOption = false := by simpa using hfree
            exact Token.switch?_of_not_isOption (hplain tok htok)
      · -- free tokens have no place any more
        next hdone =>
        have hnone : ∀ tok ∈ tokens.takeWhile (!·.isOption), tok.switch? = none := by
          intro tok htok
          have hplain := List.all_eq_true.mp List.all_takeWhile tok htok
          exact Token.switch?_of_not_isOption (by simpa using hplain)
        have hsplit : tokens = tokens.takeWhile (!·.isOption) ++ tokens.dropWhile (!·.isOption) :=
          List.takeWhile_append_dropWhile.symm
        split at h
        · next hempty =>
          obtain rfl := Except.ok.inj h
          rw [List.isEmpty_iff.mp hempty, List.append_nil] at hsplit
          rw [hsplit]
          exact .of_unnamed hnone (fun _ => rfl) rfl
        · next hsome =>
          refine hround h hsplit (.of_unnamed hnone (fun _ => rfl) rfl) ?_
          have hfewer : (tokens.dropWhile (!·.isOption)).length < tokens.length := by
            rcases tokens with _ | ⟨⟨text, _ | _ | ⟨_ | s, name, glued⟩⟩, rest⟩
            · exact absurd rfl hsome
            · exact Nat.lt_succ_of_le (List.length_dropWhile_le _ rest)
            · exact Nat.lt_succ_of_le (List.length_dropWhile_le _ rest)
            · exact absurd rfl (hunknown text name glued rest)
            · exact absurd rfl (hknown text s name glued rest)
          rw [rounds, rounds]
          exact Nat.add_lt_add_right hfewer _

/-! ## Telling arguments apart -/

theorem mem_namedSwitches {name : String} {s : Switch} : (name, s) ∈ namedSwitches ↔ name ∈ s.names := by
  rw [namedSwitches, List.mem_flatMap]
  constructor
  · rintro ⟨s', -, hname⟩
    obtain ⟨name', hname', heq⟩ := List.mem_map.mp hname
    obtain ⟨rfl, rfl⟩ := Prod.mk.inj heq
    exact hname'
  · intro hname
    refine ⟨s, ?_, List.mem_map.mpr ⟨name, hname, rfl⟩⟩
    cases s <;> decide

theorem mem_of_switch? {name : String} {s : Switch} (h : switch? name = some s) : name ∈ s.names := by
  obtain ⟨before, after, hsplit, -⟩ := List.lookup_eq_some_iff.mp h
  refine mem_namedSwitches.mp ?_
  rw [hsplit]
  exact List.mem_append_right _ List.mem_cons_self

/-- An argument names an option outright, before an equals sign, or as the only one it may be short for. -/
theorem classify_cases {arg name : String} {s : Switch} {glued : Option Glued}
    (h : classify arg = .ok (.option (some s) name glued)) :
    switch? arg = some s ∧ name = arg ∧ glued = none ∨
      (∃ value, cutAtEquals arg = some (name, value) ∧ switch? name = some s ∧ glued = some value) ∨
      candidates arg = [(s, name, glued)] := by
  unfold classify at h
  split at h
  · nomatch h
  · split at h
    · next s' hs' =>
      obtain ⟨⟨rfl⟩, rfl, rfl⟩ := Mark.option.inj (Except.ok.inj h)
      exact .inl ⟨hs', rfl, rfl⟩
    · split at h
      · nomatch h
      · dsimp only at h
        split at h
        · next s' name' value hcut =>
          obtain ⟨⟨rfl⟩, rfl, rfl⟩ := Mark.option.inj (Except.ok.inj h)
          obtain ⟨⟨name', value'⟩, hparts, hrest⟩ := Option.bind_eq_some_iff.mp hcut
          obtain ⟨s', hs', heq⟩ := Option.bind_eq_some_iff.mp hrest
          obtain ⟨rfl, rfl, rfl⟩ := Option.some.inj heq
          exact .inr (.inl ⟨_, hparts, hs', rfl⟩)
        · split at h
          · split at h
            · nomatch h
            · nomatch h
          · next s' name' glued' hone =>
            obtain ⟨⟨rfl⟩, rfl, rfl⟩ := Mark.option.inj (Except.ok.inj h)
            exact .inr (.inr hone)
          · nomatch h

/-- An argument in full starts the names of the options it may be short for, unless a value is glued to it. -/
theorem mem_candidates {arg name : String} {s : Switch} {glued : Option Glued}
    (h : (s, name, glued) ∈ candidates arg) :
    name ∈ s.names ∧ (glued = none → arg.toList <+: name.toList) := by
  unfold candidates at h
  split at h
  · obtain ⟨⟨name', s'⟩, hlisted, heq⟩ := List.mem_filterMap.mp h
    simp only [Option.ite_none_right_eq_some, Option.some.injEq, Prod.mk.injEq] at heq
    obtain ⟨hstart, rfl, rfl, rfl⟩ := heq
    refine ⟨mem_namedSwitches.mp hlisted, fun hnone => ?_⟩
    cases hcut : cutAtEquals arg with
    | none =>
      rw [hcut] at hstart
      exact List.isPrefixOf_iff_prefix.mp hstart
    | some cut =>
      rw [hcut] at hnone
      nomatch hnone
  · next c rest hdash =>
    obtain ⟨⟨name', s'⟩, hlisted, heq⟩ := List.mem_filterMap.mp h
    dsimp only at heq
    split at heq
    · obtain ⟨rfl, rfl, rfl⟩ := Option.some.inj heq
      exact ⟨mem_namedSwitches.mp hlisted, nofun⟩
    · simp only [Option.ite_none_right_eq_some, Option.some.injEq, Prod.mk.injEq] at heq
      obtain ⟨hstart, rfl, rfl, rfl⟩ := heq
      exact ⟨mem_namedSwitches.mp hlisted, fun _ => List.isPrefixOf_iff_prefix.mp hstart⟩
  · exact absurd h List.not_mem_nil

theorem listed_of_classify {arg : String} {mark : Mark} (h : classify arg = .ok mark) :
    (Token.mk arg mark).Listed := by
  intro s name glued hmark
  obtain rfl : mark = .option (some s) name glued := hmark
  refine mem_namedSwitches.mpr ?_
  rcases classify_cases h with ⟨hs, rfl, -⟩ | ⟨value, -, hs, -⟩ | hone
  · exact mem_of_switch? hs
  · exact mem_of_switch? hs
  · exact (mem_candidates (hone ▸ List.mem_singleton_self _)).1

/-- The arguments among which options are looked for. -/
def beforeDivider (args : List String) : List String := args.takeWhile (· != "--")

theorem beforeDivider_cons {arg : String} (h : arg ≠ "--") (rest : List String) :
    beforeDivider (arg :: rest) = arg :: beforeDivider rest :=
  List.takeWhile_cons_of_pos (by simpa using h)

/-- The tokens are the arguments before the divider as they were told apart, and some that name nothing. -/
theorem mem_classifyAll {args : List String} {tokens : List Token} (h : classifyAll args = .ok tokens) :
    (∀ tok ∈ tokens, tok.switch? = none ∨
      tok.text ∈ beforeDivider args ∧ classify tok.text = .ok tok.mark) ∧
    ∀ arg ∈ beforeDivider args, ∃ mark, classify arg = .ok mark ∧ ⟨arg, mark⟩ ∈ tokens := by
  fun_induction classifyAll args generalizing tokens with
  | case1 =>
    obtain rfl := Except.ok.inj h
    exact ⟨by simp, by simp [beforeDivider]⟩
  | case2 rest =>
    obtain rfl := Except.ok.inj h
    refine ⟨fun tok htok => .inl ?_, by simp [beforeDivider]⟩
    rcases List.mem_cons.mp htok with rfl | htok
    · rfl
    · obtain ⟨arg, -, rfl⟩ := List.mem_map.mp htok
      rfl
  | case3 arg rest hdivider ih =>
    cases hmark : classify arg with
    | error e =>
      rw [hmark] at h
      nomatch h
    | ok mark =>
      cases hrest : classifyAll rest with
      | error e =>
        rw [hmark, hrest] at h
        nomatch h
      | ok others =>
        rw [hmark, hrest] at h
        obtain rfl := Except.ok.inj h
        obtain ⟨htokens, hargs⟩ := ih hrest
        rw [beforeDivider_cons hdivider]
        refine ⟨fun tok htok => ?_, fun arg' harg' => ?_⟩
        · rcases List.mem_cons.mp htok with rfl | htok
          · exact .inr ⟨List.mem_cons_self, hmark⟩
          · exact (htokens tok htok).imp id (.imp (List.mem_cons_of_mem _) id)
        · rcases List.mem_cons.mp harg' with rfl | harg'
          · exact ⟨mark, hmark, List.mem_cons_self⟩
          · obtain ⟨mark', hmark', hmem⟩ := hargs arg' harg'
            exact ⟨mark', hmark', List.mem_cons_of_mem _ hmem⟩

/-! ## Spelling -/

/-- The argument spells an option: it starts one of its names, and no name of any other. -/
def Spells (arg : String) (s : Switch) : Prop :=
  (∃ name ∈ s.names, arg.toList <+: name.toList) ∧
    ∀ other ∈ Switch.all, ∀ name ∈ other.names, arg.toList <+: name.toList → other = s

instance (arg : String) (s : Switch) : Decidable (Spells arg s) := inferInstanceAs (Decidable (_ ∧ _))

/-- The option that an argument names. -/
def named? (arg : String) : Option Switch := (classify arg).toOption.bind fun mark => (Token.mk arg mark).switch?

theorem named?_eq_some_iff {arg : String} {s : Switch} :
    named? arg = some s ↔ ∃ mark, classify arg = .ok mark ∧ (Token.mk arg mark).switch? = some s := by
  rw [named?]
  cases classify arg with
  | error e => simp [Except.toOption]
  | ok mark => simp [Except.toOption]

theorem mem_all (s : Switch) : s ∈ Switch.all := by cases s <;> decide

/-- What starts a name names the option that it spells. -/
theorem named?_eq_some_iff_spells {arg name : String} {s t : Switch} (hname : name ∈ t.names)
    (hstart : arg.toList <+: name.toList) : named? arg = some s ↔ Spells arg s := by
  -- there are only so many beginnings of names
  have hall : ∀ t ∈ Switch.all, ∀ name ∈ t.names, ∀ start ∈ name.toList.inits, ∀ s ∈ Switch.all,
      (named? (String.ofList start) = some s ↔ Spells (String.ofList start) s) := by
    decide +kernel
  have harg := hall t (mem_all t) name hname arg.toList ((List.mem_inits _ _).mpr hstart) s (mem_all s)
  rwa [String.ofList_toList] at harg

/-- An argument with no value glued to it names the option that it spells. -/
theorem spells_of_classify {arg name : String} {s : Switch}
    (h : classify arg = .ok (.option (some s) name none)) : Spells arg s := by
  have hnamed : named? arg = some s := named?_eq_some_iff.mpr ⟨_, h, rfl⟩
  rcases classify_cases h with ⟨hs, rfl, -⟩ | ⟨value, -, -, hglued⟩ | hone
  · exact (named?_eq_some_iff_spells (mem_of_switch? hs) List.prefix_rfl).mp hnamed
  · nomatch hglued
  · obtain ⟨hname, hstart⟩ := mem_candidates (hone ▸ List.mem_singleton_self _)
    exact (named?_eq_some_iff_spells hname (hstart rfl)).mp hnamed

/-! ## All arguments -/

/-- Arguments that are accepted have been read to their end. -/
theorem reads_of_parse {args : List String} {a : Arguments} (h : parse args = .ok a) :
    ∃ tokens, classifyAll args = .ok tokens ∧ Reads {} tokens a := by
  unfold parse at h
  cases htokens : classifyAll args with
  | error e =>
    rw [htokens] at h
    nomatch h
  | ok tokens =>
    rw [htokens] at h
    change (take (2 * tokens.length + 2) tokens {} >>= fun taken => _) = _ at h
    cases htaken : take (2 * tokens.length + 2) tokens {} with
    | error e =>
      rw [htaken] at h
      nomatch h
    | ok taken =>
      rw [htaken] at h
      obtain ⟨hmem, -⟩ := mem_classifyAll htokens
      have hlisted : ∀ tok ∈ tokens, tok.Listed := by
        intro tok htok
        rcases hmem tok htok with hnone | ⟨-, hmark⟩
        · intro s name glued hmark
          rw [Token.switch?, hmark] at hnone
          nomatch hnone
        · exact listed_of_classify hmark
      have hfuel : rounds tokens (Taken.inputDone {}) < 2 * tokens.length + 2 := by
        show tokens.length + 1 < _
        omega
      have hreads := reads_take hfuel hlisted htaken
      dsimp only [bind, Except.bind] at h
      split at h
      · obtain rfl := Except.ok.inj h
        exact ⟨tokens, rfl, hreads⟩
      · nomatch h

/-- A log level that is accepted is one of those to choose from. -/
theorem logLevel_mem {args : List String} {a : Arguments} {level : String} (h : parse args = .ok a)
    (hlevel : a.logLevel = some level) : level ∈ logLevels := by
  obtain ⟨tokens, -, hreads⟩ := reads_of_parse h
  rcases hreads.level level hlevel with hbefore | hmem
  · nomatch hbefore
  · exact hmem

/-- Arguments that are accepted ask for an option without a value exactly if one of those before the divider
    spells it. -/
theorem asks_iff_spelled {args : List String} {a : Arguments} {s : Switch} (h : parse args = .ok a)
    (hs : s.takesValue = false) : a.asks s = true ↔ ∃ arg ∈ beforeDivider args, Spells arg s := by
  obtain ⟨tokens, htokens, hreads⟩ := reads_of_parse h
  obtain ⟨hmem, hargs⟩ := mem_classifyAll htokens
  have hnothing : ¬(({} : Arguments).asks s = true) := by cases s <;> decide
  rw [hreads.asks, or_iff_right hnothing]
  constructor
  · rintro ⟨tok, htok, hswitch⟩
    rcases hmem tok htok with hnone | ⟨harg, hmark⟩
    · rw [hnone] at hswitch
      nomatch hswitch
    · obtain ⟨text, _ | _ | ⟨s', name, glued⟩⟩ := tok
      · nomatch hswitch
      · nomatch hswitch
      · obtain rfl : s' = some s := hswitch
        obtain rfl := hreads.bare _ htok s name glued rfl hs
        exact ⟨text, harg, spells_of_classify hmark⟩
  · rintro ⟨arg, harg, hspells⟩
    obtain ⟨name, hname, hstart⟩ := hspells.1
    obtain ⟨mark, hmark, hswitch⟩ :=
      named?_eq_some_iff.mp ((named?_eq_some_iff_spells hname hstart).mpr hspells)
    obtain ⟨mark', hmark', htok⟩ := hargs arg harg
    obtain rfl := Except.ok.inj (hmark.symm.trans hmark')
    exact ⟨_, htok, hswitch⟩

end Flowchart.CommandLine
