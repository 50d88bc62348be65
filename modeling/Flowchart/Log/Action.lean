/-
  Work that changes a state, leaves log records and may fail.

  What was done and noted before a failure stays.  All records are collected, whatever their level;
  whoever shows them chooses.  The records of two pieces of work done one after the other are those of
  the first and then those of the second: no work sees or takes back what was noted before it.
-/
import Flowchart.Log.Record

namespace Flowchart

/-- Work on a state `σ` that gives an `α` or fails with an `ε`: its outcome, the state after it, and
    the records it leaves. -/
def Action (σ ε α : Type) : Type := σ → Except ε α × σ × List Log.Record

namespace Action

variable {σ τ ε α β : Type}

/-- Runs the work on a state: its outcome, the state after it, and the records it left. -/
def run (work : Action σ ε α) (s : σ) : Except ε α × σ × List Log.Record := work s

/-- Nothing to do. -/
def done (a : α) : Action σ ε α := fun s => (.ok a, s, [])

/-- Work that goes on with the result of other work, unless that failed. -/
def followedBy (work : Action σ ε α) (next : α → Action σ ε β) : Action σ ε β := fun s =>
  match work s with
  | (.error e, s, records) => (.error e, s, records)
  | (.ok a, s, records) =>
    let (outcome, s, more) := next a s
    (outcome, s, records ++ more)

instance : Monad (Action σ ε) where
  pure := done
  bind := followedBy

/-- The state. -/
def state : Action σ ε σ := fun s => (.ok s, s, [])

/-- Changes the state. -/
def change (f : σ → σ) : Action σ ε Unit := fun s => (.ok (), f s, [])

/-- Leaves records. -/
def leave (records : List Log.Record) : Action σ ε Unit := fun s => (.ok (), s, records)

/-- Leaves a record without fields. -/
def note (severity : Log.Severity) (logger message : String) : Action σ ε Unit :=
  leave [{ severity := severity, logger := logger, message := message }]

/-- Goes on with a result, or fails with its failure. -/
def ofExcept (r : Except ε α) : Action σ ε α := fun s => (r, s, [])

/-- Runs the work and hands its outcome over instead of failing. -/
def attempt (work : Action σ τ α) : Action σ ε (Except τ α) := fun s =>
  let (outcome, s, records) := work s
  (.ok outcome, s, records)

/-- Doing nothing changes nothing, and how three pieces of work are put together does not matter. -/
instance : LawfulMonad (Action σ ε) :=
  LawfulMonad.mk' (Action σ ε)
    (fun work => by
      funext s
      show followedBy work done s = work s
      unfold followedBy done
      rcases work s with ⟨_ | _, _, _⟩ <;> simp)
    (fun a next => by
      funext s
      show followedBy (done a) next s = next a s
      simp [followedBy, done])
    (fun work f g => by
      funext s
      show followedBy (followedBy work f) g s = followedBy work (fun a => followedBy (f a) g) s
      unfold followedBy
      rcases work s with ⟨_ | a, s₁, r₁⟩
      · rfl
      · rcases hf : f a s₁ with ⟨_ | b, s₂, r₂⟩ <;> simp [hf])

/-! ## Runs -/

@[simp] theorem run_pure (a : α) (s : σ) : (pure a : Action σ ε α).run s = (.ok a, s, []) := rfl

@[simp] theorem run_state (s : σ) : (state : Action σ ε σ).run s = (.ok s, s, []) := rfl

@[simp] theorem run_change (f : σ → σ) (s : σ) :
    (change f : Action σ ε Unit).run s = (.ok (), f s, []) := rfl

@[simp] theorem run_leave (records : List Log.Record) (s : σ) :
    (leave records : Action σ ε Unit).run s = (.ok (), s, records) := rfl

@[simp] theorem run_ofExcept (r : Except ε α) (s : σ) :
    (ofExcept r : Action σ ε α).run s = (r, s, []) := rfl

/-- A failure ends the work, and what was done before it stays. -/
theorem run_bind_error {work : Action σ ε α} {s s' : σ} {e : ε} {records : List Log.Record}
    (h : work.run s = (.error e, s', records)) (next : α → Action σ ε β) :
    (work >>= next).run s = (.error e, s', records) := by
  show followedBy work next s = _
  unfold followedBy
  rw [show work s = (.error e, s', records) from h]

/-- The second work starts from the state that the first one left. -/
theorem run_bind_ok {work : Action σ ε α} {s s' : σ} {a : α} {records : List Log.Record}
    (h : work.run s = (.ok a, s', records)) (next : α → Action σ ε β) :
    (work >>= next).run s =
      (((next a).run s').1, ((next a).run s').2.1, records ++ ((next a).run s').2.2) := by
  show followedBy work next s = _
  unfold followedBy
  rw [show work s = (.ok a, s', records) from h]
  rfl

/-! ## Outcomes and states

What the work comes to without its records: how it ends, and the state that it leaves. -/

/-- How the work ends. -/
def outcome (work : Action σ ε α) (s : σ) : Except ε α := (work.run s).1

/-- The state that the work leaves. -/
def leaves (work : Action σ ε α) (s : σ) : σ := (work.run s).2.1

@[simp] theorem outcome_pure (a : α) (s : σ) : (pure a : Action σ ε α).outcome s = .ok a := rfl

@[simp] theorem leaves_pure (a : α) (s : σ) : (pure a : Action σ ε α).leaves s = s := rfl

@[simp] theorem outcome_state (s : σ) : (state : Action σ ε σ).outcome s = .ok s := rfl

@[simp] theorem leaves_state (s : σ) : (state : Action σ ε σ).leaves s = s := rfl

@[simp] theorem outcome_change (f : σ → σ) (s : σ) :
    (change f : Action σ ε Unit).outcome s = .ok () := rfl

@[simp] theorem leaves_change (f : σ → σ) (s : σ) : (change f : Action σ ε Unit).leaves s = f s := rfl

@[simp] theorem outcome_leave (records : List Log.Record) (s : σ) :
    (leave records : Action σ ε Unit).outcome s = .ok () := rfl

@[simp] theorem leaves_leave (records : List Log.Record) (s : σ) :
    (leave records : Action σ ε Unit).leaves s = s := rfl

@[simp] theorem outcome_note (severity : Log.Severity) (logger message : String) (s : σ) :
    (note severity logger message : Action σ ε Unit).outcome s = .ok () := rfl

@[simp] theorem leaves_note (severity : Log.Severity) (logger message : String) (s : σ) :
    (note severity logger message : Action σ ε Unit).leaves s = s := rfl

@[simp] theorem outcome_ofExcept (r : Except ε α) (s : σ) :
    (ofExcept r : Action σ ε α).outcome s = r := rfl

@[simp] theorem leaves_ofExcept (r : Except ε α) (s : σ) :
    (ofExcept r : Action σ ε α).leaves s = s := rfl

@[simp] theorem outcome_attempt (work : Action σ τ α) (s : σ) :
    (attempt work : Action σ ε (Except τ α)).outcome s = .ok (work.outcome s) := rfl

@[simp] theorem leaves_attempt (work : Action σ τ α) (s : σ) :
    (attempt work : Action σ ε (Except τ α)).leaves s = work.leaves s := rfl

/-- Work after other work ends like the first of the two that fails. -/
theorem outcome_bind (work : Action σ ε α) (next : α → Action σ ε β) (s : σ) :
    (work >>= next).outcome s = match work.outcome s with
      | .ok a => (next a).outcome (work.leaves s)
      | .error e => .error e := by
  unfold outcome leaves
  rcases h : work.run s with ⟨_ | a, s', records⟩
  · rw [run_bind_error h]
  · rw [run_bind_ok h]

/-- What the first work leaves stays if it fails. -/
theorem leaves_bind (work : Action σ ε α) (next : α → Action σ ε β) (s : σ) :
    (work >>= next).leaves s = match work.outcome s with
      | .ok a => (next a).leaves (work.leaves s)
      | .error _ => work.leaves s := by
  unfold outcome leaves
  rcases h : work.run s with ⟨_ | a, s', records⟩
  · rw [run_bind_error h]
  · rw [run_bind_ok h]

/-- Work that runs alike and goes on alike from the result and the state so far. -/
theorem run_bind_congr {work work' : Action σ ε α} {next next' : α → Action σ ε β} {s : σ}
    (hwork : work.run s = work'.run s)
    (hnext : ∀ a, work.outcome s = .ok a → (next a).run (work.leaves s) = (next' a).run (work.leaves s)) :
    (work >>= next).run s = (work' >>= next').run s := by
  unfold outcome leaves at hnext
  rcases hrun : work.run s with ⟨_ | a, s', records⟩
  · rw [run_bind_error hrun, run_bind_error (hwork.symm.trans hrun)]
  · rw [hrun] at hnext
    rw [run_bind_ok hrun, run_bind_ok (hwork.symm.trans hrun), hnext a rfl]

end Action

end Flowchart
