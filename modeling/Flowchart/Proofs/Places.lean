/-
  Where paths lead, and what a write leaves.

  With links two paths may lead to one place, so what a write changes is said by places and not by paths.

  1. **Following** — where paths lead depends only on the directories, the links and the working directory
     (`place_congr`).  Without links a path leads to its last part in the directory of the others
     (`Linkless.walk_snoc_eq_ok_iff`).

  2. **One write** — `Written` says all that a write can do: it is refused and changes nothing, or it sets the
     file at one opened place, to all the bytes or, if it breaks off, to the first of them (`written_write`).

  3. **What stays** — `SameElsewhere` is the frame: paths lead where they led, and all is as it was but for
     where the given paths lead.  It holds of one write (`Written.sameElsewhere`), and of two one after the
     other (`SameElsewhere.trans`).
-/
import Flowchart.FileStore

namespace Flowchart.FileStore

variable {s s' : FileStore} {p : Path} {bytes : List UInt8}

/-! ## Following -/

/-- One part of the way: from a directory to a place that is no link, or on from a link there. -/
theorem walk_cons_eq_ok_iff {jump : List String → List String → Except FileFault (List String)}
    {place rest q : List String} {part : String} :
    s.walk jump place (part :: rest) = .ok q ↔
      s.at? place = some .directory ∧ Text.Utf8.size part.toList ≤ nameLimit ∧
        ((∃ target, s.at? (step place part) = some (.link target) ∧
            jump (linkStart place target) (target.parts ++ rest) = .ok q) ∨
          (∀ target, s.at? (step place part) ≠ some (.link target)) ∧
            s.walk jump (step place part) rest = .ok q) := by
  rw [walk]
  by_cases hdir : s.at? place = some .directory
  · rw [hdir]
    dsimp only
    by_cases hsize : Text.Utf8.size part.toList > nameLimit
    · rw [if_pos hsize]
      exact iff_of_false (by simp) fun h => Nat.not_le.mpr hsize h.2.1
    · rw [if_neg hsize]
      have hle := Nat.le_of_not_gt hsize
      split
      · next target hlink => simp [hlink, hle]
      · next hlink =>
        have hnone : ∀ target, s.at? (step place part) ≠ some (.link target) := fun target h => hlink target h
        simp [hnone, hle]
  · refine iff_of_false ?_ fun h => hdir h.1
    split
    · next h => exact absurd h hdir
    · simp
    · simp

/-- The two stores have the same working directory, the same directories and the same links. -/
structure SameWays (s s' : FileStore) : Prop where
  home : s'.home = s.home
  directory : ∀ q, s'.at? q = some .directory ↔ s.at? q = some .directory
  link : ∀ q target, s'.at? q = some (.link target) ↔ s.at? q = some (.link target)

namespace SameWays

theorem walk (h : SameWays s s') {jump jump' : List String → List String → Except FileFault (List String)}
    {q : List String} (hjump : ∀ start parts, jump' start parts = .ok q ↔ jump start parts = .ok q)
    (place parts : List String) : s'.walk jump' place parts = .ok q ↔ s.walk jump place parts = .ok q := by
  induction parts generalizing place with
  | nil => rfl
  | cons part rest ih =>
    simp only [walk_cons_eq_ok_iff, h.directory, h.link, hjump, ih, ne_eq]

theorem followWithin (h : SameWays s s') (links : Nat) (place parts q : List String) :
    s'.followWithin links place parts = .ok q ↔ s.followWithin links place parts = .ok q := by
  induction links generalizing place parts with
  | zero => exact h.walk (fun _ _ => Iff.rfl) place parts
  | succ links ih => exact h.walk ih place parts

end SameWays

theorem place_eq_ok_iff {q : List String} :
    s.place p = .ok q ↔ p.hasNull = false ∧ Text.Utf8.size p.text.toList < pathLimit ∧
      s.follow (if p.root.isEmpty then s.home else []) p.parts = .ok q := by
  rw [place]
  by_cases hnull : p.hasNull = true
  · simp [hnull]
  · by_cases hsize : Text.Utf8.size p.text.toList ≥ pathLimit
    · rw [if_neg hnull, if_pos hsize]
      exact iff_of_false (by simp) fun h => Nat.not_lt.mpr hsize h.2.1
    · rw [if_neg hnull, if_neg hsize]
      cases s.follow (if p.root.isEmpty then s.home else []) p.parts with
      | ok place => simp [hnull, Nat.lt_of_not_ge hsize]
      | error f => simp

/-- Where paths lead depends only on the directories and the links. -/
theorem place_congr (h : SameWays s s') {q : List String} : s'.place p = .ok q ↔ s.place p = .ok q := by
  rw [place_eq_ok_iff, place_eq_ok_iff, h.home, follow, follow, h.followWithin]

/-- There are no links. -/
def Linkless (s : FileStore) : Prop := ∀ q target, s.at? q ≠ some (.link target)

theorem linkless_of_entries (h : ∀ e ∈ s.entries, ∀ target, e.2 ≠ .link target) : s.Linkless := by
  intro q target hlink
  cases q with
  | nil => simp [at?] at hlink
  | cons first rest =>
    obtain ⟨before, after, hentries, -⟩ := List.lookup_eq_some_iff.mp hlink
    exact h (first :: rest, .link target) (by rw [hentries]; simp) target rfl

/-- Without links the last part is looked up in the directory that the others lead to. -/
theorem Linkless.walk_snoc_eq_ok_iff (h : s.Linkless)
    {jump : List String → List String → Except FileFault (List String)} (place parts : List String)
    {q : List String} {part : String} :
    s.walk jump place (parts ++ [part]) = .ok q ↔
      ∃ dir, s.walk jump place parts = .ok dir ∧ s.at? dir = some .directory ∧
        Text.Utf8.size part.toList ≤ nameLimit ∧ step dir part = q := by
  have hcons {place rest q : List String} {part : String} : s.walk jump place (part :: rest) = .ok q ↔
      s.at? place = some .directory ∧ Text.Utf8.size part.toList ≤ nameLimit ∧
        s.walk jump (step place part) rest = .ok q := by
    rw [walk_cons_eq_ok_iff]
    simp [h _ _]
  induction parts generalizing place with
  | nil =>
    rw [List.nil_append, hcons]
    simp only [walk, Except.ok.injEq, exists_eq_left']
  | cons first rest ih =>
    constructor
    · intro hwalk
      obtain ⟨hat, hsize, hwalk⟩ := hcons.mp hwalk
      obtain ⟨dir, hdir, hrest⟩ := (ih (step place first)).mp hwalk
      exact ⟨dir, hcons.mpr ⟨hat, hsize, hdir⟩, hrest⟩
    · rintro ⟨dir, hwalk, hrest⟩
      obtain ⟨hat, hsize, hwalk⟩ := hcons.mp hwalk
      exact hcons.mpr ⟨hat, hsize, (ih (step place first)).mpr ⟨dir, hwalk, hrest⟩⟩

/-! ## One write -/

/-- The path leads to a place where a file can be opened for writing. -/
structure Opens (s : FileStore) (p : Path) (place : List String) : Prop where
  leads : s.place p = .ok place
  notDirectory : s.at? place ≠ some .directory
  notLink : ∀ target, s.at? place ≠ some (.link target)
  notShut : ∀ f, s.guard? place ≠ some (.shut f)

/-- What a write of some bytes can come to. -/
inductive Written (s : FileStore) (p : Path) (bytes : List UInt8) :
    Except FileError Unit → FileStore → Prop
  /-- The file cannot be opened, and nothing changes. -/
  | refused {e : FileError} (he : ∀ f, e ≠ .brokeOff f) : Written s p bytes (.error e) s
  /-- The write breaks off after `n` bytes. -/
  | broken {place : List String} (hopens : s.Opens p place) {n : Nat} (hn : n < bytes.length)
      (f : FileFault) : Written s p bytes (.error (.brokeOff f)) (s.setEntry place (.file (bytes.take n)))
  | whole {place : List String} (hopens : s.Opens p place) :
      Written s p bytes (.ok ()) (s.setEntry place (.file bytes))

/-- A path that no file can have is told by its parts. -/
theorem place_eq_nullByte_iff : s.place p = .error .nullByte ↔ p.hasNull = true := by
  rw [place]
  split
  · next hnull => simp [hnull]
  · next hnull =>
    refine iff_of_false ?_ hnull
    split
    · simp
    · split <;> simp

theorem place_ne_brokeOff {e : FileError} (h : s.place p = .error e) (f : FileFault) : e ≠ .brokeOff f := by
  rintro rfl
  rw [place] at h
  split at h
  · simp at h
  · split at h
    · simp at h
    · split at h <;> simp at h

/-- An opened file takes the bytes as far as its guard lets it. -/
theorem written_fill {place : List String} (h : s.Opens p place) (bytes : List UInt8) :
    Written s p bytes (s.fill place bytes).1 (s.fill place bytes).2 := by
  unfold fill
  split
  · next room f _ =>
    split
    · exact .whole h
    · next hroom => exact .broken h (Nat.lt_of_not_le hroom) f
  · exact .whole h

theorem written_write (s : FileStore) (p : Path) (bytes : List UInt8) :
    Written s p bytes (s.write p bytes).1 (s.write p bytes).2 := by
  unfold write
  cases hplace : s.place p with
  | error e => exact .refused (place_ne_brokeOff hplace)
  | ok place =>
    dsimp only
    split
    · exact .refused (by simp)
    · exact .refused (by simp)
    · exact .refused (by simp)
    · next hdirectory hlink hshut =>
      refine written_fill ⟨hplace, fun h => ?_, fun target h => ?_, fun f h => ?_⟩ bytes
      · exact hdirectory h
      · exact hlink target h
      · exact hshut f h

/-- Only the path itself can hold what no path can hold. -/
theorem hasNull_of_write (h : (s.write p bytes).1 = .error .nullByte) : p.hasNull = true := by
  rw [← place_eq_nullByte_iff (s := s)]
  unfold write fill at h
  cases hplace : s.place p with
  | error e =>
    rw [hplace] at h
    exact congrArg _ (Except.error.inj h)
  | ok place =>
    rw [hplace] at h
    dsimp only at h
    repeat' split at h
    all_goals simp at h

/-! ## What stays -/

/-- Paths lead where they led, and everything is as it was but for where the paths `changed` lead. -/
structure SameElsewhere (s s' : FileStore) (changed : List Path) : Prop where
  place : ∀ p q, s'.place p = .ok q ↔ s.place p = .ok q
  guards : s'.guards = s.guards
  at? : ∀ q, (∀ p ∈ changed, s.place p ≠ .ok q) → s'.at? q = s.at? q

theorem at?_of_opens {place : List String} (h : s.Opens p place) (kept : List UInt8) (q : List String) :
    (s.setEntry place (.file kept)).at? q = if q = place then some (.file kept) else s.at? q := by
  refine at?_setEntry s place q (.file kept) ?_
  rintro rfl
  exact h.notDirectory rfl

/-- Setting the file at an opened place neither makes nor unmakes directories and links. -/
theorem sameWays_of_opens {place : List String} (h : s.Opens p place) (kept : List UInt8) :
    SameWays s (s.setEntry place (.file kept)) where
  home := rfl
  directory q := by
    rw [at?_of_opens h]
    split
    · next hq => simp [hq, h.notDirectory]
    · rfl
  link q target := by
    rw [at?_of_opens h]
    split
    · next hq => simp [hq, h.notLink target]
    · rfl

namespace SameElsewhere

theorem refl (s : FileStore) (changed : List Path) : SameElsewhere s s changed :=
  ⟨fun _ _ => Iff.rfl, rfl, fun _ _ => rfl⟩

theorem of_opens {place : List String} (h : s.Opens p place) (kept : List UInt8) :
    SameElsewhere s (s.setEntry place (.file kept)) [p] where
  place _ _ := place_congr (sameWays_of_opens h kept)
  guards := rfl
  at? q hq := by
    have hne : q ≠ place := by
      rintro rfl
      exact hq p (List.mem_singleton_self p) h.leads
    rw [at?_of_opens h, if_neg hne]

theorem mono {changed more : List Path} (h : SameElsewhere s s' changed) (hsub : changed ⊆ more) :
    SameElsewhere s s' more where
  place := h.place
  guards := h.guards
  at? q hq := h.at? q fun p hp => hq p (hsub hp)

/-- Changes one after the other. -/
theorem trans {s₀ : FileStore} {changed more : List Path} (h : SameElsewhere s₀ s changed)
    (h' : SameElsewhere s s' more) : SameElsewhere s₀ s' (changed ++ more) where
  place p q := (h'.place p q).trans (h.place p q)
  guards := h'.guards.trans h.guards
  at? q hq := by
    have hfirst := h.at? q fun p hp => hq p (List.mem_append_left _ hp)
    have hsecond := h'.at? q fun p hp hplace =>
      hq p (List.mem_append_right _ hp) ((h.place p q).mp hplace)
    rw [hsecond, hfirst]

theorem guard? {changed : List Path} (h : SameElsewhere s s' changed) (q : List String) :
    s'.guard? q = s.guard? q := by
  rw [FileStore.guard?, FileStore.guard?, h.guards]

end SameElsewhere

/-- What is read at a path is said by its place. -/
theorem read_of_place {place : List String} (h : s.place p = .ok place) :
    s.read p = match s.at? place, s.guard? place with
      | some .directory, _ => .error (.fault .isDirectory p.text)
      | some (.file _), some (.shut f) => .error (.fault f p.text)
      | some (.file bytes), _ => .ok bytes
      | _, _ => .error (.fault .notFound p.text) := by
  rw [read, h]
  rfl

/-- The two paths lead to different places. -/
def Apart (s : FileStore) (p other : Path) : Prop := ∀ q, s.place p = .ok q → s.place other ≠ .ok q

/-- A file that lies elsewhere is read as before. -/
theorem SameElsewhere.read {changed : List Path} (h : SameElsewhere s s' changed) {place : List String}
    (hplace : s.place p = .ok place) (helse : ∀ other ∈ changed, s.place other ≠ .ok place) :
    s'.read p = s.read p := by
  rw [read_of_place hplace, read_of_place ((h.place p place).mpr hplace), h.at? place helse, h.guard?]

/-- Two paths to one place read one file. -/
theorem read_of_same_place {other : Path} {place : List String} (h : s.place p = .ok place)
    (hother : s.place other = .ok place) (hread : s.read other = .ok bytes) : s.read p = .ok bytes := by
  rw [read_of_place hother] at hread
  rw [read_of_place h]
  split at hread
  · simp at hread
  · simp at hread
  · next held hopen => exact hread
  · simp at hread

/-- What was written is read. -/
theorem read_of_opens {place : List String} (h : s.Opens p place) (kept : List UInt8) :
    (s.setEntry place (.file kept)).read p = .ok kept := by
  have hframe := SameElsewhere.of_opens h kept
  have hat : (s.setEntry place (.file kept)).at? place = some (.file kept) := by
    rw [at?_of_opens h, if_pos rfl]
  rw [read_of_place ((hframe.place p place).mpr h.leads), hat, hframe.guard?]
  cases hguard : s.guard? place with
  | none => rfl
  | some g =>
    cases g with
    | shut f => exact absurd hguard (h.notShut f)
    | limit room f => rfl

/-- What a write that fails leaves: nothing has changed, or if it broke off, the file holds the beginning of
    what was to be written. -/
structure FailedWrite (s s' : FileStore) (p : Path) (bytes : List UInt8) (e : FileError) : Prop where
  elsewhere : SameElsewhere s s' [p]
  refused : (∀ f, e ≠ .brokeOff f) → s' = s
  brokeOff : ∀ f, e = .brokeOff f → ∃ n < bytes.length, s'.read p = .ok (bytes.take n)

namespace Written

variable {ended : Except FileError Unit}

/-- A write touches only where its path leads. -/
theorem sameElsewhere (h : Written s p bytes ended s') : SameElsewhere s s' [p] := by
  cases h with
  | refused => exact .refl s _
  | broken hopens => exact .of_opens hopens _
  | whole hopens => exact .of_opens hopens _

theorem read_of_ok (h : Written s p bytes (.ok ()) s') : s'.read p = .ok bytes := by
  cases h with
  | whole hopens => exact read_of_opens hopens bytes

theorem failed {e : FileError} (h : Written s p bytes (.error e) s') : FailedWrite s s' p bytes e where
  elsewhere := h.sameElsewhere
  refused he := by
    cases h with
    | refused => rfl
    | broken _ _ f => exact absurd rfl (he f)
  brokeOff f he := by
    cases h with
    | refused hne => exact absurd he (hne f)
    | broken hopens hn => exact ⟨_, hn, read_of_opens hopens _⟩

/-- What was written led to a place that could be opened. -/
theorem exists_opens (h : Written s p bytes (.ok ()) s') : ∃ place, s.Opens p place := by
  cases h with
  | whole hopens => exact ⟨_, hopens⟩

end Written

end Flowchart.FileStore
