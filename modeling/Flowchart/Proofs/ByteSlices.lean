/-
  Slices of the bytes of a text, read as text.

  The bytes of a text are cut by offsets that need not fall between characters.  What is cut out is a text
  again if and only if no character is cut through, and then it is the run of characters between the two
  offsets.

  1. **One character** — a first byte and the bytes that continue it (`Sequence`): read together they give
     the character back, cut short they are an unexpected end, and a byte that continues can start nothing.

  2. **Many characters** — reading goes through the characters of a text one by one, whatever follows them
     (`decodeFrom_encode_append`).

  3. **Offsets** — an offset lies inside a character (`Inside`) or splits the text in two (`exists_split`).

  4. **Slices** — a slice that starts or ends inside a character cannot be read (`decode_of_cuts`); any
     other one covers a run of characters (`exists_isRun`) and is read as that run (`IsRun.decode_eq`).
-/
import Flowchart.Syntax.ParseTree

namespace Flowchart.Text.Utf8

/-! ## Classes of bytes -/

theorem isContinuation_iff {b : UInt8} : isContinuation b = true ↔ 128 ≤ b.toNat ∧ b.toNat < 192 := by
  simp [isContinuation, UInt8.le_iff_toNat_le, UInt8.lt_iff_toNat_lt]

theorem continuesThree_iff {a b : UInt8} :
    continuesThree a b = true ↔
      ((128 ≤ b.toNat ∧ b.toNat < 192) ∧ (¬a.toNat = 224 ∨ 160 ≤ b.toNat)) ∧
        (¬a.toNat = 237 ∨ b.toNat < 160) := by
  simp [continuesThree, isContinuation_iff, UInt8.le_iff_toNat_le, UInt8.lt_iff_toNat_lt,
    ← UInt8.toNat_inj]

theorem continuesFour_iff {a b : UInt8} :
    continuesFour a b = true ↔
      ((128 ≤ b.toNat ∧ b.toNat < 192) ∧ (¬a.toNat = 240 ∨ 144 ≤ b.toNat)) ∧
        (¬a.toNat = 244 ∨ b.toNat < 144) := by
  simp [continuesFour, isContinuation_iff, UInt8.le_iff_toNat_le, UInt8.lt_iff_toNat_lt,
    ← UInt8.toNat_inj]

/-- The first byte decides how many bytes belong together. -/
theorem step_eq (a : UInt8) (rest : List UInt8) :
    step a rest =
      if a.toNat < 128 then .ok (Char.ofNat a.toNat, rest)
      else if a.toNat < 194 then .error (.invalidStart, 1)
      else if a.toNat < 224 then step2 a rest
      else if a.toNat < 240 then step3 a rest
      else if a.toNat < 245 then step4 a rest
      else .error (.invalidStart, 1) := by
  simp [step, UInt8.lt_iff_toNat_lt]

/-- A byte that continues a sequence can start none. -/
theorem step_of_isContinuation {b : UInt8} (h : isContinuation b = true) (rest : List UInt8) :
    step b rest = .error (.invalidStart, 1) := by
  obtain ⟨hlo, hhi⟩ := isContinuation_iff.mp h
  rw [step_eq, if_neg (by omega), if_pos (by omega)]

/-! ## One character -/

/-- The first byte and the bytes that continue it stand for the character. -/
structure Sequence (c : Char) (first : UInt8) (tail : List UInt8) : Prop where
  /-- Read together they give the character, whatever follows. -/
  whole : ∀ rest, step first (tail ++ rest) = .ok (c, rest)
  /-- Cut short they end too soon. -/
  cut : ∀ k, k < tail.length → step first (tail.take k) = .error (.unexpectedEnd, k + 1)
  continues : ∀ b ∈ tail, isContinuation b = true

/-- A character is known by its number. -/
theorem ofNat_eq {c : Char} {n : Nat} (h : n = c.val.toNat) : Char.ofNat n = c := by
  rw [h]
  exact Char.ofNat_toNat c

theorem sequence_one {c : Char} (h : c.val.toNat ≤ 127) :
    Sequence c (UInt8.ofNat c.val.toNat) [] := by
  have ha := UInt8.toNat_ofNat_of_lt' (show c.val.toNat < 256 by omega)
  refine ⟨fun rest => ?_, fun k hk => absurd hk (Nat.not_lt_zero k), by simp⟩
  rw [step_eq, if_pos (by omega), ha, ofNat_eq rfl]
  rfl

theorem sequence_two {c : Char} (hlo : 127 < c.val.toNat) (hhi : c.val.toNat ≤ 2047) :
    Sequence c (UInt8.ofNat (c.val.toNat / 64 % 32 + 192)) [UInt8.ofNat (c.val.toNat % 64 + 128)] := by
  generalize hv : c.val.toNat = v at hlo hhi
  have ha := UInt8.toNat_ofNat_of_lt' (show v / 64 % 32 + 192 < 256 by omega)
  have hb := UInt8.toNat_ofNat_of_lt' (show v % 64 + 128 < 256 by omega)
  generalize UInt8.ofNat (v / 64 % 32 + 192) = a at ha
  generalize UInt8.ofNat (v % 64 + 128) = b at hb
  have hstep (rest : List UInt8) : step a rest = step2 a rest := by
    rw [step_eq, if_neg (by omega), if_neg (by omega), if_pos (by omega)]
  have hcont : isContinuation b = true := isContinuation_iff.mpr (by omega)
  refine ⟨fun rest => ?_, fun k hk => ?_, by simp [hcont]⟩
  · rw [hstep, List.singleton_append, step2, if_pos hcont, payload, ofNat_eq (c := c) (by omega)]
  · obtain rfl : k = 0 := Nat.lt_one_iff.mp hk
    rw [hstep]
    rfl

theorem sequence_three {c : Char} (hlo : 2047 < c.val.toNat) (hhi : c.val.toNat ≤ 65535) :
    Sequence c (UInt8.ofNat (c.val.toNat / 4096 % 16 + 224))
      [UInt8.ofNat (c.val.toNat / 64 % 64 + 128), UInt8.ofNat (c.val.toNat % 64 + 128)] := by
  have hvalid : c.val.toNat < 55296 ∨ 57343 < c.val.toNat ∧ c.val.toNat < 1114112 := c.valid
  generalize hv : c.val.toNat = v at hlo hhi hvalid
  have ha := UInt8.toNat_ofNat_of_lt' (show v / 4096 % 16 + 224 < 256 by omega)
  have hb := UInt8.toNat_ofNat_of_lt' (show v / 64 % 64 + 128 < 256 by omega)
  have hd := UInt8.toNat_ofNat_of_lt' (show v % 64 + 128 < 256 by omega)
  generalize UInt8.ofNat (v / 4096 % 16 + 224) = a at ha
  generalize UInt8.ofNat (v / 64 % 64 + 128) = b at hb
  generalize UInt8.ofNat (v % 64 + 128) = d at hd
  have hstep (rest : List UInt8) : step a rest = step3 a rest := by
    rw [step_eq, if_neg (by omega), if_neg (by omega), if_neg (by omega), if_pos (by omega)]
  -- no long form, as two bytes were not enough; no surrogate, as no character is one
  have hsecond : continuesThree a b = true := continuesThree_iff.mpr (by omega)
  have hb' : isContinuation b = true := isContinuation_iff.mpr (by omega)
  have hd' : isContinuation d = true := isContinuation_iff.mpr (by omega)
  refine ⟨fun rest => ?_, fun k hk => ?_, by simp [hb', hd']⟩
  · rw [hstep, List.cons_append, List.singleton_append, step3, if_pos hsecond, if_pos hd', payload,
      payload, ofNat_eq (c := c) (by omega)]
  · rw [hstep]
    have hk2 : k < 2 := hk
    obtain rfl | rfl : k = 0 ∨ k = 1 := by omega
    · rfl
    · simp [step3, hsecond]

theorem sequence_four {c : Char} (hlo : 65535 < c.val.toNat) :
    Sequence c (UInt8.ofNat (c.val.toNat / 262144 % 8 + 240))
      [UInt8.ofNat (c.val.toNat / 4096 % 64 + 128), UInt8.ofNat (c.val.toNat / 64 % 64 + 128),
        UInt8.ofNat (c.val.toNat % 64 + 128)] := by
  have hvalid : c.val.toNat < 55296 ∨ 57343 < c.val.toNat ∧ c.val.toNat < 1114112 := c.valid
  generalize hv : c.val.toNat = v at hlo hvalid
  have ha := UInt8.toNat_ofNat_of_lt' (show v / 262144 % 8 + 240 < 256 by omega)
  have hb := UInt8.toNat_ofNat_of_lt' (show v / 4096 % 64 + 128 < 256 by omega)
  have hd := UInt8.toNat_ofNat_of_lt' (show v / 64 % 64 + 128 < 256 by omega)
  have he := UInt8.toNat_ofNat_of_lt' (show v % 64 + 128 < 256 by omega)
  generalize UInt8.ofNat (v / 262144 % 8 + 240) = a at ha
  generalize UInt8.ofNat (v / 4096 % 64 + 128) = b at hb
  generalize UInt8.ofNat (v / 64 % 64 + 128) = d at hd
  generalize UInt8.ofNat (v % 64 + 128) = e at he
  have hstep (rest : List UInt8) : step a rest = step4 a rest := by
    rw [step_eq, if_neg (by omega), if_neg (by omega), if_neg (by omega), if_neg (by omega),
      if_pos (by omega)]
  -- the last code point bounds the second byte from above
  have hsecond : continuesFour a b = true := continuesFour_iff.mpr (by omega)
  have hb' : isContinuation b = true := isContinuation_iff.mpr (by omega)
  have hd' : isContinuation d = true := isContinuation_iff.mpr (by omega)
  have he' : isContinuation e = true := isContinuation_iff.mpr (by omega)
  refine ⟨fun rest => ?_, fun k hk => ?_, by simp [hb', hd', he']⟩
  · rw [hstep, List.cons_append, List.cons_append, List.singleton_append, step4, if_pos hsecond,
      if_pos hd', if_pos he', payload, payload, payload, ofNat_eq (c := c) (by omega)]
  · rw [hstep]
    have hk3 : k < 3 := hk
    obtain rfl | rfl | rfl : k = 0 ∨ k = 1 ∨ k = 2 := by omega
    · rfl
    · simp [step4, hsecond]
    · simp [step4, hsecond, hd']

/-- Every character is written as a sequence. -/
theorem exists_sequence (c : Char) :
    ∃ first tail, String.utf8EncodeChar c = first :: tail ∧ Sequence c first tail := by
  unfold String.utf8EncodeChar
  dsimp only
  split
  · next h1 => exact ⟨_, _, rfl, sequence_one h1⟩
  · next h1 =>
    split
    · next h2 => exact ⟨_, _, rfl, sequence_two (Nat.lt_of_not_le h1) h2⟩
    · next h2 =>
      split
      · next h3 => exact ⟨_, _, rfl, sequence_three (Nat.lt_of_not_le h2) h3⟩
      · next h3 => exact ⟨_, _, rfl, sequence_four (Nat.lt_of_not_le h3)⟩

theorem utf8Size_of_eq_cons {c : Char} {first : UInt8} {tail : List UInt8}
    (h : String.utf8EncodeChar c = first :: tail) : c.utf8Size = tail.length + 1 := by
  rw [← String.length_utf8EncodeChar, h, List.length_cons]

/-! ## Many characters -/

@[simp]
theorem encode_nil : encode [] = [] := rfl

@[simp]
theorem encode_cons (c : Char) (cs : List Char) :
    encode (c :: cs) = String.utf8EncodeChar c ++ encode cs := List.flatMap_cons

@[simp]
theorem encode_append (cs ds : List Char) : encode (cs ++ ds) = encode cs ++ encode ds :=
  List.flatMap_append

@[simp]
theorem size_nil : size [] = 0 := rfl

@[simp]
theorem size_cons (c : Char) (cs : List Char) : size (c :: cs) = c.utf8Size + size cs := rfl

@[simp]
theorem length_encode (cs : List Char) : (encode cs).length = size cs := by
  induction cs with
  | nil => rfl
  | cons c cs ih => rw [encode_cons, List.length_append, String.length_utf8EncodeChar, ih, size_cons]

@[simp]
theorem size_append (cs ds : List Char) : size (cs ++ ds) = size cs + size ds := by
  rw [← length_encode, encode_append, List.length_append, length_encode, length_encode]

@[simp]
theorem decodeFrom_nil (pos : Nat) : decodeFrom pos [] = .ok [] := by rw [decodeFrom]

theorem decodeFrom_of_error {first : UInt8} {rest : List UInt8} {fault : Fault} {width : Nat}
    (h : step first rest = .error (fault, width)) (pos : Nat) :
    decodeFrom pos (first :: rest) = .error ⟨pos, first, width, fault⟩ := by
  rw [decodeFrom]
  split
  · next f w heq =>
    obtain ⟨rfl, rfl⟩ : f = fault ∧ w = width := by simpa [h, eq_comm] using heq
    rfl
  · next heq => exact absurd (h.symm.trans heq) (by simp)

theorem decodeFrom_of_ok {first : UInt8} {rest : List UInt8} {c : Char} {more : List UInt8}
    (h : step first rest = .ok (c, more)) (pos : Nat) :
    decodeFrom pos (first :: rest) =
      (decodeFrom (pos + (rest.length + 1 - more.length)) more).map (c :: ·) := by
  rw [decodeFrom]
  split
  · next heq => exact absurd (h.symm.trans heq) (by simp)
  · next d m heq =>
    obtain ⟨rfl, rfl⟩ : d = c ∧ m = more := by simpa [h, eq_comm] using heq
    cases decodeFrom (pos + (rest.length + 1 - m.length)) m <;> rfl

/-- Reading a text leaves what follows it to be read. -/
theorem decodeFrom_encode_append (cs : List Char) (rest : List UInt8) :
    ∀ pos, decodeFrom pos (encode cs ++ rest) = (decodeFrom (pos + size cs) rest).map (cs ++ ·) := by
  induction cs with
  | nil =>
    intro pos
    cases h : decodeFrom pos rest <;> simp [Except.map, h]
  | cons c cs ih =>
    intro pos
    obtain ⟨first, tail, hc, hseq⟩ := exists_sequence c
    have hlen := utf8Size_of_eq_cons hc
    have hshift : pos + ((tail ++ (encode cs ++ rest)).length + 1 - (encode cs ++ rest).length) =
        pos + c.utf8Size := by
      rw [List.length_append, hlen]
      omega
    rw [encode_cons, hc, List.cons_append, List.cons_append, List.append_assoc,
      decodeFrom_of_ok (hseq.whole _), hshift, ih, size_cons, Nat.add_assoc]
    cases decodeFrom (pos + (c.utf8Size + size cs)) rest <;> rfl

/-- What is written is read back. -/
theorem decode_encode (cs : List Char) : decode (encode cs) = .ok cs := by
  have h := decodeFrom_encode_append cs [] 0
  rw [List.append_nil, decodeFrom_nil] at h
  rw [decode, h, Except.map, List.append_nil]

/-! ## Offsets -/

/-- The offset lies between the first and the last byte of a character. -/
def Inside (cs : List Char) (i : Nat) : Prop :=
  ∃ before c after, cs = before ++ c :: after ∧ size before < i ∧ i < size before + c.utf8Size

theorem not_inside_nil (i : Nat) : ¬Inside [] i := by
  rintro ⟨before, c, after, h, -⟩
  exact absurd h (by simp)

theorem inside_cons {c : Char} {cs : List Char} {i : Nat} :
    Inside (c :: cs) i ↔
      0 < i ∧ i < c.utf8Size ∨ c.utf8Size ≤ i ∧ Inside cs (i - c.utf8Size) := by
  constructor
  · rintro ⟨before, d, after, h, hlo, hhi⟩
    cases before with
    | nil =>
      obtain ⟨rfl, -⟩ := List.cons.inj h
      exact .inl ⟨hlo, by simpa using hhi⟩
    | cons b before =>
      obtain ⟨rfl, rfl⟩ := List.cons.inj h
      rw [size_cons] at hlo hhi
      exact .inr ⟨by omega, before, d, after, rfl, by omega, by omega⟩
  · rintro (⟨hlo, hhi⟩ | ⟨hle, before, d, after, rfl, hlo, hhi⟩)
    · exact ⟨[], c, cs, rfl, hlo, by simpa using hhi⟩
    · exact ⟨c :: before, d, after, rfl, by rw [size_cons]; omega, by rw [size_cons]; omega⟩

instance decidableInside : ∀ (cs : List Char) (i : Nat), Decidable (Inside cs i)
  | [], i => isFalse (not_inside_nil i)
  | _ :: cs, _ => @decidable_of_iff' _ _ inside_cons
    (@instDecidableOr _ _ inferInstance (@instDecidableAnd _ _ inferInstance (decidableInside cs _)))

theorem inside_append {before after : List Char} {i : Nat} :
    Inside (before ++ after) (size before + i) ↔ Inside after i := by
  induction before with
  | nil => simp
  | cons c before ih =>
    rw [List.cons_append, inside_cons, size_cons]
    have hshift : c.utf8Size + size before + i - c.utf8Size = size before + i := by omega
    rw [hshift, ih]
    have hpos := c.utf8Size_pos
    constructor
    · rintro (⟨-, hlt⟩ | ⟨-, h⟩)
      · omega
      · exact h
    · exact fun h => .inr ⟨by omega, h⟩

/-- An offset inside a character comes after its first byte and before one that continues it. -/
theorem Inside.exists_sequence {cs : List Char} {i : Nat} (h : Inside cs i) :
    ∃ before after c first tail k, cs = before ++ c :: after ∧ i = size before + (k + 1) ∧
      String.utf8EncodeChar c = first :: tail ∧ Sequence c first tail ∧ k < tail.length := by
  obtain ⟨before, c, after, rfl, hlo, hhi⟩ := h
  obtain ⟨first, tail, hc, hseq⟩ := Utf8.exists_sequence c
  have hlen := utf8Size_of_eq_cons hc
  exact ⟨before, after, c, first, tail, i - size before - 1, rfl, by omega, hc, hseq, by omega⟩

/-- An offset inside no character splits the text in two. -/
theorem exists_split {cs : List Char} {i : Nat} (hle : i ≤ size cs) (h : ¬Inside cs i) :
    ∃ before after, cs = before ++ after ∧ size before = i := by
  induction cs generalizing i with
  | nil => exact ⟨[], [], rfl, (Nat.le_zero.mp hle).symm⟩
  | cons c cs ih =>
    rw [inside_cons, not_or] at h
    rw [size_cons] at hle
    rcases Nat.eq_zero_or_pos i with rfl | hpos
    · exact ⟨[], c :: cs, rfl, rfl⟩
    · have hc : c.utf8Size ≤ i := by omega
      obtain ⟨before, after, rfl, hsize⟩ := ih (i := i - c.utf8Size) (by omega)
        fun hin => h.2 ⟨hc, hin⟩
      exact ⟨c :: before, after, rfl, by rw [size_cons]; omega⟩

/-! ## Slices -/

/-- The range holds some bytes of the text, and it starts or ends inside a character. -/
def Cuts (cs : List Char) (start stop : Nat) : Prop :=
  start < min stop (size cs) ∧ (Inside cs start ∨ Inside cs (min stop (size cs)))

instance (cs : List Char) (start stop : Nat) : Decidable (Cuts cs start stop) :=
  inferInstanceAs (Decidable (_ ∧ (_ ∨ _)))

/-- The characters whose bytes are those of the range. -/
structure IsRun (cs : List Char) (start stop : Nat) (run : List Char) : Prop where
  bytes : encode run = ParseTree.bytesOf (encode cs) start stop
  /-- They stand in the text from where the range starts to where it ends, or where the text does. -/
  lies : start < min stop (size cs) → ∃ before after, cs = before ++ run ++ after ∧
    size before = start ∧ size (before ++ run) = min stop (size cs)
  /-- There are none in an empty range, nor in one that ends before it starts. -/
  empty : min stop (size cs) ≤ start → run = []

/-- Bytes past the end are none. -/
theorem bytesOf_clip (source : List UInt8) (start stop : Nat) :
    ParseTree.bytesOf source start stop = ParseTree.bytesOf source start (min stop source.length) := by
  rw [ParseTree.bytesOf, ParseTree.bytesOf, List.take_eq_take_iff, List.length_drop]
  omega

theorem bytesOf_eq_nil {source : List UInt8} {start stop : Nat}
    (h : min stop source.length ≤ start) : ParseTree.bytesOf source start stop = [] := by
  rw [bytesOf_clip, ParseTree.bytesOf, Nat.sub_eq_zero_of_le h, List.take_zero]

/-- A range that starts between two characters starts with the second one. -/
theorem bytesOf_append (before after : List Char) (stop : Nat) :
    ParseTree.bytesOf (encode (before ++ after)) (size before) stop =
      (encode after).take (stop - size before) := by
  rw [ParseTree.bytesOf, encode_append, ← length_encode before, List.drop_left]

/-- A range that starts inside a character starts with a byte that continues it. -/
theorem exists_isContinuation {cs : List Char} {start stop : Nat} (h : Inside cs start)
    (hlt : start < stop) :
    ∃ b rest, ParseTree.bytesOf (encode cs) start stop = b :: rest ∧ isContinuation b = true := by
  obtain ⟨before, after, c, first, tail, k, rfl, rfl, hc, hseq, hk⟩ := h.exists_sequence
  refine ⟨tail[k], (tail.drop (k + 1) ++ encode after).take (stop - (size before + (k + 1)) - 1),
    ?_, hseq.continues _ (List.getElem_mem hk)⟩
  have hdrop : (encode (before ++ c :: after)).drop (size before + (k + 1)) =
      tail[k] :: (tail.drop (k + 1) ++ encode after) := by
    rw [encode_append, encode_cons, hc, ← length_encode before, List.drop_length_add_append,
      List.cons_append, List.drop_succ_cons, List.drop_append_of_le_length (Nat.le_of_lt hk),
      List.drop_eq_getElem_cons hk, List.cons_append]
  rw [ParseTree.bytesOf, hdrop, List.take_cons (by omega)]

/-- A text that ends inside a character ends too soon. -/
theorem decode_take_of_inside {cs : List Char} {i : Nat} (h : Inside cs i) :
    ∃ e, decode ((encode cs).take i) = .error e := by
  obtain ⟨before, after, c, first, tail, k, rfl, rfl, hc, hseq, hk⟩ := h.exists_sequence
  have htake : (encode (before ++ c :: after)).take (size before + (k + 1)) =
      encode before ++ first :: tail.take k := by
    rw [encode_append, encode_cons, hc, ← length_encode before, List.take_length_add_append,
      List.cons_append, List.take_succ_cons, List.take_append_of_le_length (Nat.le_of_lt hk)]
  rw [htake, decode, decodeFrom_encode_append, decodeFrom_of_error (hseq.cut k hk)]
  exact ⟨_, rfl⟩

/-- Bytes that cut through a character are no text. -/
theorem decode_of_cuts {cs : List Char} {start stop : Nat} (h : Cuts cs start stop) :
    ∃ e, decode (ParseTree.bytesOf (encode cs) start stop) = .error e := by
  obtain ⟨hlt, hcut⟩ := h
  have hle : min stop (size cs) ≤ size cs := Nat.min_le_right _ _
  rw [bytesOf_clip, length_encode]
  generalize min stop (size cs) = stop at hlt hcut hle ⊢
  -- a range cut at both ends fails at its first byte
  by_cases hstart : Inside cs start
  · obtain ⟨b, rest, hbytes, hb⟩ := exists_isContinuation hstart hlt
    rw [hbytes, decode, decodeFrom_of_error (step_of_isContinuation hb rest)]
    exact ⟨_, rfl⟩
  · obtain ⟨before, after, rfl, rfl⟩ := exists_split (by omega) hstart
    obtain ⟨k, rfl⟩ : ∃ k, stop = size before + k := ⟨stop - size before, by omega⟩
    have hstop : Inside after k := inside_append.mp (hcut.resolve_left hstart)
    rw [bytesOf_append, Nat.add_sub_cancel_left]
    exact decode_take_of_inside hstop

/-- A range that cuts through no character covers a run of them. -/
theorem exists_isRun {cs : List Char} {start stop : Nat} (h : ¬Cuts cs start stop) :
    ∃ run, IsRun cs start stop run := by
  by_cases hlt : start < min stop (size cs)
  · obtain ⟨hstart, hstop⟩ := not_or.mp fun hcut => h ⟨hlt, hcut⟩
    have hle : min stop (size cs) ≤ size cs := Nat.min_le_right _ _
    obtain ⟨before, after, rfl, rfl⟩ := exists_split (by omega) hstart
    obtain ⟨k, hk⟩ : ∃ k, min stop (size (before ++ after)) = size before + k :=
      ⟨min stop (size (before ++ after)) - size before, by omega⟩
    rw [hk, inside_append] at hstop
    rw [hk, size_append] at hle
    obtain ⟨run, rest, rfl, rfl⟩ := exists_split (by omega) hstop
    refine ⟨run, ?_, fun _ => ⟨before, rest, ?_, rfl, ?_⟩, fun hge => absurd hlt (Nat.not_lt.mpr hge)⟩
    · rw [bytesOf_clip, length_encode, hk, bytesOf_append, Nat.add_sub_cancel_left, encode_append,
        ← length_encode run, List.take_left]
    · rw [List.append_assoc]
    · rw [size_append, hk]
  · have hge : min stop (size cs) ≤ start := Nat.le_of_not_lt hlt
    refine ⟨[], ?_, fun h => absurd h hlt, fun _ => rfl⟩
    rw [bytesOf_eq_nil (by rw [length_encode]; exact hge), encode_nil]

theorem IsRun.decode_eq {cs run : List Char} {start stop : Nat} (h : IsRun cs start stop run) :
    decode (ParseTree.bytesOf (encode cs) start stop) = .ok run := by
  rw [← h.bytes, decode_encode]

/-- Bytes are read as the run of characters that they cover, and as nothing else. -/
theorem decode_bytesOf_eq_ok_iff {cs run : List Char} {start stop : Nat} :
    decode (ParseTree.bytesOf (encode cs) start stop) = .ok run ↔ IsRun cs start stop run := by
  constructor
  · intro h
    have hcuts : ¬Cuts cs start stop := by
      intro hcuts
      obtain ⟨e, he⟩ := decode_of_cuts hcuts
      rw [h] at he
      nomatch he
    obtain ⟨other, hother⟩ := exists_isRun hcuts
    have heq := hother.decode_eq
    rw [h] at heq
    obtain rfl := Except.ok.inj heq
    exact hother
  · exact fun h => h.decode_eq

/-- Bytes cannot be read if and only if they cut through a character. -/
theorem exists_decode_bytesOf_eq_error_iff {cs : List Char} {start stop : Nat} :
    (∃ e, decode (ParseTree.bytesOf (encode cs) start stop) = .error e) ↔ Cuts cs start stop := by
  constructor
  · rintro ⟨e, he⟩
    refine Decidable.byContradiction fun hcuts => ?_
    obtain ⟨run, hrun⟩ := exists_isRun hcuts
    rw [hrun.decode_eq] at he
    nomatch he
  · exact decode_of_cuts

end Flowchart.Text.Utf8
