import TreeBridge.Proofs.Text.Lines
/-!
# The lines of a text

The table of line ends cuts a text into its lines: one for each entry,
from behind the entry before it. Every line but the last ends with its
terminator and holds no other, and the last holds none at all. The last
entry stands for the end of the text, so a text that ends with a
terminator has an empty last line. Up to there the line and the column of
an offset tell which line holds it, and how far into the line it is.
-/

namespace TreeBridge

/-! ## Terminators -/

/-- What ends a line: a line feed, a carriage return, or one before the
other. -/
def IsTerminator (bytes : List UInt8) : Prop :=
  bytes = [Byte.lineFeed] ∨ bytes = [Byte.carriageReturn] ∨
    bytes = [Byte.carriageReturn, Byte.lineFeed]

/-- Bytes without any line break. -/
def Unbroken (bytes : List UInt8) : Prop :=
  ∀ b ∈ bytes, Byte.isLineBreak b = false

/-- Bytes that end with a terminator and hold no other. -/
def Terminated (line : List UInt8) : Prop :=
  ∃ content terminator, line = content ++ terminator ∧ Unbroken content ∧ IsTerminator terminator

/-- The number of terminators of a text. A carriage return and the line
feed behind it are one. -/
def terminatorCount : List UInt8 → ℕ
  | [] => 0
  | [b] => if Byte.isLineBreak b then 1 else 0
  | b :: c :: rest =>
    if b = Byte.carriageReturn ∧ c = Byte.lineFeed then terminatorCount rest + 1
    else (if Byte.isLineBreak b then 1 else 0) + terminatorCount (c :: rest)

/-- Whether a line ends with a byte, before the rest of a text. -/
def endsLine (b : UInt8) (rest : List UInt8) : Bool :=
  b == Byte.lineFeed || b == Byte.carriageReturn && rest.head? != some Byte.lineFeed

/-- The bytes of a line that is not complete yet: none of them breaks it,
but for a carriage return that waits for its line feed. -/
def Incomplete (line rest : List UInt8) : Prop :=
  Unbroken line ∨
    ∃ content, line = content ++ [Byte.carriageReturn] ∧ Unbroken content ∧
      rest.head? = some Byte.lineFeed

variable {line rest bytes : List UInt8} {b : UInt8}

theorem Unbroken.concat (h : Unbroken line) (hb : Byte.isLineBreak b = false) :
    Unbroken (line ++ [b]) :=
  List.forall_mem_append.2 ⟨h, List.forall_mem_singleton.2 hb⟩

theorem isLineBreak_of_endsLine (h : endsLine b rest = true) :
    b = Byte.lineFeed ∨ b = Byte.carriageReturn := by
  simp only [endsLine, Bool.or_eq_true, Bool.and_eq_true, beq_iff_eq] at h
  exact h.imp_right And.left

namespace Incomplete

theorem nil (rest : List UInt8) : Incomplete [] rest :=
  .inl fun _ hb => absurd hb List.not_mem_nil

/-- The byte that ends a line completes it. -/
theorem terminated (h : Incomplete line (b :: rest)) (hb : endsLine b rest = true) :
    Terminated (line ++ [b]) := by
  rcases h with hline | ⟨content, rfl, hcontent, hfeed⟩
  · exact ⟨line, [b], rfl, hline,
      (isLineBreak_of_endsLine hb).imp (by rintro rfl; rfl) fun h => .inl (by rw [h])⟩
  · obtain rfl : b = Byte.lineFeed := Option.some.inj hfeed
    exact ⟨content, [Byte.carriageReturn, Byte.lineFeed], List.append_assoc .., hcontent,
      .inr (.inr rfl)⟩

/-- Any other byte leaves a line incomplete. -/
theorem concat (h : Incomplete line (b :: rest)) (hb : endsLine b rest = false) :
    Incomplete (line ++ [b]) rest := by
  have hne : b ≠ Byte.lineFeed := by
    rintro rfl
    exact absurd hb (by simp [endsLine])
  rcases h with hline | ⟨content, -, -, hfeed⟩
  · by_cases hreturn : b = Byte.carriageReturn
    · subst hreturn
      refine .inr ⟨line, rfl, hline, ?_⟩
      simpa [endsLine, Byte.carriageReturn, Byte.lineFeed] using hb
    · exact .inl (hline.concat (by simp [Byte.isLineBreak, hne, hreturn]))
  · exact absurd (Option.some.inj hfeed) hne

end Incomplete

/-! ## The lines, told by the bytes -/

/-- The lines of a text from the middle of a line on: what has been seen
of this line, and the bytes to come. -/
def linesAfter (line : List UInt8) : List UInt8 → List (List UInt8)
  | [] => [line]
  | b :: rest =>
    if endsLine b rest then (line ++ [b]) :: linesAfter [] rest
    else linesAfter (line ++ [b]) rest

theorem flatten_linesAfter : (linesAfter line bytes).flatten = line ++ bytes := by
  fun_induction linesAfter line bytes with
  | case1 line => simp
  | case2 line b rest hb ih => rw [List.flatten_cons, ih]; simp
  | case3 line b rest hb ih => rw [ih, List.append_assoc]; rfl

/-- All lines but the last are terminated, and nothing breaks the last. -/
theorem exists_linesAfter_eq (h : Incomplete line bytes) :
    ∃ closed last, linesAfter line bytes = closed ++ [last] ∧
      (∀ l ∈ closed, Terminated l) ∧ Unbroken last := by
  fun_induction linesAfter line bytes with
  | case1 line =>
    refine ⟨[], line, rfl, by simp, ?_⟩
    rcases h with hline | ⟨_, _, _, hfeed⟩
    · exact hline
    · cases hfeed
  | case2 line b rest hb ih =>
    obtain ⟨closed, last, heq, hclosed, hlast⟩ := ih (.nil rest)
    exact ⟨(line ++ [b]) :: closed, last, by rw [heq]; rfl,
      List.forall_mem_cons.2 ⟨h.terminated hb, hclosed⟩, hlast⟩
  | case3 line b rest hb ih => exact ih (h.concat (by simpa using hb))

namespace LineEnds

variable {ends : LineEnds} {start : Int}

theorem terminators_cons : terminators start (b :: rest) =
    if endsLine b rest then start :: terminators (start + 1) rest
    else terminators (start + 1) rest :=
  rfl

/-- The table has an entry for every terminator. -/
theorem length_terminators : (terminators start bytes).length = terminatorCount bytes := by
  fun_induction terminatorCount bytes generalizing start with
  | case1 => rfl
  | case2 b hb =>
    have hends : endsLine b [] = true := by simpa [endsLine, Byte.isLineBreak] using hb
    rw [terminators_cons, if_pos hends]
    rfl
  | case3 b hb =>
    have hends : ¬ endsLine b [] = true := by simpa [endsLine, Byte.isLineBreak] using hb
    rw [terminators_cons, if_neg hends]
    rfl
  | case4 b c rest hpair ih =>
    obtain ⟨rfl, rfl⟩ := hpair
    -- the carriage return ends no line before a line feed, which does
    have hreturn : ¬ endsLine Byte.carriageReturn (Byte.lineFeed :: rest) = true := by
      simp [endsLine, Byte.carriageReturn, Byte.lineFeed]
    have hfeed : endsLine Byte.lineFeed rest = true := by simp [endsLine]
    rw [terminators_cons, if_neg hreturn, terminators_cons, if_pos hfeed, List.length_cons, ih]
  | case5 b c rest hpair ih =>
    have hends : endsLine b (c :: rest) = Byte.isLineBreak b := by
      grind [endsLine, Byte.isLineBreak]
    rw [terminators_cons, hends]
    split
    · rw [List.length_cons, ih, Nat.add_comm]
    · rw [ih, Nat.zero_add]

/-! ## The lines, told by the table -/

/-- The stretches of a text up to each line end, from an offset on. -/
def slices (start : Int) : LineEnds → List UInt8 → List (List UInt8)
  | [], _ => []
  | e :: ends, bytes =>
    let length := (e + 1 - start).toNat
    bytes.take length :: slices (e + 1) ends (bytes.drop length)

/-- The lines into which the table of a text cuts it. -/
def lines (bytes : List UInt8) : List (List UInt8) :=
  (ofBytes bytes).slices 0 bytes

/-- The start of a line, if the first line starts at an offset. -/
def startFrom (start : Int) (ends : LineEnds) : ℕ → Int
  | 0 => start
  | i + 1 => ends.getD i 0 + 1

theorem lineStart_eq_startFrom (i : ℕ) : ends.lineStart i = startFrom 0 ends i := by
  cases i <;> rfl

theorem length_slices : (slices start ends bytes).length = ends.length := by
  induction ends generalizing start bytes with
  | nil => rfl
  | cons e ends ih => rw [slices, List.length_cons, ih, List.length_cons]

/-- A slice takes the bytes up to its line end. -/
theorem slices_cons {e : Int} (h : e + 1 = start + line.length) :
    slices start (e :: ends) (line ++ bytes) = line :: slices (e + 1) ends bytes := by
  have hlength : (e + 1 - start).toNat = line.length := by omega
  rw [slices, hlength, List.take_left, List.drop_left]

/-- The slices of a text are its lines. -/
theorem slices_eq_linesAfter {here last : Int} (hhere : here = start + line.length)
    (hlast : last = here + bytes.length - 1) :
    slices start (terminators here bytes ++ [last]) (line ++ bytes) = linesAfter line bytes := by
  fun_induction linesAfter line bytes generalizing start here with
  | case1 line =>
    rw [List.length_nil] at hlast
    exact slices_cons (by omega)
  | case2 line b rest hb ih =>
    rw [List.length_cons] at hlast
    have hend : here + 1 = start + (line ++ [b]).length := by
      rw [List.length_append, List.length_singleton]
      omega
    rw [terminators_cons, if_pos hb, List.cons_append, List.append_cons line, slices_cons hend]
    exact congrArg _ (ih (by simp) (by omega))
  | case3 line b rest hb ih =>
    rw [List.length_cons] at hlast
    have hnext : here + 1 = start + (line ++ [b]).length := by
      rw [List.length_append, List.length_singleton]
      omega
    rw [terminators_cons, if_neg hb, List.append_cons line]
    exact ih hnext (by omega)

theorem lines_eq_linesAfter : lines bytes = linesAfter [] bytes := by
  have h := @slices_eq_linesAfter [] bytes 0 0 (bytes.length - 1) rfl (by omega)
  exact h

/-- The slices in front of a line reach up to its start. -/
theorem length_flatten_take_slices (hasc : ends.Pairwise (· ≤ ·))
    (hends : ∀ e ∈ ends, start ≤ e + 1 ∧ e < start + bytes.length) {i : ℕ} (hi : i ≤ ends.length) :
    (((slices start ends bytes).take i).flatten.length : Int) = startFrom start ends i - start := by
  induction ends generalizing start bytes i with
  | nil =>
    obtain rfl : i = 0 := Nat.le_zero.1 hi
    simp [slices, startFrom]
  | cons e ends ih =>
    cases i with
    | zero => simp [startFrom]
    | succ i =>
      obtain ⟨hfirst, hrest⟩ := List.pairwise_cons.1 hasc
      obtain ⟨hle, hlt⟩ := hends e List.mem_cons_self
      have hdropped : ∀ e' ∈ ends, e + 1 ≤ e' + 1 ∧
          e' < e + 1 + (bytes.drop (e + 1 - start).toNat).length := by
        intro e' he'
        have hle' := hfirst e' he'
        have hlt' := (hends e' (List.mem_cons_of_mem e he')).2
        rw [List.length_drop]
        omega
      have hi' : i ≤ ends.length := Nat.le_of_succ_le_succ hi
      have hnext := ih hrest hdropped hi'
      have hstart : startFrom start (e :: ends) (i + 1) = startFrom (e + 1) ends i := by
        cases i <;> rfl
      rw [slices, List.take_succ_cons, List.flatten_cons, List.length_append, Int.natCast_add,
        hnext, hstart, List.length_take]
      omega

/-! ## The table of a text -/

theorem pairwise_ofBytes : (ofBytes bytes).Pairwise (· ≤ ·) := by
  refine List.pairwise_append.2 ⟨pairwise_terminators.imp Int.le_of_lt, List.pairwise_singleton ..,
    fun e he e' he' => ?_⟩
  have hlt := le_of_mem_terminators he
  rw [List.mem_singleton.1 he']
  omega

theorem bounds_of_mem_ofBytes {e : Int} (he : e ∈ ofBytes bytes) :
    0 ≤ e + 1 ∧ e < 0 + (bytes.length : Int) := by
  rcases List.mem_append.1 he with he | he
  · have hlt := le_of_mem_terminators he
    omega
  · rw [List.mem_singleton.1 he]
    omega

/-- The lines in front of a line reach up to its start. -/
theorem length_flatten_take_lines {i : ℕ} (hi : i ≤ (ofBytes bytes).length) :
    (((lines bytes).take i).flatten.length : Int) = (ofBytes bytes).lineStart i := by
  rw [lineStart_eq_startFrom, lines,
    length_flatten_take_slices pairwise_ofBytes (fun e he => bounds_of_mem_ofBytes he) hi,
    Int.sub_zero]

/-- Inside a text, an offset lies on a line of the table. -/
theorem endsBefore_ofBytes_lt {offset : Int} (h : offset < bytes.length) :
    (ofBytes bytes).endsBefore offset < (ofBytes bytes).length := by
  rw [endsBefore, takeWhile_ofBytes_of_lt h, ofBytes, List.length_append, List.length_singleton]
  exact Nat.lt_succ_of_le (List.takeWhile_sublist _).length_le

/-- An offset inside a text lies on the line that the table counts. -/
theorem endsBefore_within {offset : ℕ} (h : offset < bytes.length) :
    ((lines bytes).take ((ofBytes bytes).endsBefore offset)).flatten.length ≤ offset ∧
      offset <
        ((lines bytes).take ((ofBytes bytes).endsBefore offset + 1)).flatten.length := by
  have hentry := endsBefore_ofBytes_lt (Int.ofNat_lt.2 h)
  have hstart : (ofBytes bytes).lineStart ((ofBytes bytes).endsBefore offset) ≤ offset :=
    lineStart_endsBefore_le (Int.natCast_nonneg offset)
  have hend := le_getD_endsBefore hentry
  have hbefore := length_flatten_take_lines (Nat.le_of_lt hentry)
  have hafter := length_flatten_take_lines (i := (ofBytes bytes).endsBefore offset + 1) hentry
  rw [lineStart] at hafter
  omega

/-- A text with all three terminators, one of them at its end. -/
def mixedLines : Source :=
  .ofString "a\r\nb\rc\n"

end LineEnds

end TreeBridge
