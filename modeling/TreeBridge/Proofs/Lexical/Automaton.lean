import Mathlib.Tactic.SplitIfs
import TreeBridge.Lexical.Lexeme
/-!
# The comment automaton

The lexical structure that decides where the comments of a source are, as
a machine that reads one byte after the other and knows no tokens. It is
in code, in a comment or in a literal; `Mode.step` is what it does at one
byte and `harvest` is its run. The run across a comment or a literal ends
in code at the byte past it, which `harvest_line`, `harvest_block`,
`harvest_quoted` and `harvest_text` say for any bytes that follow.
-/

namespace TreeBridge

namespace Lexical

/-- A comment by its kind, the offset of its first byte and the offset of
the byte past its last. -/
structure Remark where
  kind : CommentKind
  start : Nat
  stop : Nat
  deriving DecidableEq, Repr

/-- Where the automaton is. A comment remembers where it started, a
literal which quote closes it. -/
inductive Mode
  | code
  | line (start : Nat)
  | block (kind : CommentKind) (start : Nat)
  | quoted (quote : UInt8)
  | text
  deriving DecidableEq, Repr

/-- What the automaton does at a byte: the mode it goes to, how many more
bytes it takes along unread, and the comment that ends here. -/
structure Move where
  mode : Mode
  skip : Nat
  ended : Option Remark

/-- **One step of the automaton**, at the byte `b` at `offset`, with the
bytes behind it in `rest`. -/
def Mode.step (offset : Nat) (b : UInt8) (rest : List UInt8) : Mode → Move
  | code =>
    if b = Byte.slash ∧ rest[0]? = some Byte.slash then ⟨line offset, 1, none⟩
    else if b = Byte.slash ∧ rest[0]? = some Byte.star then
      -- the third and the fourth byte of the comment
      if rest[1]? = some Byte.star ∧ rest[2]? ≠ some Byte.slash then ⟨block .doc offset, 1, none⟩
      else ⟨block .block offset, 1, none⟩
    else if b = Byte.doubleQuote ∧ [Byte.doubleQuote, Byte.doubleQuote] <+: rest then
      ⟨text, 2, none⟩
    else if b = Byte.doubleQuote ∨ b = Byte.singleQuote then ⟨quoted b, 0, none⟩
    else ⟨code, 0, none⟩
  | line start =>
    if Byte.isLineBreak b then ⟨code, 0, some ⟨.line, start, offset⟩⟩ else ⟨line start, 0, none⟩
  | block kind start =>
    if b = Byte.star ∧ rest[0]? = some Byte.slash then ⟨code, 1, some ⟨kind, start, offset + 2⟩⟩
    else ⟨block kind start, 0, none⟩
  | quoted quote =>
    if b = Byte.backslash then ⟨quoted quote, 1, none⟩
    else if Byte.isLineBreak b ∨ b = quote then ⟨code, 0, none⟩
    else ⟨quoted quote, 0, none⟩
  | text =>
    if b = Byte.backslash then ⟨text, 1, none⟩
    else if b = Byte.doubleQuote ∧ [Byte.doubleQuote, Byte.doubleQuote] <+: rest then
      ⟨code, 2, none⟩
    else ⟨text, 0, none⟩

/-- The comment that the end of the input ends. -/
def Mode.atEnd (offset : Nat) : Mode → Option Remark
  | line start => some ⟨.line, start, offset⟩
  | block kind start => some ⟨kind, start, offset⟩
  | _ => none

/-- **The run of the automaton**: the comments that end in `bytes`, whose
first byte is at `offset` and whose first `skip` bytes go unread. -/
def harvest (mode : Mode) (offset skip : Nat) : List UInt8 → List Remark
  | [] => (mode.atEnd offset).toList
  | b :: rest =>
    match skip with
    | skip + 1 => harvest mode (offset + 1) skip rest
    | 0 =>
      let move := mode.step offset b rest
      move.ended.toList ++ harvest move.mode (offset + 1) move.skip rest

/-! ## Runs -/

variable {mode : Mode} {offset start : Nat} {b quote : UInt8} {bytes rest : List UInt8}

@[simp] theorem harvest_code_nil (skip : Nat) : harvest .code offset skip [] = [] :=
  rfl

theorem harvest_skip {skip : Nat} (h : skip ≤ bytes.length) :
    harvest mode offset skip bytes = harvest mode (offset + skip) 0 (bytes.drop skip) := by
  induction bytes generalizing offset skip with
  | nil =>
    obtain rfl : skip = 0 := Nat.le_zero.1 h
    rfl
  | cons b rest ih =>
    cases skip with
    | zero => rfl
    | succ skip =>
      have hskip : skip ≤ rest.length := by
        rw [List.length_cons] at h
        omega
      rw [harvest, ih hskip, List.drop_succ_cons, Nat.add_right_comm, Nat.add_assoc]

theorem harvest_cons :
    harvest mode offset 0 (b :: rest) =
      (mode.step offset b rest).ended.toList ++
        harvest (mode.step offset b rest).mode (offset + 1) (mode.step offset b rest).skip rest :=
  rfl

/-- A byte that opens nothing, whatever follows it. -/
def Inert (b : UInt8) : Prop :=
  b ≠ Byte.slash ∧ b ≠ Byte.doubleQuote ∧ b ≠ Byte.singleQuote

instance : DecidablePred Inert := fun b =>
  inferInstanceAs (Decidable (b ≠ Byte.slash ∧ b ≠ Byte.doubleQuote ∧ b ≠ Byte.singleQuote))

theorem step_code_of_inert (h : Inert b) : Mode.code.step offset b rest = ⟨.code, 0, none⟩ := by
  obtain ⟨hslash, hdouble, hsingle⟩ := h
  rw [Mode.step, if_neg fun h => hslash h.1, if_neg fun h => hslash h.1,
    if_neg fun h => hdouble h.1, if_neg fun h => h.elim hdouble hsingle]

theorem harvest_code_cons (h : Inert b) :
    harvest .code offset 0 (b :: rest) = harvest .code (offset + 1) 0 rest := by
  rw [harvest_cons, step_code_of_inert h]
  rfl

theorem inert_of_isLineBreak (h : Byte.isLineBreak b = true) : Inert b := by
  refine ⟨?_, ?_, ?_⟩ <;> rintro rfl <;> exact absurd h (by decide)

/-- In code the run passes over inert bytes. -/
theorem harvest_code_inert {n : Nat} (h : ∀ c ∈ bytes.take n, Inert c) :
    harvest .code offset 0 bytes = harvest .code (offset + n) 0 (bytes.drop n) := by
  induction bytes generalizing offset n with
  | nil => rw [List.drop_nil, harvest_code_nil, harvest_code_nil]
  | cons b rest ih =>
    cases n with
    | zero => rfl
    | succ n =>
      rw [List.take_succ_cons, List.forall_mem_cons] at h
      rw [harvest_code_cons h.1, ih h.2, List.drop_succ_cons, Nat.add_assoc, Nat.add_comm 1]

/-- In a line comment the run comes to the next line break or to the end
of the input. -/
theorem harvest_line :
    harvest (.line start) offset 0 bytes =
      ⟨.line, start, offset + (bytes.takeWhile (fun c => !Byte.isLineBreak c)).length⟩ ::
        harvest .code (offset + (bytes.takeWhile (fun c => !Byte.isLineBreak c)).length) 0
          (bytes.drop (bytes.takeWhile (fun c => !Byte.isLineBreak c)).length) := by
  induction bytes generalizing offset with
  | nil => rfl
  | cons b rest ih =>
    rw [harvest_cons, Mode.step]
    by_cases hbreak : Byte.isLineBreak b
    · rw [if_pos hbreak, List.takeWhile_cons_of_neg (by simp [hbreak])]
      rw [List.length_nil, List.drop_zero, Nat.add_zero,
        harvest_code_cons (inert_of_isLineBreak hbreak)]
      rfl
    · rw [if_neg hbreak, List.takeWhile_cons_of_pos (by simp [hbreak]), List.length_cons,
        List.drop_succ_cons, ← Nat.add_assoc, Nat.add_right_comm]
      exact ih

/-- In a block comment the run comes to the byte past the next star and
slash, or to the end of the input. -/
theorem harvest_block {kind : CommentKind} :
    harvest (.block kind start) offset 0 bytes =
      ⟨kind, start, offset + blockLength bytes⟩ ::
        harvest .code (offset + blockLength bytes) 0 (bytes.drop (blockLength bytes)) := by
  induction bytes generalizing offset with
  | nil => rfl
  | cons b rest ih =>
    rw [harvest_cons, Mode.step, blockLength, List.head?_eq_getElem?]
    by_cases hclose : b = Byte.star ∧ rest[0]? = some Byte.slash
    · rw [if_pos hclose, if_pos (by simp [hclose])]
      have hskip : 1 ≤ rest.length := (List.getElem?_eq_some_iff.1 hclose.2).1
      rw [List.drop_succ_cons, harvest_skip hskip]
      rfl
    · rw [if_neg hclose, if_neg (by simpa using hclose), List.drop_succ_cons, ← Nat.add_assoc,
        Nat.add_right_comm]
      exact ih

/-- In a literal the run comes to the byte past its closing quote, to the
line break that cuts it or to the end of the input. -/
theorem harvest_quoted :
    harvest (.quoted quote) offset 0 bytes =
      harvest .code (offset + quotedLength quote bytes) 0
        (bytes.drop (quotedLength quote bytes)) := by
  fun_induction quotedLength quote bytes generalizing offset with
  | case1 => rfl
  | case2 b hbreak =>
    have hescape : b ≠ Byte.backslash := by rintro rfl; exact absurd hbreak (by decide)
    rw [harvest_cons, Mode.step, if_neg hescape, if_pos (.inl hbreak), List.drop_zero,
      Nat.add_zero, harvest_code_cons (inert_of_isLineBreak hbreak)]
    rfl
  | case3 b hbreak =>
    rw [harvest_cons, Mode.step]
    split_ifs <;> rfl
  | case4 b c rest hescape ih =>
    rw [harvest_cons, Mode.step, if_pos (eq_of_beq hescape), List.drop_succ_cons,
      List.drop_succ_cons, ← Nat.add_assoc, Nat.add_right_comm]
    exact ih
  | case5 b c rest hescape hbreak =>
    rw [beq_iff_eq] at hescape
    rw [harvest_cons, Mode.step, if_neg hescape, if_pos (.inl hbreak), List.drop_zero,
      Nat.add_zero, harvest_code_cons (inert_of_isLineBreak hbreak)]
    rfl
  | case6 b c rest hescape hbreak hquote =>
    rw [beq_iff_eq] at hescape hquote
    rw [harvest_cons, Mode.step, if_neg hescape, if_pos (.inr hquote)]
    rfl
  | case7 b c rest hescape hbreak hquote ih =>
    rw [beq_iff_eq] at hescape hquote
    have hstay : ¬(Byte.isLineBreak b = true ∨ b = quote) := by
      rw [not_or]
      exact ⟨hbreak, hquote⟩
    rw [harvest_cons, Mode.step, if_neg hescape, if_neg hstay, List.drop_succ_cons, ← Nat.add_assoc,
      Nat.add_right_comm]
    exact ih

/-- In a text block the run comes to the byte past the three quotes that
close it, or to the end of the input. -/
theorem harvest_text :
    harvest .text offset 0 bytes =
      harvest .code (offset + textBlockLength bytes) 0 (bytes.drop (textBlockLength bytes)) := by
  fun_induction textBlockLength bytes generalizing offset with
  | case1 => rfl
  | case2 b =>
    rw [harvest_cons, Mode.step]
    split_ifs <;> rfl
  | case3 b c rest hescape ih =>
    rw [harvest_cons, Mode.step, if_pos (eq_of_beq hescape), List.drop_succ_cons,
      List.drop_succ_cons, ← Nat.add_assoc, Nat.add_right_comm]
    exact ih
  | case4 b c rest hescape hclose =>
    rw [beq_iff_eq] at hescape
    simp only [Bool.and_eq_true, beq_iff_eq] at hclose
    obtain ⟨⟨rfl, rfl⟩, hthird⟩ := hclose
    obtain ⟨rest', rfl⟩ := List.head?_eq_some_iff.1 hthird
    rfl
  | case5 b c rest hescape hclose ih =>
    rw [beq_iff_eq] at hescape
    have hstay : ¬(b = Byte.doubleQuote ∧ [Byte.doubleQuote, Byte.doubleQuote] <+: c :: rest) := by
      rintro ⟨rfl, rest', hrest⟩
      obtain ⟨rfl, rfl⟩ := List.cons.inj hrest
      exact hclose (by simp)
    rw [harvest_cons, Mode.step, if_neg hescape, if_neg hstay, List.drop_succ_cons, ← Nat.add_assoc,
      Nat.add_right_comm]
    exact ih

end Lexical

end TreeBridge
