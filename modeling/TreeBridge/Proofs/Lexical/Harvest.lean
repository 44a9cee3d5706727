import TreeBridge.Lexical.Scan
import TreeBridge.Proofs.Lexical.Automaton
/-!
# Comments among tokens

The lexer takes names, numbers and operators in one stride where the
comment automaton goes byte by byte. The two see the same comments: the
bytes that a stride passes over are inert (`plain_lexeme`), and a stride
over a comment or a literal ends where the automaton is back in code.
-/

namespace TreeBridge

namespace Lexical

variable {b c : UInt8} {bytes rest : List UInt8}

/-! ## Strides over inert bytes -/

theorem inert_of_isIdentifier (h : Byte.isIdentifier b = true) : Inert b := by
  refine ⟨?_, ?_, ?_⟩ <;> rintro rfl <;> exact absurd h (by decide)

theorem inert_of_isSpace (h : Byte.isSpace b = true) : Inert b := by
  refine ⟨?_, ?_, ?_⟩ <;> rintro rfl <;> exact absurd h (by decide)

theorem inert_of_isNumberByte (h : isNumberByte b = true) : Inert b := by
  refine ⟨?_, ?_, ?_⟩ <;> rintro rfl <;> exact absurd h (by decide)

theorem inert_of_isSign (h : Byte.isSign b = true) : Inert b := by
  refine ⟨?_, ?_, ?_⟩ <;> rintro rfl <;> exact absurd h (by decide)

theorem inert_of_isExponent {hex : Bool} (h : isExponent hex b = true) : Inert b := by
  refine ⟨?_, ?_, ?_⟩ <;> rintro rfl <;> cases hex <;> exact absurd h (by decide)

theorem inert_of_mem_take_numberLength {hex : Bool}
    (h : c ∈ bytes.take (numberLength hex bytes)) : Inert c := by
  fun_induction numberLength hex bytes with
  | case1 => exact absurd h (by simp)
  | case2 b hb =>
    obtain rfl : c = b := by simpa using h
    exact inert_of_isNumberByte hb
  | case3 b hb => exact absurd h (by simp)
  | case4 b sign rest hexponent ih =>
    rw [Bool.and_eq_true] at hexponent
    rw [List.take_succ_cons, List.take_succ_cons, List.mem_cons, List.mem_cons] at h
    rcases h with rfl | rfl | h
    · exact inert_of_isExponent hexponent.1
    · exact inert_of_isSign hexponent.2
    · exact ih h
  | case5 b next rest hexponent hb ih =>
    rw [List.take_succ_cons, List.mem_cons] at h
    rcases h with rfl | h
    · exact inert_of_isNumberByte hb
    · exact ih h
  | case6 b next rest hexponent hb => exact absurd h (by simp)

theorem inert_of_mem_take_takeWhile
    (h : c ∈ rest.take (rest.takeWhile Byte.isIdentifier).length) : Inert c := by
  have htake := List.prefix_iff_eq_take.1 (List.takeWhile_prefix Byte.isIdentifier (l := rest))
  rw [← htake] at h
  exact inert_of_isIdentifier (List.all_eq_true.1 List.all_takeWhile c h)

/-- The slash is no byte of a long operator but its first. -/
theorem inert_of_mem_tail_longOperators :
    ∀ op ∈ longOperators, ∀ c ∈ op.tail, Inert c := by
  decide +kernel

theorem inert_of_mem_take_operatorLength (h : c ∈ rest.take (operatorLength (b :: rest) - 1)) :
    Inert c := by
  rw [operatorLength] at h
  cases hop : longOperators.find? (fun op => op.isPrefixOf (b :: rest)) with
  | none =>
    rw [hop] at h
    exact absurd h (by simp)
  | some op =>
    rw [hop] at h
    have hprefix := List.find?_some (p := fun op : List UInt8 => op.isPrefixOf (b :: rest)) hop
    obtain ⟨bytes, hbytes⟩ := List.isPrefixOf_iff_prefix.1 hprefix
    refine inert_of_mem_tail_longOperators op (List.mem_of_find?_eq_some hop) c ?_
    cases op with
    | nil => exact absurd h (by simp)
    | cons first tail =>
      obtain ⟨rfl, rfl⟩ := List.cons.inj hbytes
      simpa using h

/-- Whether a byte and those behind it open a comment or a literal. -/
def Opens (b : UInt8) (rest : List UInt8) : Prop :=
  (b = Byte.slash ∧ (rest[0]? = some Byte.slash ∨ rest[0]? = some Byte.star)) ∨
    b = Byte.doubleQuote ∨ b = Byte.singleQuote

/-- A token that is no comment, and whose bytes behind the first are
inert. -/
def Plain (lexeme : TokenKind × Nat) (rest : List UInt8) : Prop :=
  lexeme.1.comment? = none ∧ ∀ c ∈ rest.take lexeme.2, Inert c

theorem plain_single {kind : TokenKind} (h : kind.comment? = none) : Plain (kind, 0) rest :=
  ⟨h, fun c hc => absurd hc (by simp)⟩

theorem separator?_comment? {kind : TokenKind} (h : separator? b = some kind) :
    kind.comment? = none := by
  simp only [separator?] at h
  split_ifs at h <;> cases h <;> rfl

/-- **Where nothing opens, a token is plain.** -/
theorem plain_lexeme (h : ¬Opens b rest) : Plain (lexeme b rest) rest := by
  rw [Opens, not_or, not_or, not_and, not_or] at h
  obtain ⟨hslash, hdouble, hsingle⟩ := h
  have hline : ¬((b == Byte.slash && rest.head? == some Byte.slash) = true) := by
    rw [Bool.and_eq_true, beq_iff_eq, beq_iff_eq, List.head?_eq_getElem?]
    exact fun h => (hslash h.1).1 h.2
  have hblock : ¬((b == Byte.slash && rest.head? == some Byte.star) = true) := by
    rw [Bool.and_eq_true, beq_iff_eq, beq_iff_eq, List.head?_eq_getElem?]
    exact fun h => (hslash h.1).2 h.2
  rw [lexeme, if_neg hline, if_neg hblock, if_neg (by simp [hdouble]), if_neg (by simp [hdouble]),
    if_neg (by simp [hsingle])]
  split
  · exact ⟨rfl, fun c hc => inert_of_mem_take_numberLength hc⟩
  split
  · exact ⟨rfl, fun c hc => inert_of_mem_take_numberLength hc⟩
  split
  · exact plain_single rfl
  cases hseparator : separator? b with
  | some kind => exact plain_single (separator?_comment? hseparator)
  | none =>
    dsimp only
    split_ifs
    · exact ⟨rfl, fun c hc => inert_of_mem_take_takeWhile hc⟩
    · exact ⟨rfl, fun c hc => inert_of_mem_take_takeWhile hc⟩
    · exact ⟨rfl, fun c hc => inert_of_mem_take_operatorLength hc⟩
    · exact plain_single rfl

/-! ## Tokens and the automaton -/

variable {offset : Nat}

theorem step_code_of_not_opens (h : ¬Opens b rest) :
    Mode.code.step offset b rest = ⟨.code, 0, none⟩ := by
  rw [Opens, not_or, not_and, not_or] at h
  obtain ⟨hslash, hquote⟩ := h
  rw [Mode.step, if_neg fun h => (hslash h.1).1 h.2, if_neg fun h => (hslash h.1).2 h.2,
    if_neg fun h => hquote (.inl h.1), if_neg hquote]

/-- The comment that a lexeme at `offset` is. -/
def remark? (offset : Nat) (lexeme : TokenKind × Nat) : Option Remark :=
  lexeme.1.comment?.map (fun kind => ⟨kind, offset, offset + lexeme.2 + 1⟩)

/-- The automaton at a byte passes over `lexeme`: it reports the comment
that the lexeme is and is in code again at the byte past it. -/
def PassesOver (offset : Nat) (b : UInt8) (rest : List UInt8) (lexeme : TokenKind × Nat) : Prop :=
  harvest .code offset 0 (b :: rest) =
    (remark? offset lexeme).toList ++
      harvest .code (offset + 1 + lexeme.2) 0 (rest.drop lexeme.2)

theorem passesOver_line :
    PassesOver offset Byte.slash (Byte.slash :: rest) (lexeme Byte.slash (Byte.slash :: rest)) := by
  have hlexeme : lexeme Byte.slash (Byte.slash :: rest) =
      (.comment .line, (rest.takeWhile (fun c => !Byte.isLineBreak c)).length + 1) := rfl
  have hrun : harvest .code offset 0 (Byte.slash :: Byte.slash :: rest) =
      harvest (.line offset) (offset + 1 + 1) 0 rest := rfl
  rw [hlexeme, PassesOver, hrun, harvest_line, List.drop_succ_cons]
  generalize (rest.takeWhile (fun c => !Byte.isLineBreak c)).length = n
  have hstop : offset + 1 + 1 + n = offset + (n + 1) + 1 := by omega
  have hnext : offset + 1 + 1 + n = offset + 1 + (n + 1) := by omega
  rw [← hnext, hstop]
  rfl

theorem step_block :
    Mode.code.step offset Byte.slash (Byte.star :: rest) =
      ⟨.block (blockKind (Byte.star :: rest)) offset, 1, none⟩ := by
  have hline : ¬(Byte.slash = Byte.slash ∧ (Byte.star :: rest)[0]? = some Byte.slash) :=
    fun h => absurd h.2 (by simp; decide)
  rw [Mode.step, if_neg hline, if_pos ⟨rfl, rfl⟩, blockKind]
  simp only [Bool.and_eq_true, beq_iff_eq, bne_iff_ne]
  split_ifs <;> rfl

theorem passesOver_block :
    PassesOver offset Byte.slash (Byte.star :: rest) (lexeme Byte.slash (Byte.star :: rest)) := by
  have hlexeme : lexeme Byte.slash (Byte.star :: rest) =
      (.comment (blockKind (Byte.star :: rest)), blockLength rest + 1) := rfl
  have hrun : harvest .code offset 0 (Byte.slash :: Byte.star :: rest) =
      harvest (.block (blockKind (Byte.star :: rest)) offset) (offset + 1 + 1) 0 rest := by
    rw [harvest_cons, step_block]
    rfl
  rw [hlexeme, PassesOver, hrun, harvest_block, List.drop_succ_cons]
  generalize blockLength rest = n
  have hstop : offset + 1 + 1 + n = offset + (n + 1) + 1 := by omega
  have hnext : offset + 1 + 1 + n = offset + 1 + (n + 1) := by omega
  rw [← hnext, hstop]
  rfl

theorem passesOver_text :
    PassesOver offset Byte.doubleQuote (Byte.doubleQuote :: Byte.doubleQuote :: rest)
      (lexeme Byte.doubleQuote (Byte.doubleQuote :: Byte.doubleQuote :: rest)) := by
  have hlexeme : lexeme Byte.doubleQuote (Byte.doubleQuote :: Byte.doubleQuote :: rest) =
      (.textBlock, textBlockLength rest + 2) := rfl
  have hrun : harvest .code offset 0
      (Byte.doubleQuote :: Byte.doubleQuote :: Byte.doubleQuote :: rest) =
      harvest .text (offset + 1 + 1 + 1) 0 rest := rfl
  rw [hlexeme, PassesOver, hrun, harvest_text, List.drop_succ_cons, List.drop_succ_cons]
  generalize textBlockLength rest = n
  have hnext : offset + 1 + 1 + 1 + n = offset + 1 + (n + 2) := by omega
  rw [hnext]
  rfl

theorem passesOver_string (h : ¬[Byte.doubleQuote, Byte.doubleQuote] <+: rest) :
    PassesOver offset Byte.doubleQuote rest (lexeme Byte.doubleQuote rest) := by
  have hslash : Byte.doubleQuote ≠ Byte.slash := by decide
  have htext : ¬([Byte.doubleQuote, Byte.doubleQuote].isPrefixOf rest = true) :=
    fun h' => h (List.isPrefixOf_iff_prefix.1 h')
  have hlexeme : lexeme Byte.doubleQuote rest =
      (.string, quotedLength Byte.doubleQuote rest) := by
    rw [lexeme, if_neg (by simp [hslash]), if_neg (by simp [hslash]), if_neg (by simp [htext]),
      if_pos (by simp)]
  have hstep : Mode.code.step offset Byte.doubleQuote rest =
      ⟨.quoted Byte.doubleQuote, 0, none⟩ := by
    rw [Mode.step, if_neg fun h => hslash h.1, if_neg fun h => hslash h.1, if_neg fun h' => h h'.2,
      if_pos (.inl rfl)]
  rw [hlexeme, PassesOver, harvest_cons, hstep]
  exact harvest_quoted

theorem passesOver_char :
    PassesOver offset Byte.singleQuote rest (lexeme Byte.singleQuote rest) := by
  have hlexeme : lexeme Byte.singleQuote rest =
    (.char, quotedLength Byte.singleQuote rest) := rfl
  rw [hlexeme, PassesOver, harvest_cons]
  exact harvest_quoted

theorem passesOver_plain (h : ¬Opens b rest) : PassesOver offset b rest (lexeme b rest) := by
  obtain ⟨hkind, hinert⟩ := plain_lexeme h
  rw [PassesOver, harvest_cons, step_code_of_not_opens h, remark?, hkind]
  exact harvest_code_inert hinert

/-- **One stride.** The automaton passes over the lexeme at every byte. -/
theorem passesOver_lexeme : PassesOver offset b rest (lexeme b rest) := by
  by_cases hopens : Opens b rest
  · rcases hopens with ⟨rfl, hnext | hnext⟩ | rfl | rfl
    · obtain ⟨rest, rfl⟩ := List.head?_eq_some_iff.1 (List.head?_eq_getElem? ▸ hnext)
      exact passesOver_line
    · obtain ⟨rest, rfl⟩ := List.head?_eq_some_iff.1 (List.head?_eq_getElem? ▸ hnext)
      exact passesOver_block
    · by_cases htext : [Byte.doubleQuote, Byte.doubleQuote] <+: rest
      · obtain ⟨rest, rfl⟩ := htext
        exact passesOver_text
      · exact passesOver_string htext
    · exact passesOver_char
  · exact passesOver_plain hopens

theorem tokensFrom_skip (skip : Nat) :
    tokensFrom offset skip bytes = tokensFrom (offset + skip) 0 (bytes.drop skip) := by
  induction bytes generalizing offset skip with
  | nil => rw [List.drop_nil, tokensFrom, tokensFrom]
  | cons b rest ih =>
    cases skip with
    | zero => rfl
    | succ skip => rw [tokensFrom, ih, List.drop_succ_cons, Nat.add_right_comm, Nat.add_assoc]

/-- The comment a token is, by its two offsets. -/
def Token.remark? (t : Token) : Option Remark :=
  t.kind.comment?.map (fun kind => ⟨kind, t.start, t.stop⟩)

/-- The comments among the tokens of `bytes`, whose first byte is at
`offset`. -/
def remarksFrom (offset : Nat) (bytes : List UInt8) : List Remark :=
  (tokensFrom offset 0 bytes).filterMap Token.remark?

theorem remarksFrom_cons_of_isSpace (h : Byte.isSpace b = true) :
    remarksFrom offset (b :: rest) = remarksFrom (offset + 1) rest := by
  rw [remarksFrom, tokensFrom, if_pos h, remarksFrom]

/-- The first token is a comment or none, and the others start past it. -/
theorem remarksFrom_cons (h : ¬Byte.isSpace b = true) :
    remarksFrom offset (b :: rest) = (remark? offset (lexeme b rest)).toList ++
      remarksFrom (offset + 1 + (lexeme b rest).2) (rest.drop (lexeme b rest).2) := by
  rw [remarksFrom, tokensFrom, if_neg h, remarksFrom, ← tokensFrom_skip, List.filterMap_cons]
  rw [Token.remark?, remark?]
  cases (lexeme b rest).1.comment? <;> rfl

/-- **The lexer sees the comments that the automaton sees.** -/
theorem remarksFrom_eq_harvest : remarksFrom offset bytes = harvest .code offset 0 bytes := by
  induction hlength : bytes.length using Nat.strongRecOn generalizing offset bytes with
  | ind n ih =>
    cases bytes with
    | nil => rfl
    | cons b rest =>
      rw [List.length_cons] at hlength
      by_cases hspace : Byte.isSpace b = true
      · rw [remarksFrom_cons_of_isSpace hspace, ih rest.length (by omega) rfl,
          harvest_code_cons (inert_of_isSpace hspace)]
      · have hdrop : (rest.drop (lexeme b rest).2).length < n := by
          rw [List.length_drop]
          omega
        rw [remarksFrom_cons hspace, ih _ hdrop rfl]
        exact passesOver_lexeme.symm

example : harvest .code 0 0 (utf8 "\"/*\" /**/ '//' /** d".toList) =
    [⟨.block, 5, 9⟩, ⟨.doc, 15, 20⟩] := by decide

end Lexical

end TreeBridge
