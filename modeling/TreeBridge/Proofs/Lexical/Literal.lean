import Mathlib.Order.Nat
import TreeBridge.Proofs.Lexical.Tiling
/-!
# Where a quoted literal ends

A quoted literal ends at the first place that may end it: the end of the
input, before a line break or behind its quote. But a backslash takes the
byte behind it along whatever that byte is, so neither a quote nor a line
break counts behind a backslash that no other backslash takes along
(`Escaped`). A literal that its line leaves open stops at the end of the
line unless the line ends in such a backslash; then it runs on into the
next one.
-/

namespace TreeBridge

namespace Lexical

variable {b quote : UInt8} {bytes rest : List UInt8} {i k n : Nat}

/-! ## Escapes -/

/-- Whether an odd number of backslashes stands right before an offset, so
that the last of them takes the byte there along. -/
def Escaped (bytes : List UInt8) (i : Nat) : Prop :=
  ((bytes.take i).reverse.takeWhile (· == Byte.backslash)).length % 2 = 1

instance : Decidable (Escaped bytes i) :=
  inferInstanceAs (Decidable (_ = _))

/-- A byte is escaped by a backslash that is not escaped itself. -/
theorem escaped_succ_iff (hb : bytes[i]? = some b) :
    Escaped bytes (i + 1) ↔ b = Byte.backslash ∧ ¬Escaped bytes i := by
  rw [Escaped, Escaped, List.take_add_one, hb, Option.toList_some, List.reverse_append,
    List.reverse_singleton, List.singleton_append]
  by_cases hescape : b = Byte.backslash
  · rw [List.takeWhile_cons_of_pos (by simp [hescape]), List.length_cons, and_iff_right hescape]
    omega
  · rw [List.takeWhile_cons_of_neg (by simp [hescape]), List.length_nil]
    exact iff_of_false (by decide) fun h => hescape h.1

/-! ## The end of a literal -/

/-- Whether a line feed or a carriage return stands at an offset. -/
def BreakAt (bytes : List UInt8) (i : Nat) : Prop :=
  ∃ b, bytes[i]? = some b ∧ Byte.isLineBreak b = true

theorem BreakAt.isLineBreak (h : BreakAt bytes i) (hb : bytes[i]? = some b) :
    Byte.isLineBreak b = true := by
  obtain ⟨c, hc, hbreak⟩ := h
  rwa [Option.some.inj (hb.symm.trans hc)]

/-- **What may end a literal** whose first byte behind the quote is at
`start`: the end of the input, a line break that is not escaped, which
stays outside, and a quote that is not escaped, which belongs to it. -/
inductive LiteralEnd (bytes : List UInt8) (quote : UInt8) (start : Nat) : Nat → Prop
  | atEnd (hle : start ≤ bytes.length) : LiteralEnd bytes quote start bytes.length
  | before {i : Nat} (hle : start ≤ i) (hbreak : BreakAt bytes i) (hescaped : ¬Escaped bytes i) :
      LiteralEnd bytes quote start i
  | behind {i : Nat} (hle : start ≤ i) (hquote : bytes[i]? = some quote)
      (hescaped : ¬Escaped bytes i) : LiteralEnd bytes quote start (i + 1)

namespace LiteralEnd

theorem le (h : LiteralEnd bytes quote k n) : k ≤ n := by
  cases h with
  | atEnd hle => exact hle
  | before hle => exact hle
  | behind hle => exact Nat.le_succ_of_le hle

/-- No literal ends before a byte that is no line break. -/
theorem lt (hb : bytes[k]? = some b) (hbreak : ¬Byte.isLineBreak b = true)
    (h : LiteralEnd bytes quote k n) : k < n := by
  cases h with
  | atEnd hle => exact (List.getElem?_eq_some_iff.1 hb).1
  | before hle hat =>
    rcases Nat.eq_or_lt_of_le hle with rfl | hlt
    · exact absurd (hat.isLineBreak hb) hbreak
    · exact hlt
  | behind hle => exact Nat.lt_succ_of_le hle

theorem mono (hle : i ≤ k) (h : LiteralEnd bytes quote k n) : LiteralEnd bytes quote i n := by
  cases h with
  | atEnd h => exact .atEnd (hle.trans h)
  | before h hbreak hescaped => exact .before (hle.trans h) hbreak hescaped
  | behind h hquote hescaped => exact .behind (hle.trans h) hquote hescaped

/-- **One step.** A literal goes on over a byte that is escaped, and over
one that is neither a line break nor the quote. -/
theorem succ_iff (hb : bytes[k]? = some b)
    (hpass : Escaped bytes k ∨ ¬Byte.isLineBreak b = true ∧ b ≠ quote) :
    LiteralEnd bytes quote (k + 1) n ↔ LiteralEnd bytes quote k n := by
  refine ⟨mono (Nat.le_succ k), fun h => ?_⟩
  cases h with
  | atEnd => exact .atEnd (List.getElem?_eq_some_iff.1 hb).1
  | before hle hat hescaped =>
    refine .before (Nat.lt_of_le_of_ne hle ?_) hat hescaped
    rintro rfl
    exact (hpass.resolve_left hescaped).1 (hat.isLineBreak hb)
  | behind hle hquote hescaped =>
    refine .behind (Nat.lt_of_le_of_ne hle ?_) hquote hescaped
    rintro rfl
    obtain rfl := Option.some.inj (hb.symm.trans hquote)
    exact (hpass.resolve_left hescaped).2 rfl

end LiteralEnd

/-- The bytes from an offset on, one further. -/
theorem drop_succ_of_drop (h : bytes.drop k = b :: rest) :
    bytes[k]? = some b ∧ bytes.drop (k + 1) = rest := by
  constructor
  · have hhead : (bytes.drop k)[0]? = bytes[k]? := List.getElem?_drop
    rw [← hhead, h, List.getElem?_cons_zero]
  · rw [← List.drop_drop, h, List.drop_succ_cons, List.drop_zero]

/-- **A literal ends at the first place that may end it.** The induction is
along the clauses of `quotedLength`; between two of them the place reached
is never escaped. -/
theorem isLeast_quotedLength {all : List UInt8} (hescape : quote ≠ Byte.backslash)
    (hdrop : all.drop k = bytes) (hle : k ≤ all.length) (hk : ¬Escaped all k) :
    IsLeast {n | LiteralEnd all quote k n} (k + quotedLength quote bytes) := by
  fun_induction quotedLength quote bytes generalizing k with
  | case1 =>
    have hend : k = all.length := Nat.le_antisymm hle (List.drop_eq_nil_iff.1 hdrop)
    refine ⟨?_, fun n hn => hn.le⟩
    show LiteralEnd all quote k k
    rw [hend]
    exact .atEnd (Nat.le_refl _)
  | case2 b hbreak =>
    have hb := (drop_succ_of_drop hdrop).1
    exact ⟨.before (Nat.le_refl k) ⟨b, hb, hbreak⟩ hk, fun n hn => hn.le⟩
  | case3 b hbreak =>
    obtain ⟨hb, hnil⟩ := drop_succ_of_drop hdrop
    have hend : k + 1 = all.length :=
      Nat.le_antisymm (List.getElem?_eq_some_iff.1 hb).1 (List.drop_eq_nil_iff.1 hnil)
    refine ⟨?_, fun n hn => hn.lt hb hbreak⟩
    show LiteralEnd all quote k (k + 1)
    rw [hend]
    exact .atEnd hle
  | case4 b c rest hbackslash ih =>
    obtain ⟨hb, hrest⟩ := drop_succ_of_drop hdrop
    obtain ⟨hc, hrest⟩ := drop_succ_of_drop hrest
    obtain rfl : b = Byte.backslash := eq_of_beq hbackslash
    have hescaped : Escaped all (k + 1) := (escaped_succ_iff hb).2 ⟨rfl, hk⟩
    have hbehind := ih hrest (List.getElem?_eq_some_iff.1 hc).1
      fun h => ((escaped_succ_iff hc).1 h).2 hescaped
    simp only [LiteralEnd.succ_iff hc (.inl hescaped),
      LiteralEnd.succ_iff hb (.inr ⟨by decide, hescape.symm⟩)] at hbehind
    have hlength : k + (quotedLength quote rest + 2) = k + 1 + 1 + quotedLength quote rest := by
      omega
    rwa [hlength]
  | case5 b c rest hbackslash hbreak =>
    have hb := (drop_succ_of_drop hdrop).1
    exact ⟨.before (Nat.le_refl k) ⟨b, hb, hbreak⟩ hk, fun n hn => hn.le⟩
  | case6 b c rest hbackslash hbreak hclose =>
    obtain rfl : b = quote := eq_of_beq hclose
    have hb := (drop_succ_of_drop hdrop).1
    exact ⟨.behind (Nat.le_refl k) hb hk, fun n hn => hn.lt hb hbreak⟩
  | case7 b c rest hbackslash hbreak hclose ih =>
    rw [beq_iff_eq] at hbackslash hclose
    obtain ⟨hb, hrest⟩ := drop_succ_of_drop hdrop
    have hbehind := ih hrest (List.getElem?_eq_some_iff.1 hb).1
      fun h => hbackslash ((escaped_succ_iff hb).1 h).1
    simp only [LiteralEnd.succ_iff hb (.inr ⟨hbreak, hclose⟩)] at hbehind
    rwa [← Nat.add_assoc, Nat.add_right_comm]

/-- The quote that opens and closes a literal of a kind. -/
def TokenKind.quote? : TokenKind → Option UInt8
  | string => some Byte.doubleQuote
  | char => some Byte.singleQuote
  | _ => none

theorem TokenKind.quote?_spec {kind : TokenKind} (h : kind.quote? = some quote) :
    quote ≠ Byte.backslash ∧ ¬Byte.isLineBreak quote = true := by
  revert h
  cases kind with
  | string => exact fun h => Option.some.inj h ▸ by decide
  | char => exact fun h => Option.some.inj h ▸ by decide
  | _ => rintro ⟨⟩

theorem separator?_quote? {kind : TokenKind} (h : separator? b = some kind) :
    kind.quote? = none := by
  simp only [separator?] at h
  split_ifs at h <;> cases h <;> rfl

/-- A lexeme that is a literal starts with its quote and reaches as far as
the bytes behind it say. -/
theorem lexeme_of_quote? (h : (lexeme b rest).1.quote? = some quote) :
    b = quote ∧ (lexeme b rest).2 = quotedLength quote rest := by
  revert h
  rw [lexeme]
  split
  · rintro ⟨⟩
  split
  · rintro ⟨⟩
  split
  · rintro ⟨⟩
  split
  · next hopen =>
    intro h
    obtain rfl := Option.some.inj h
    exact ⟨eq_of_beq hopen, rfl⟩
  split
  · next hopen =>
    intro h
    obtain rfl := Option.some.inj h
    exact ⟨eq_of_beq hopen, rfl⟩
  split
  · rintro ⟨⟩
  split
  · rintro ⟨⟩
  split
  · rintro ⟨⟩
  cases hseparator : separator? b with
  | some kind =>
    intro h
    cases (separator?_quote? hseparator).symm.trans h
  | none =>
    dsimp only
    split_ifs <;> rintro ⟨⟩

variable {s : Source} {t : Token} {start : Int}

/-- **A literal reaches to the first place that may end it.** -/
theorem isLeast_stop (ht : t ∈ tokens s start) (hquote : t.kind.quote? = some quote) :
    s.bytes[t.start]? = some quote ∧
      IsLeast {n | LiteralEnd s.bytes quote (t.start + 1) n} t.stop := by
  obtain ⟨offset, hread⟩ := scans_tokens.exists_nextToken? ht
  obtain ⟨b, rest, hdrop, hkind, hstop⟩ := lexeme_of_nextToken? hread
  rw [hkind] at hquote
  obtain ⟨rfl, hlength⟩ := lexeme_of_quote? hquote
  obtain ⟨hb, hrest⟩ := drop_succ_of_drop hdrop
  have hescape := (TokenKind.quote?_spec hquote).1
  refine ⟨hb, ?_⟩
  rw [hstop, hlength, Nat.add_right_comm]
  exact isLeast_quotedLength hescape hrest (List.getElem?_eq_some_iff.1 hb).1
    fun h => hescape ((escaped_succ_iff hb).1 h).1

/-- The quote of a literal is no line break. -/
theorem lt_of_breakAt (hb : bytes[k]? = some quote) (hbreak : ¬Byte.isLineBreak quote = true)
    (hle : k ≤ i) (hi : BreakAt bytes i) : k < i := by
  rcases Nat.eq_or_lt_of_le hle with rfl | hlt
  · exact absurd (hi.isLineBreak hb) hbreak
  · exact hlt

/-- A literal reaches past the end of its line exactly if that end is
escaped, and every quote before it. -/
theorem lt_stop_iff {e : Nat} (h : IsLeast {n | LiteralEnd bytes quote (k + 1) n} n)
    (he : IsLeast {i | k < i ∧ BreakAt bytes i} e) :
    e < n ↔ Escaped bytes e ∧ ∀ j, k < j → j < e → bytes[j]? = some quote → Escaped bytes j := by
  obtain ⟨⟨hstart, hat⟩, hfirst⟩ := he
  constructor
  · intro hlt
    constructor
    · by_contra hescaped
      have hle := h.2 (.before hstart hat hescaped)
      omega
    · intro j hj hje hquote
      by_contra hescaped
      have hle := h.2 (.behind hj hquote hescaped)
      omega
  · rintro ⟨hescaped, hquotes⟩
    by_contra hle
    obtain ⟨c, hc, -⟩ := hat
    have hsize := (List.getElem?_eq_some_iff.1 hc).1
    cases h.1 with
    | atEnd => omega
    | before hstart' hat' hescaped' =>
      have hge := hfirst ⟨hstart', hat'⟩
      obtain rfl : e = n := by omega
      exact hescaped' hescaped
    | @behind j hstart' hquote hescaped' => exact hescaped' (hquotes j hstart' (by omega) hquote)

/-- **Where a literal ends, and when it stays on its line.** A token that
is a string or a character reaches to the first place that may end it. So
the line breaks in it are escaped, and it holds none exactly if the end of
its line is not escaped or a quote that is not escaped stands before it. -/
theorem isLeast_stop_and_sameLine_iff (ht : t ∈ tokens s start)
    (hquote : t.kind.quote? = some quote) :
    IsLeast {n | LiteralEnd s.bytes quote (t.start + 1) n} t.stop ∧
      (∀ i, t.start ≤ i → i < t.stop → BreakAt s.bytes i → Escaped s.bytes i) ∧
      ((∀ i, t.start ≤ i → i < t.stop → ¬BreakAt s.bytes i) ↔
        ∀ e, IsLeast {i | t.start < i ∧ BreakAt s.bytes i} e → Escaped s.bytes e →
          ∃ j, t.start < j ∧ j < e ∧ s.bytes[j]? = some quote ∧ ¬Escaped s.bytes j) := by
  obtain ⟨hb, hleast⟩ := isLeast_stop ht hquote
  have hbreak := (TokenKind.quote?_spec hquote).2
  refine ⟨hleast, ?_, ?_, ?_⟩
  · intro i hle hlt hat
    by_contra hescaped
    have hge := hleast.2 (.before (lt_of_breakAt hb hbreak hle hat) hat hescaped)
    omega
  · intro hnone e he hescaped
    by_contra hquotes
    push Not at hquotes
    have hlt := (lt_stop_iff hleast he).2 ⟨hescaped, hquotes⟩
    exact hnone e (Nat.le_of_lt he.1.1) hlt he.1.2
  · intro hends i hle hlt hat
    classical
    have hnonempty : {i | t.start < i ∧ BreakAt s.bytes i}.Nonempty :=
      ⟨i, lt_of_breakAt hb hbreak hle hat, hat⟩
    have he := hnonempty.isLeast_natFind
    have hei := he.2 ⟨lt_of_breakAt hb hbreak hle hat, hat⟩
    obtain ⟨hescaped, hquotes⟩ := (lt_stop_iff hleast he).1 (by omega)
    obtain ⟨j, hj, hje, hquote, hnot⟩ := hends _ he hescaped
    exact hnot (hquotes j hj hje hquote)

/-- A string that its line leaves open behind a backslash. -/
def openAtBackslash : Source :=
  .ofString "\"\\\nx"

theorem tokens_openAtBackslash :
    tokens openAtBackslash 0 = [⟨.string, 0, 4⟩] ∧ BreakAt openAtBackslash.bytes 2 :=
  ⟨by decide +kernel, Byte.lineFeed, by decide +kernel⟩

theorem isLeast_stop_openAtBackslash :
    ⟨.string, 0, 4⟩ ∈ tokens openAtBackslash 0 ∧
      TokenKind.string.quote? = some Byte.doubleQuote ∧
      IsLeast {n | LiteralEnd openAtBackslash.bytes Byte.doubleQuote 1 n} 4 ∧
      Escaped openAtBackslash.bytes 2 := by
  have ht : ⟨.string, 0, 4⟩ ∈ tokens openAtBackslash 0 := by decide +kernel
  have hbreak : BreakAt openAtBackslash.bytes 2 := ⟨Byte.lineFeed, by decide +kernel⟩
  obtain ⟨hstop, hescaped, -⟩ := isLeast_stop_and_sameLine_iff ht rfl
  exact ⟨ht, rfl, hstop, hescaped 2 (by decide) (by decide) hbreak⟩

end Lexical

end TreeBridge
