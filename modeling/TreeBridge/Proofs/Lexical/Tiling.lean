import Mathlib.Tactic.SplitIfs
import TreeBridge.Proofs.Lexical.Harvest
import TreeBridge.Proofs.Text.Encoding
/-!
# Tokens tile the text

The tokens of a source are what repeated readings of the scanner give,
and they leave out white space only. No stride of the lexer ends inside a
character: each ends at the end of the input, before a byte of ASCII or
behind one (`endsClean_lexeme`), and there a text splits. A backslash may
take the first byte of a wide character along, but then the stride goes
on over the rest of it.
-/

namespace TreeBridge

namespace Lexical

variable {b c quote : UInt8} {bytes rest : List UInt8} {n : Nat}

/-! ## Where a stride ends -/

/-- A stride over the first `n` bytes that stops at the end of the bytes,
before a byte of ASCII or behind one. -/
structure EndsClean (bytes : List UInt8) (n : Nat) : Prop where
  le_length : n ≤ bytes.length
  clean : (∀ c, bytes[n]? = some c → c < 0x80) ∨ ∃ m c, n = m + 1 ∧ bytes[m]? = some c ∧ c < 0x80

namespace EndsClean

theorem cons (h : EndsClean rest n) : EndsClean (b :: rest) (n + 1) := by
  refine ⟨Nat.succ_le_succ h.le_length, ?_⟩
  rcases h.clean with hnext | ⟨m, c, rfl, hc, hascii⟩
  · exact Or.inl fun c hc => hnext c (by simpa using hc)
  · exact Or.inr ⟨m + 1, c, rfl, by simpa using hc, hascii⟩

theorem nil : EndsClean [] 0 :=
  ⟨Nat.le_refl _, Or.inl fun c hc => by cases hc⟩

theorem before (hb : b < 0x80) : EndsClean (b :: rest) 0 := by
  refine ⟨Nat.zero_le _, Or.inl fun c hc => ?_⟩
  obtain rfl : b = c := by simpa using hc
  exact hb

theorem behind (hb : b < 0x80) : EndsClean (b :: rest) 1 :=
  ⟨by simp, Or.inr ⟨0, b, rfl, rfl, hb⟩⟩

/-- A stride over bytes of ASCII ends clean. -/
theorem of_ascii (hb : b < 0x80) (hn : n ≤ rest.length) (h : ∀ c ∈ rest.take n, c < 0x80) :
    EndsClean (b :: rest) (n + 1) := by
  cases n with
  | zero => exact behind hb
  | succ n =>
    refine ⟨Nat.succ_le_succ hn, Or.inr ⟨n + 1, rest[n], rfl, by simp, h _ ?_⟩⟩
    rw [List.mem_take_iff_getElem]
    exact ⟨n, by omega, rfl⟩

end EndsClean

/-- The bytes of a class are of ASCII if those with a number are. -/
theorem ascii_of_class {p : UInt8 → Bool}
    (h : ∀ k < 256, p (UInt8.ofNat k) = true → UInt8.ofNat k < 0x80) (hb : p b = true) :
    b < 0x80 := by
  have hk := h b.toNat b.toNat_lt
  rw [UInt8.ofNat_toNat] at hk
  exact hk hb

theorem ascii_of_isLineBreak (h : Byte.isLineBreak b = true) : b < 0x80 :=
  ascii_of_class (by decide +kernel) h

theorem ascii_of_isSpace (h : Byte.isSpace b = true) : b < 0x80 :=
  ascii_of_class (by decide +kernel) h

theorem ascii_of_isSign (h : Byte.isSign b = true) : b < 0x80 :=
  ascii_of_class (by decide +kernel) h

theorem ascii_of_isNumberByte (h : isNumberByte b = true) : b < 0x80 :=
  ascii_of_class (by decide +kernel) h

theorem ascii_of_separator? {kind : TokenKind} (h : separator? b = some kind) : b < 0x80 :=
  ascii_of_class (p := fun c => (separator? c).isSome) (by decide +kernel) (by rw [h]; rfl)

theorem ascii_of_not_isIdentifier (h : Byte.isIdentifier b = false) : b < 0x80 := by
  simp only [Byte.isIdentifier, Bool.or_eq_false_iff, decide_eq_false_iff_not] at h
  exact UInt8.not_le.1 h.2

/-- A stride up to the first byte that is of another class. -/
theorem endsClean_takeWhile {p : UInt8 → Bool} (h : ∀ c, p c = false → c < 0x80) :
    EndsClean bytes (bytes.takeWhile p).length := by
  induction bytes with
  | nil => exact .nil
  | cons b rest ih =>
    cases hb : p b with
    | true => rw [List.takeWhile_cons_of_pos hb]; exact ih.cons
    | false => rw [List.takeWhile_cons_of_neg (by simp [hb])]; exact .before (h b hb)

theorem endsClean_blockLength : EndsClean bytes (blockLength bytes) := by
  induction bytes with
  | nil => exact .nil
  | cons b rest ih =>
    rw [blockLength]
    split
    · next hclose =>
      rw [Bool.and_eq_true, beq_iff_eq, beq_iff_eq] at hclose
      obtain ⟨rest, rfl⟩ := List.head?_eq_some_iff.1 hclose.2
      exact (EndsClean.behind (by decide)).cons
    · exact ih.cons

theorem endsClean_quotedLength (hquote : quote < 0x80) :
    EndsClean bytes (quotedLength quote bytes) := by
  fun_induction quotedLength quote bytes with
  | case1 => exact .nil
  | case2 b hbreak => exact .before (ascii_of_isLineBreak hbreak)
  | case3 b hbreak => exact EndsClean.nil.cons
  -- the byte that is taken along may start a wide character
  | case4 b c rest hescape ih => exact ih.cons.cons
  | case5 b c rest hescape hbreak => exact .before (ascii_of_isLineBreak hbreak)
  | case6 b c rest hescape hbreak hclose =>
    rw [beq_iff_eq] at hclose
    exact .behind (hclose ▸ hquote)
  | case7 b c rest hescape hbreak hclose ih => exact ih.cons

theorem endsClean_textBlockLength : EndsClean bytes (textBlockLength bytes) := by
  fun_induction textBlockLength bytes with
  | case1 => exact .nil
  | case2 b => exact EndsClean.nil.cons
  | case3 b c rest hescape ih => exact ih.cons.cons
  | case4 b c rest hescape hclose =>
    rw [Bool.and_eq_true, beq_iff_eq] at hclose
    obtain ⟨rest, rfl⟩ := List.head?_eq_some_iff.1 hclose.2
    exact (EndsClean.behind (by decide)).cons.cons
  | case5 b c rest hescape hclose ih => exact ih.cons

theorem endsClean_numberLength {hex : Bool} (hb : b < 0x80) :
    EndsClean (b :: rest) (numberLength hex rest + 1) := by
  fun_induction numberLength hex rest generalizing b with
  | case1 => exact .behind hb
  | case2 c hc => exact (EndsClean.behind (ascii_of_isNumberByte hc)).cons
  | case3 c hc => exact .behind hb
  | case4 c sign rest hexponent ih =>
    rw [Bool.and_eq_true] at hexponent
    exact (ih (ascii_of_isSign hexponent.2)).cons.cons
  | case5 c next rest hexponent hc ih => exact (ih (ascii_of_isNumberByte hc)).cons
  | case6 c next rest hexponent hc => exact .behind hb

theorem endsClean_operatorLength (hb : b < 0x80) :
    EndsClean (b :: rest) (operatorLength (b :: rest) - 1 + 1) := by
  rw [operatorLength]
  cases hop : longOperators.find? (fun op => op.isPrefixOf (b :: rest)) with
  | none => exact .behind hb
  | some op =>
    have hascii : ∀ op ∈ longOperators, ∀ c ∈ op, c < 0x80 := by decide +kernel
    have hmem := List.mem_of_find?_eq_some hop
    have hprefix := List.find?_some (p := fun op : List UInt8 => op.isPrefixOf (b :: rest)) hop
    obtain ⟨behind, hbehind⟩ := List.isPrefixOf_iff_prefix.1 hprefix
    cases op with
    | nil => exact .behind hb
    | cons first tail =>
      obtain ⟨rfl, rfl⟩ := List.cons.inj hbehind
      refine .of_ascii hb (by simp) fun c hc => hascii _ hmem c (List.mem_cons_of_mem _ ?_)
      simpa using hc

/-- **No lexeme ends inside a character**, nor past the input. -/
theorem endsClean_lexeme : EndsClean (b :: rest) ((lexeme b rest).2 + 1) := by
  rw [lexeme]
  split
  · exact (endsClean_takeWhile fun c hc => ascii_of_isLineBreak (by simpa using hc)).cons
  split
  · next hopen =>
    rw [Bool.and_eq_true, beq_iff_eq, beq_iff_eq] at hopen
    obtain ⟨rest, rfl⟩ := List.head?_eq_some_iff.1 hopen.2
    exact endsClean_blockLength.cons.cons
  split
  · next hopen =>
    rw [Bool.and_eq_true, List.isPrefixOf_iff_prefix] at hopen
    obtain ⟨rest, rfl⟩ := hopen.2
    exact endsClean_textBlockLength.cons.cons.cons
  split
  · exact (endsClean_quotedLength (by decide)).cons
  split
  · exact (endsClean_quotedLength (by decide)).cons
  split
  · next hdigit =>
    have hnumber : isNumberByte b = true := by simp [isNumberByte, hdigit]
    exact endsClean_numberLength (ascii_of_isNumberByte hnumber)
  split
  · next hdot =>
    rw [Bool.and_eq_true, beq_iff_eq] at hdot
    exact endsClean_numberLength (hdot.1 ▸ by decide)
  split
  · next hdot =>
    rw [Bool.and_eq_true, beq_iff_eq] at hdot
    exact .behind (hdot.1 ▸ by decide)
  cases hseparator : separator? b with
  | some kind => exact .behind (ascii_of_separator? hseparator)
  | none =>
    dsimp only
    cases hidentifier : Byte.isIdentifier b with
    | true => exact (endsClean_takeWhile fun c hc => ascii_of_not_isIdentifier hc).cons
    | false =>
      have hascii := ascii_of_not_isIdentifier hidentifier
      rw [if_neg Bool.false_ne_true]
      split
      · exact endsClean_operatorLength hascii
      · exact .behind hascii

/-! ## One reading -/

/-- **One reading of the scanner** at an offset: it passes over white space
and takes the lexeme behind it, if there is one. -/
def nextToken? (s : Source) (offset : Nat) : Option Token :=
  let start := offset + ((s.bytes.drop offset).takeWhile Byte.isSpace).length
  match (s.bytes.drop offset).dropWhile Byte.isSpace with
  | [] => none
  | b :: rest => some ⟨(lexeme b rest).1, start, start + (lexeme b rest).2 + 1⟩

/-- Repeated readings from an offset on give some tokens and then end.
Comments are left out on demand. -/
inductive Scans (s : Source) (keepComments : Bool) : Nat → List Token → Prop
  | done {offset : Nat} (h : nextToken? s offset = none) : Scans s keepComments offset []
  | kept {offset : Nat} {t : Token} {ts : List Token} (h : nextToken? s offset = some t)
      (hkept : keepComments = true ∨ t.kind.comment? = none)
      (hrest : Scans s keepComments t.stop ts) : Scans s keepComments offset (t :: ts)
  | dropped {offset : Nat} {t : Token} {ts : List Token} (h : nextToken? s offset = some t)
      (hdropped : keepComments = false ∧ t.kind.comment? ≠ none)
      (hrest : Scans s keepComments t.stop ts) : Scans s keepComments offset ts

variable {s : Source} {offset : Nat} {t : Token} {ts : List Token}

/-- The bytes from an offset on are white space and what stands behind
it. -/
theorem drop_of_dropWhile (h : (s.bytes.drop offset).dropWhile Byte.isSpace = bytes) :
    s.bytes.drop (offset + ((s.bytes.drop offset).takeWhile Byte.isSpace).length) = bytes := by
  generalize htail : s.bytes.drop offset = tail at h ⊢
  have hsplit := congrArg (List.drop (tail.takeWhile Byte.isSpace).length)
    (List.takeWhile_append_dropWhile (p := Byte.isSpace) (l := tail))
  rw [List.drop_left, h] at hsplit
  rw [← List.drop_drop, htail, hsplit]

theorem isSpace_of_lt {i : Nat} (hle : offset ≤ i) (hb : s.bytes[i]? = some b)
    (hlt : i < offset + ((s.bytes.drop offset).takeWhile Byte.isSpace).length) :
    Byte.isSpace b = true := by
  obtain ⟨k, rfl⟩ := Nat.exists_eq_add_of_le hle
  obtain ⟨behind, hbehind⟩ := List.takeWhile_prefix Byte.isSpace (l := s.bytes.drop offset)
  rw [← List.getElem?_drop, ← hbehind, List.getElem?_append_left (by omega)] at hb
  exact List.all_eq_true.1 List.all_takeWhile b (List.mem_of_getElem? hb)

/-- A reading passes over white space. -/
theorem start_of_nextToken? (h : nextToken? s offset = some t) :
    t.start = offset + ((s.bytes.drop offset).takeWhile Byte.isSpace).length := by
  unfold nextToken? at h
  dsimp only at h
  split at h
  · cases h
  · cases h
    rfl

/-- A reading that gives a token gives the lexeme at its start. -/
theorem lexeme_of_nextToken? (h : nextToken? s offset = some t) :
    ∃ b rest, s.bytes.drop t.start = b :: rest ∧ t.kind = (lexeme b rest).1 ∧
      t.stop = t.start + (lexeme b rest).2 + 1 := by
  unfold nextToken? at h
  dsimp only at h
  split at h
  · cases h
  · next b rest hrest =>
    cases h
    exact ⟨b, rest, drop_of_dropWhile hrest, rfl, rfl⟩

/-- Every token that is handed out has been read somewhere. -/
theorem Scans.exists_nextToken? {keepComments : Bool} (h : Scans s keepComments offset ts)
    (ht : t ∈ ts) : ∃ offset, nextToken? s offset = some t := by
  induction h with
  | done => exact absurd ht List.not_mem_nil
  | kept h _ _ ih =>
    rcases List.mem_cons.1 ht with rfl | ht
    · exact ⟨_, h⟩
    · exact ih ht
  | dropped _ _ _ ih => exact ih ht

/-- A reading without a token passes over white space to the end. -/
theorem isSpace_of_nextToken?_eq_none (h : nextToken? s offset = none) {i : Nat}
    (hle : offset ≤ i) (hb : s.bytes[i]? = some b) : Byte.isSpace b = true := by
  unfold nextToken? at h
  dsimp only at h
  split at h
  · next hnone =>
    have hend := drop_of_dropWhile hnone
    rw [List.drop_eq_nil_iff] at hend
    have hi := (List.getElem?_eq_some_iff.1 hb).1
    exact isSpace_of_lt hle hb (by omega)
  · cases h

/-- What one reading is about: white space up to a token of at least one
byte, which ends clean. -/
structure Reading (s : Source) (offset : Nat) (t : Token) : Prop where
  offset_le : offset ≤ t.start
  start_lt : t.start < t.stop
  stop_le : t.stop ≤ s.size
  spaces : ∀ i b, offset ≤ i → i < t.start → s.bytes[i]? = some b → Byte.isSpace b = true
  clean : EndsClean (s.bytes.drop t.start) (t.stop - t.start)

theorem reading_of_nextToken? (h : nextToken? s offset = some t) : Reading s offset t := by
  obtain ⟨b, rest, hdrop, -, hstop⟩ := lexeme_of_nextToken? h
  have hclean : EndsClean (b :: rest) ((lexeme b rest).2 + 1) := endsClean_lexeme
  constructor
  case offset_le => exact (start_of_nextToken? h).symm ▸ Nat.le_add_right _ _
  case start_lt => omega
  case stop_le =>
    have hlength := congrArg List.length hdrop
    have hle := hclean.le_length
    rw [List.length_drop, List.length_cons] at hlength
    rw [List.length_cons] at hle
    unfold Source.size
    omega
  case spaces =>
    intro i c hle hlt hc
    exact isSpace_of_lt hle hc (start_of_nextToken? h ▸ hlt)
  case clean =>
    rw [hdrop, hstop, Nat.add_assoc, Nat.add_sub_cancel_left]
    exact hclean

/-- **The text splits at both ends of a token** that is read where it
splits. -/
theorem Reading.splits (h : Reading s offset t) (hsplits : s.Splits offset) :
    s.Splits t.start ∧ s.Splits t.stop := by
  constructor
  · rcases Nat.eq_or_lt_of_le h.offset_le with heq | hlt
    · exact heq ▸ hsplits
    · have hstop := h.stop_le
      have hstart := h.start_lt
      have hsize : t.start - 1 < s.bytes.length := by
        unfold Source.size at hstop
        omega
      have hspace := h.spaces _ _ (by omega) (by omega) (List.getElem?_eq_getElem hsize)
      have hbehind := (Source.splits_of_ascii (List.getElem?_eq_getElem hsize)
        (ascii_of_isSpace hspace)).2
      rwa [Nat.sub_add_cancel (by omega)] at hbehind
  · have hlength : t.start + (t.stop - t.start) = t.stop :=
      Nat.add_sub_of_le (Nat.le_of_lt h.start_lt)
    rcases h.clean.clean with hnext | ⟨m, c, hm, hc, hascii⟩
    · rw [List.getElem?_drop, hlength] at hnext
      cases hbyte : s.bytes[t.stop]? with
      | some c => exact (Source.splits_of_ascii hbyte (hnext c hbyte)).1
      | none =>
        rw [Nat.le_antisymm h.stop_le (List.getElem?_eq_none_iff.1 hbyte)]
        exact Source.splits_size
    · rw [List.getElem?_drop] at hc
      have hbehind := (Source.splits_of_ascii hc hascii).2
      rwa [Nat.add_assoc, ← hm, hlength] at hbehind

/-! ## The whole stream -/

/-- Tokens that tile a source from an offset on: they are not empty, come
one behind the other up to the end of the source, leave out white space
only, and are bounded by characters, so each of them has a text. -/
structure Tiles (s : Source) (offset : Nat) (ts : List Token) : Prop where
  within : ∀ t ∈ ts, offset ≤ t.start ∧ t.start < t.stop ∧ t.stop ≤ s.size
  ordered : ts.Pairwise fun t u => t.stop ≤ u.start
  gaps : ∀ i b, offset ≤ i → s.bytes[i]? = some b → (∀ t ∈ ts, ¬(t.start ≤ i ∧ i < t.stop)) →
    Byte.isSpace b = true
  boundaries : ∀ t ∈ ts, s.isBoundary t.start = true ∧ s.isBoundary t.stop = true
  texts : ∀ t ∈ ts, s.slice? t.start t.stop = some (t.text s) ∧ t.text s ≠ ""

theorem tiles_nil (h : ∀ i b, offset ≤ i → s.bytes[i]? = some b → Byte.isSpace b = true) :
    Tiles s offset [] where
  within _ ht := absurd ht List.not_mem_nil
  ordered := .nil
  gaps i b hle hb _ := h i b hle hb
  boundaries _ ht := absurd ht List.not_mem_nil
  texts _ ht := absurd ht List.not_mem_nil

/-- A token is its own text, which is not empty. -/
theorem Reading.text (h : Reading s offset t) (hsplits : s.Splits offset) :
    s.slice? t.start t.stop = some (t.text s) ∧ t.text s ≠ "" := by
  obtain ⟨hstart, hstop⟩ := h.splits hsplits
  have hlt := h.start_lt
  have hle := h.stop_le
  obtain ⟨text, hslice, hbytes⟩ := Source.slice?_of_splits hstart hstop (Nat.le_of_lt hlt)
  have htext : t.text s = text := by rw [Token.text, hslice, Option.getD_some]
  refine ⟨htext ▸ hslice, fun hempty => ?_⟩
  have hlength := congrArg List.length hbytes
  rw [← htext, hempty, Source.bytesBetween, List.length_take, List.length_drop] at hlength
  unfold Source.size at hle
  have hzero : (utf8 "".toList).length = 0 := rfl
  omega

theorem Tiles.cons (h : Reading s offset t) (hsplits : s.Splits offset)
    (hrest : Tiles s t.stop ts) : Tiles s offset (t :: ts) := by
  have hoffset := h.offset_le
  have hlt := h.start_lt
  constructor
  case within =>
    rw [List.forall_mem_cons]
    refine ⟨⟨hoffset, hlt, h.stop_le⟩, fun u hu => ?_⟩
    have hu := hrest.within u hu
    exact ⟨by omega, hu.2⟩
  case ordered => exact List.pairwise_cons.2 ⟨fun u hu => (hrest.within u hu).1, hrest.ordered⟩
  case gaps =>
    intro i b hle hb hout
    rw [List.forall_mem_cons] at hout
    rcases Nat.lt_or_ge i t.start with hbefore | hafter
    · exact h.spaces i b hle hbefore hb
    · exact hrest.gaps i b (by omega) hb hout.2
  case boundaries =>
    obtain ⟨hstart, hstop⟩ := h.splits hsplits
    exact List.forall_mem_cons.2 ⟨⟨hstart.isBoundary, hstop.isBoundary⟩, hrest.boundaries⟩
  case texts => exact List.forall_mem_cons.2 ⟨h.text hsplits, hrest.texts⟩

/-- Readings that keep every token tile the source. -/
theorem Scans.tiles (h : Scans s true offset ts) (hsplits : s.Splits offset) :
    Tiles s offset ts := by
  induction h with
  | done h => exact tiles_nil fun i b hle hb => isSpace_of_nextToken?_eq_none h hle hb
  | kept h _ _ ih =>
    have hreading := reading_of_nextToken? h
    exact .cons hreading hsplits (ih (hreading.splits hsplits).2)
  | dropped _ hdropped => exact absurd hdropped.1 (by simp)

theorem tokensFrom_spaces :
    tokensFrom offset 0 bytes = tokensFrom (offset + (bytes.takeWhile Byte.isSpace).length) 0
      (bytes.dropWhile Byte.isSpace) := by
  induction bytes generalizing offset with
  | nil => rfl
  | cons b rest ih =>
    by_cases hspace : Byte.isSpace b = true
    · rw [tokensFrom, if_pos hspace, ih, List.takeWhile_cons_of_pos hspace, List.length_cons,
        List.dropWhile_cons_of_pos hspace, Nat.add_assoc, Nat.add_comm 1]
    · rw [List.takeWhile_cons_of_neg hspace, List.dropWhile_cons_of_neg hspace]
      rfl

/-- The tokens from an offset on are the one that is read there and those
behind it. -/
theorem tokensFrom_eq_nextToken? :
    tokensFrom offset 0 (s.bytes.drop offset) =
      match nextToken? s offset with
      | none => []
      | some t => t :: tokensFrom t.stop 0 (s.bytes.drop t.stop) := by
  rw [tokensFrom_spaces, nextToken?]
  cases hdrop : (s.bytes.drop offset).dropWhile Byte.isSpace with
  | nil => rfl
  | cons b rest =>
    have hspace : ¬Byte.isSpace b = true := by
      have hhead := List.head?_dropWhile_not Byte.isSpace (s.bytes.drop offset)
      rw [hdrop] at hhead
      simpa using hhead
    have hrest := drop_of_dropWhile hdrop
    generalize offset + ((s.bytes.drop offset).takeWhile Byte.isSpace).length = start at hrest ⊢
    have hbehind : s.bytes.drop (start + (lexeme b rest).2 + 1) = rest.drop (lexeme b rest).2 := by
      rw [Nat.add_assoc, ← List.drop_drop, hrest, List.drop_succ_cons]
    rw [tokensFrom, if_neg hspace]
    dsimp only
    rw [tokensFrom_skip, hbehind, Nat.add_right_comm]

variable {keepComments : Bool}

/-- Whether a token is handed out: comments are so on demand. -/
def Token.isKept (keepComments : Bool) (t : Token) : Bool :=
  keepComments || t.kind.comment?.isNone

theorem Token.isKept_iff :
    t.isKept keepComments = true ↔ keepComments = true ∨ t.kind.comment? = none := by
  rw [Token.isKept, Bool.or_eq_true, Option.isNone_iff_eq_none]

theorem Scans.eq_filter (h : Scans s keepComments offset ts) :
    ts = (tokensFrom offset 0 (s.bytes.drop offset)).filter (Token.isKept keepComments) := by
  induction h with
  | done h => rw [tokensFrom_eq_nextToken?, h, List.filter_nil]
  | kept h hkept _ ih =>
    rw [tokensFrom_eq_nextToken?, h]
    dsimp only
    rw [List.filter_cons_of_pos (Token.isKept_iff.2 hkept), ← ih]
  | dropped h hdropped _ ih =>
    have hnot := not_or.2 ⟨Bool.not_eq_true _ ▸ hdropped.1, hdropped.2⟩
    rw [tokensFrom_eq_nextToken?, h]
    dsimp only
    rw [List.filter_cons_of_neg (mt Token.isKept_iff.1 hnot), ← ih]

/-- The readings end: each takes a byte at least. -/
theorem scans_filter :
    Scans s keepComments offset
      ((tokensFrom offset 0 (s.bytes.drop offset)).filter (Token.isKept keepComments)) := by
  induction hleft : s.size - offset using Nat.strongRecOn generalizing offset with
  | ind left ih =>
    rw [tokensFrom_eq_nextToken?]
    cases h : nextToken? s offset with
    | none => exact .done h
    | some t =>
      have hreading := reading_of_nextToken? h
      have hoffset := hreading.offset_le
      have hstart := hreading.start_lt
      have hstop := hreading.stop_le
      have hrest := ih (s.size - t.stop) (by omega) rfl
      dsimp only
      by_cases hkept : t.isKept keepComments = true
      · rw [List.filter_cons_of_pos hkept]
        exact .kept h (Token.isKept_iff.1 hkept) hrest
      · rw [List.filter_cons_of_neg hkept]
        rw [Token.isKept_iff, not_or, Bool.not_eq_true] at hkept
        exact .dropped h hkept hrest

/-- **Repeated readings end, with the tokens from there on**, comments left
out or not. -/
theorem scans_iff : Scans s keepComments offset ts ↔
    ts = (tokensFrom offset 0 (s.bytes.drop offset)).filter (Token.isKept keepComments) :=
  ⟨Scans.eq_filter, fun h => h ▸ scans_filter⟩

/-- The tokens from any offset on are what readings from there give. -/
theorem scans_tokens {start : Int} : Scans s true (min start.toNat s.size) (tokens s start) :=
  scans_iff.2 (List.filter_eq_self.2 fun _ _ => rfl).symm

/-- The code tokens are what readings give that leave comments out. -/
theorem scans_codeTokens {start : Int} :
    Scans s false (min start.toNat s.size) (codeTokens s start) :=
  scans_iff.2 rfl

/-- Tokens come one behind the other, from where they are read up to the
end of the source, and none is empty. -/
theorem Scans.ordered (h : Scans s keepComments offset ts) :
    (∀ t ∈ ts, offset ≤ t.start ∧ t.start < t.stop ∧ t.stop ≤ s.size) ∧
      ts.Pairwise fun t u => t.stop ≤ u.start := by
  induction h with
  | done => exact ⟨fun _ ht => absurd ht List.not_mem_nil, .nil⟩
  | @kept offset t ts h _ _ ih =>
    have hreading := reading_of_nextToken? h
    have hoffset := hreading.offset_le
    have hlt := hreading.start_lt
    refine ⟨List.forall_mem_cons.2 ⟨⟨hoffset, hlt, hreading.stop_le⟩, fun u hu => ?_⟩,
      List.pairwise_cons.2 ⟨fun u hu => (ih.1 u hu).1, ih.2⟩⟩
    obtain ⟨hle, hrest⟩ := ih.1 u hu
    exact ⟨by omega, hrest⟩
  | @dropped offset t ts h _ _ ih =>
    have hreading := reading_of_nextToken? h
    have hoffset := hreading.offset_le
    have hlt := hreading.start_lt
    refine ⟨fun u hu => ?_, ih.2⟩
    obtain ⟨hle, hrest⟩ := ih.1 u hu
    exact ⟨by omega, hrest⟩

theorem Scans.unique {us : List Token} (h : Scans s keepComments offset ts)
    (h' : Scans s keepComments offset us) : ts = us :=
  (scans_iff.1 h).trans (scans_iff.1 h').symm

/-- Whether only white space and comments stand from one offset up to
another, as the tokens from the first on show it. -/
def OnlyComments (s : Source) (start stop : Int) : Prop :=
  ∀ (i : Nat) (b : UInt8), start ≤ i → (i : Int) < stop → s.bytes[i]? = some b →
    Byte.isSpace b = true ∨ ∃ t ∈ tokens s start, t.kind.comment? ≠ none ∧
      (t.start ≤ i ∧ i < t.stop) ∧ (t.stop : Int) ≤ stop

/-- What is passed over on the way to the first code token is white space
and whole comments. -/
theorem Scans.passes_comments {all : List Token} {next : Token}
    (h : Scans s false offset (next :: ts)) (hall : Scans s true offset all) :
    offset ≤ next.start ∧ ∀ i b, offset ≤ i → i < next.start → s.bytes[i]? = some b →
      Byte.isSpace b = true ∨ ∃ t ∈ all, t.kind.comment? ≠ none ∧
        (t.start ≤ i ∧ i < t.stop) ∧ t.stop ≤ next.start := by
  generalize hcode : next :: ts = code at h
  induction h generalizing all with
  | done => cases hcode
  | kept h =>
    cases hcode
    have hreading := reading_of_nextToken? h
    exact ⟨hreading.offset_le, fun i b hle hlt hb => Or.inl (hreading.spaces i b hle hlt hb)⟩
  | @dropped offset t code h hdropped _ ih =>
    have hreading := reading_of_nextToken? h
    cases hall with
    | done hnone => cases h.symm.trans hnone
    | dropped _ hfalse => exact absurd hfalse.1 (by decide)
    | @kept _ u us h' _ hrest =>
      obtain rfl : t = u := Option.some.inj (h.symm.trans h')
      obtain ⟨hle, hpassed⟩ := ih hrest hcode
      have hoffset := hreading.offset_le
      have hlt := hreading.start_lt
      refine ⟨by omega, fun i b hi hinext hb => ?_⟩
      rcases Nat.lt_or_ge i t.start with hbefore | hfrom
      · exact Or.inl (hreading.spaces i b hi hbefore hb)
      rcases Nat.lt_or_ge i t.stop with hin | hbehind
      · exact Or.inr ⟨t, List.mem_cons_self, hdropped.2, ⟨hfrom, hin⟩, hle⟩
      · rcases hpassed i b hbehind hinext hb with hspace | ⟨u, hu, hcomment⟩
        · exact Or.inl hspace
        · exact Or.inr ⟨u, List.mem_cons_of_mem _ hu, hcomment⟩

/-- **Only white space and comments stand before the first code token.** -/
theorem onlyComments_of_codeTokens {start : Int} {next : Token} (hstart : 0 ≤ start)
    (hsize : start ≤ s.size) (h : codeTokens s start = next :: ts) :
    start ≤ next.start ∧ OnlyComments s start next.start := by
  have hcode : Scans s false (min start.toNat s.size) (next :: ts) := h ▸ scans_codeTokens
  obtain ⟨hle, hpassed⟩ := hcode.passes_comments scans_tokens
  refine ⟨by omega, fun i b hi hnext hb => ?_⟩
  rcases hpassed i b (by omega) (by omega) hb with hspace | ⟨t, ht, hcomment, hin, hstop⟩
  · exact Or.inl hspace
  · exact Or.inr ⟨t, ht, hcomment, hin, by omega⟩

theorem scans_zero : Scans s true 0 (tokens s 0) ∧ Scans s false 0 (codeTokens s 0) := by
  have hzero : min (0 : Int).toNat s.size = 0 := Nat.zero_min s.size
  exact ⟨hzero ▸ scans_tokens, hzero ▸ scans_codeTokens⟩

theorem tiles_zero : Tiles s 0 (tokens s 0) :=
  scans_zero.1.tiles Source.splits_zero

end Lexical

end TreeBridge
