import Mathlib.Data.List.Perm.Subperm
import Mathlib.Data.List.TakeWhile
import TreeBridge.Lowering.Unit
import TreeBridge.Resolution.Unit
import TreeBridge.Proofs.Text.Word
/-!
# Lines and columns of an offset

Both tables of lines are looked up in the same way: the line ends before an
offset are counted, and the column is measured from the last of them. The
lookups of a unit give every offset inside the text back, but not the end
of the text, which the closing entry of the table puts on a line of its
own. The two tables agree on an offset exactly if no carriage return stands
alone before it.
-/

namespace TreeBridge

/-! ## Looking an offset up -/

/-- A carriage return without a line feed after it. -/
def IsLoneReturn (bytes : List UInt8) (i : Nat) : Prop :=
  bytes[i]? = some Byte.carriageReturn ∧ bytes[i + 1]? ≠ some Byte.lineFeed

instance (bytes : List UInt8) (i : Nat) : Decidable (IsLoneReturn bytes i) :=
  inferInstanceAs (Decidable (_ ∧ _))

namespace LineEnds

variable {ends : LineEnds} {offset : Int}

/-- The number of line ends before an offset. -/
def endsBefore (ends : LineEnds) (offset : Int) : Nat :=
  (ends.takeWhile fun e => decide (e < offset)).length

theorem endsBefore_le_length : ends.endsBefore offset ≤ ends.length :=
  (List.takeWhile_sublist _).length_le

/-- The line end after those before an offset is not before it. -/
theorem le_getD_endsBefore (h : ends.endsBefore offset < ends.length) :
    offset ≤ ends.getD (ends.endsBefore offset) 0 := by
  induction ends with
  | nil => cases h
  | cons e rest ih =>
    unfold endsBefore at h ⊢
    by_cases he : e < offset
    · rw [List.takeWhile_cons_of_pos (by simpa using he)] at h ⊢
      exact ih (Nat.lt_of_succ_lt_succ h)
    · rw [List.takeWhile_cons_of_neg (by simpa using he)]
      exact Int.not_lt.1 he

/-- The line of an offset starts at or before it. -/
theorem lineStart_endsBefore_le (h : 0 ≤ offset) :
    ends.lineStart (ends.endsBefore offset) ≤ offset := by
  -- a line other than the first starts behind a line end that is before the offset
  induction ends with
  | nil => exact h
  | cons e rest ih =>
    unfold endsBefore at ih ⊢
    by_cases he : e < offset
    · rw [List.takeWhile_cons_of_pos (by simpa using he), List.length_cons]
      generalize (rest.takeWhile fun e => decide (e < offset)).length = n at ih ⊢
      cases n with
      | zero => exact he
      | succ n => exact ih
    · rw [List.takeWhile_cons_of_neg (by simpa using he)]
      exact h

/-- The start of the line depends on the line ends before the offset only. -/
theorem lineStart_takeWhile (p : Int → Bool) :
    lineStart (ends.takeWhile p) (ends.takeWhile p).length =
      lineStart ends (ends.takeWhile p).length := by
  induction ends with
  | nil => rfl
  | cons e rest ih =>
    by_cases he : p e = true
    · rw [List.takeWhile_cons_of_pos he, List.length_cons]
      generalize rest.takeWhile p = before at ih ⊢
      cases before with
      | nil => rfl
      | cons e' before => exact ih
    · rw [List.takeWhile_cons_of_neg he]
      rfl

/-- The lookups of a line and a column, for a table that reaches an
offset. -/
theorem lineNumber?_of_getLast? {last : Int} (hlast : ends.getLast? = some last)
    (h0 : 0 ≤ offset) (h : offset ≤ last + 1) :
    ends.lineNumber? offset = some (ends.endsBefore offset + 1) := by
  unfold lineNumber?
  rw [hlast]
  exact if_neg (by omega)

theorem columnNumber?_of_lineNumber? {n : Nat} (h : ends.lineNumber? offset = some (n + 1)) :
    ends.columnNumber? offset = some ((offset - ends.lineStart n).toNat + 1) := by
  unfold columnNumber?
  rw [h]
  rfl

/-- Narrowing the column makes no difference to the narrowed sum. -/
theorem wrap32_add_wrap32 (start column : Int) :
    wrap32 (start + wrap32 column - 1) = wrap32 (start + column - 1) := by
  unfold wrap32
  have hcomm (n : Int) : start + n - 1 = n + (start - 1) := by omega
  rw [hcomm, hcomm, Int.bmod_add_bmod]

theorem wrap32_le {n : Int} (h : 0 ≤ n) : wrap32 n ≤ n := by
  unfold wrap32
  rw [Int.bmod_def]
  split <;> omega

theorem wrap32_eq_self_iff {n : Int} (h : 0 ≤ n) : wrap32 n = n ↔ n < 2147483648 :=
  ⟨fun heq => heq ▸ wrap32_lt n, wrap32_of_nonneg_of_lt h⟩

/-- **The line and the column of an offset give it back**, narrowed to 32
bits, if the line has an entry in the table. -/
theorem offsetOf?_lookup (h0 : 0 ≤ offset) (h : ends.endsBefore offset < ends.length) :
    ends.offsetOf? (ends.endsBefore offset + 1)
      ((offset - ends.lineStart (ends.endsBefore offset)).toNat + 1) = some (wrap32 offset) := by
  have hstart : ends.lineStart (ends.endsBefore offset) ≤ offset := lineStart_endsBefore_le h0
  have hend := le_getD_endsBefore h
  have hle := wrap32_le h0
  have hsum : ends.lineStart (ends.endsBefore offset) +
      (((offset - ends.lineStart (ends.endsBefore offset)).toNat + 1 : Nat) : Int) - 1 =
        offset := by omega
  unfold offsetOf?
  rw [if_neg (by omega)]
  dsimp only
  rw [Nat.add_sub_cancel, wrap32_add_wrap32, hsum, if_neg (by omega)]

/-- A line without an entry in the table has no offsets. -/
theorem offsetOf?_of_length_lt {line column : Nat} (h : ends.length < line) :
    ends.offsetOf? line column = none := by
  unfold offsetOf?
  exact if_pos (Or.inr (Or.inr h))

/-- In an ascending table the entries before an offset are its first
ones. -/
theorem takeWhile_eq_filter (h : ends.Pairwise (· < ·)) :
    ends.takeWhile (fun e => decide (e < offset)) = ends.filter fun e => decide (e < offset) := by
  induction ends with
  | nil => rfl
  | cons e rest ih =>
    obtain ⟨hfirst, hrest⟩ := List.pairwise_cons.1 h
    by_cases he : e < offset
    · rw [List.takeWhile_cons_of_pos (by simpa using he),
        List.filter_cons_of_pos (by simpa using he), ih hrest]
    · rw [List.takeWhile_cons_of_neg (by simpa using he),
        List.filter_cons_of_neg (by simpa using he), eq_comm, List.filter_eq_nil_iff]
      intro e' he'
      have := hfirst e' he'
      simp only [decide_eq_true_eq]
      omega

/-! ## The table of a text -/

/-- A byte ends a line if it is a line feed or a lone carriage return. -/
theorem mem_terminators_iff {bytes : List UInt8} {start e : Int} :
    e ∈ terminators start bytes ↔
      ∃ i : Nat, e = start + i ∧ (bytes[i]? = some Byte.lineFeed ∨ IsLoneReturn bytes i) := by
  induction bytes generalizing start with
  | nil => simp [terminators, IsLoneReturn]
  | cons b rest ih =>
    have hhead : (b == Byte.lineFeed ||
        b == Byte.carriageReturn && rest.head? != some Byte.lineFeed) = true ↔
          (b :: rest)[0]? = some Byte.lineFeed ∨ IsLoneReturn (b :: rest) 0 := by
      simp [IsLoneReturn, List.head?_eq_getElem?]
    have hrest : e ∈ terminators (start + 1) rest ↔ ∃ i : Nat, e = start + (i + 1 : Nat) ∧
        ((b :: rest)[i + 1]? = some Byte.lineFeed ∨ IsLoneReturn (b :: rest) (i + 1)) := by
      rw [ih]
      refine exists_congr fun i => and_congr_left fun _ => ?_
      omega
    rw [← Nat.or_exists_add_one, ← hrest, ← hhead]
    rw [terminators]
    split
    · next hend => simp [hend]
    · next hend => simp [hend]

theorem pairwise_terminators {bytes : List UInt8} {start : Int} :
    (terminators start bytes).Pairwise (· < ·) := by
  induction bytes generalizing start with
  | nil => exact List.Pairwise.nil
  | cons b rest ih =>
    unfold terminators
    split
    · refine List.pairwise_cons.2 ⟨fun e he => ?_, ih⟩
      obtain ⟨i, rfl, -⟩ := mem_terminators_iff.1 he
      omega
    · exact ih

theorem le_of_mem_terminators {bytes : List UInt8} {start e : Int}
    (h : e ∈ terminators start bytes) : start ≤ e ∧ e < start + bytes.length := by
  induction bytes generalizing start with
  | nil => cases h
  | cons b rest ih =>
    unfold terminators at h
    rw [List.length_cons]
    split at h
    · rcases List.mem_cons.1 h with rfl | h
      · omega
      · have := ih h
        omega
    · have := ih h
      omega

/-- Inside a text, the closing entry of the table is not before an
offset. -/
theorem takeWhile_ofBytes_of_lt {bytes : List UInt8} (h : offset < bytes.length) :
    (ofBytes bytes).takeWhile (fun e => decide (e < offset)) =
      (terminators 0 bytes).takeWhile fun e => decide (e < offset) := by
  unfold ofBytes
  rw [List.takeWhile_append, List.takeWhile_cons_of_neg (by simpa using by omega),
    List.append_nil]
  split
  · next hall => exact (List.IsPrefix.eq_of_length (List.takeWhile_prefix _) hall).symm
  · rfl

/-- At the end of a text every entry of the table is before the offset, the
closing one too. -/
theorem endsBefore_ofBytes_length {bytes : List UInt8} :
    (ofBytes bytes).endsBefore bytes.length = (ofBytes bytes).length := by
  unfold endsBefore
  rw [List.takeWhile_eq_self_iff.2 fun e he => ?_]
  rw [decide_eq_true_eq]
  rcases List.mem_append.1 he with he | he
  · have := le_of_mem_terminators he
    omega
  · have := List.mem_singleton.1 he
    omega

theorem lineNumber?_ofBytes {bytes : List UInt8} (h0 : 0 ≤ offset) (h : offset ≤ bytes.length) :
    (ofBytes bytes).lineNumber? offset = some ((ofBytes bytes).endsBefore offset + 1) :=
  lineNumber?_of_getLast? (List.getLast?_concat ..) h0 (by omega)

/-- **Where the lookups round-trip**: every offset of a text, its end
included, has a line and a column. The line has an entry in the table, and
the two give the offset back, for the offsets inside the text and for no
other. So the end of the text is on a line that does not exist. An offset
is a number of 32 bits; a larger one is narrowed. -/
theorem offsetOf?_lineNumber?_columnNumber?_iff (s : Source) {offset : Int} (h0 : 0 ≤ offset)
    (h : offset ≤ s.size) :
    ∃ line column, (ofBytes s.bytes).lineNumber? offset = some line ∧
      (ofBytes s.bytes).columnNumber? offset = some column ∧
      (line ≤ (ofBytes s.bytes).length ↔ offset < s.size) ∧
      ((ofBytes s.bytes).offsetOf? line column = some offset ↔
        offset < s.size ∧ offset < 2147483648) := by
  have hline := @lineNumber?_ofBytes offset s.bytes h0 h
  refine ⟨_, _, hline, columnNumber?_of_lineNumber? hline, ?_⟩
  rcases Int.lt_or_le offset s.size with hlt | hge
  · have hentry : (ofBytes s.bytes).endsBefore offset < (ofBytes s.bytes).length := by
      rw [endsBefore, takeWhile_ofBytes_of_lt hlt, ofBytes, List.length_append,
        List.length_singleton]
      exact Nat.lt_succ_of_le (List.takeWhile_sublist _).length_le
    rw [offsetOf?_lookup h0 hentry, Option.some_inj, wrap32_eq_self_iff h0]
    exact ⟨iff_of_true hentry hlt, fun hsmall => ⟨hlt, hsmall⟩, fun hsmall => hsmall.2⟩
  · obtain rfl : offset = s.bytes.length := Int.le_antisymm h hge
    rw [endsBefore_ofBytes_length, offsetOf?_of_length_lt (Nat.lt_succ_self _)]
    refine ⟨iff_of_false (Nat.not_succ_le_self _) (Int.not_lt.2 hge), fun hnone => ?_,
      fun hin => ?_⟩
    · cases hnone
    · exact absurd hin.1 (Int.not_lt.2 hge)

/-- The line feed of a terminator of two bytes stands on the line that it
ends. -/
theorem offsetOf?_lineNumber?_columnNumber?_lineFeed :
    (0 : Int) ≤ 2 ∧ (2 : Int) ≤ (Source.ofString "a\r\nb").size ∧
      ∃ line column, (ofBytes (Source.ofString "a\r\nb").bytes).lineNumber? 2 = some line ∧
        (ofBytes (Source.ofString "a\r\nb").bytes).columnNumber? 2 = some column ∧
        line ≤ (ofBytes (Source.ofString "a\r\nb").bytes).length ∧
        (ofBytes (Source.ofString "a\r\nb").bytes).offsetOf? line column = some 2 := by
  have h0 : (0 : Int) ≤ 2 := by decide
  have h : (2 : Int) ≤ (Source.ofString "a\r\nb").size := by decide
  obtain ⟨line, column, hline, hcolumn, hentry, hback⟩ :=
    offsetOf?_lineNumber?_columnNumber?_iff (Source.ofString "a\r\nb") h0 h
  exact ⟨h0, h, line, column, hline, hcolumn, hentry.2 (by decide), hback.2 (by decide)⟩

/-- A text of one line has its end on a second line, at which there is no
offset, while the same offset also follows the last column of the first. -/
theorem lookups_endOfText :
    ofBytes (Source.ofString "ab").bytes = [1] ∧ lineNumber? [1] 2 = some 2 ∧
      columnNumber? [1] 2 = some 1 ∧ offsetOf? [1] 2 1 = none ∧ offsetOf? [1] 1 3 = some 2 := by
  decide

end LineEnds

/-! ## Line feeds and other terminators -/

namespace LineStarts

/-- The offsets of the line feeds of `bytes`, the first byte being at offset
`start`. -/
def lineFeeds (start : Int) : List UInt8 → List Int
  | [] => []
  | b :: rest =>
    if b == Byte.lineFeed then start :: lineFeeds (start + 1) rest
    else lineFeeds (start + 1) rest

theorem pastLineFeeds_eq_map {bytes : List UInt8} {start : Int} :
    pastLineFeeds start bytes = (lineFeeds start bytes).map (· + 1) := by
  induction bytes generalizing start with
  | nil => rfl
  | cons b rest ih =>
    unfold pastLineFeeds lineFeeds
    split
    · rw [List.map_cons, ih]
    · exact ih

/-- The line starts behind some line ends are looked up like these. -/
theorem lineAndColumn_of_ends {ends : LineEnds} {offset : Int} (h0 : 0 ≤ offset) :
    lineAndColumn (0 :: ends.map (· + 1)) offset =
      ((ends.endsBefore offset : Int) + 1,
        offset - ends.lineStart (ends.endsBefore offset) + 1) := by
  have hcount : ((ends.map (· + 1)).takeWhile fun s => decide (s ≤ offset)).length =
      ends.endsBefore offset := by
    rw [List.takeWhile_map, List.length_map]
    rfl
  have hstart : ∀ n, n ≤ ends.length →
      (0 :: ends.map (· + 1) : List Int).getD n 0 = ends.lineStart n := by
    intro n hn
    cases n with
    | zero => rfl
    | succ n =>
      rw [List.getD_cons_succ, LineEnds.lineStart, List.getD_eq_getElem?_getD,
        List.getD_eq_getElem?_getD, List.getElem?_map, List.getElem?_eq_getElem hn]
      rfl
  unfold lineAndColumn
  rw [List.takeWhile_cons_of_pos (by simpa using h0), List.length_cons, Nat.add_sub_cancel, hcount]
  dsimp only
  rw [hstart _ LineEnds.endsBefore_le_length]

theorem lineFeeds_sublist {bytes : List UInt8} {start : Int} :
    (lineFeeds start bytes).Sublist (LineEnds.terminators start bytes) := by
  induction bytes generalizing start with
  | nil => exact List.Sublist.refl []
  | cons b rest ih =>
    unfold lineFeeds LineEnds.terminators
    by_cases hb : (b == Byte.lineFeed) = true
    · rw [if_pos hb, if_pos (by rw [hb]; rfl)]
      exact ih.cons_cons start
    · rw [if_neg hb]
      split
      · exact ih.cons start
      · exact ih

theorem mem_lineFeeds_iff {bytes : List UInt8} {start e : Int} :
    e ∈ lineFeeds start bytes ↔ ∃ i : Nat, e = start + i ∧ bytes[i]? = some Byte.lineFeed := by
  induction bytes generalizing start with
  | nil => simp [lineFeeds]
  | cons b rest ih =>
    have hrest : e ∈ lineFeeds (start + 1) rest ↔
        ∃ i : Nat, e = start + (i + 1 : Nat) ∧ (b :: rest)[i + 1]? = some Byte.lineFeed := by
      rw [ih]
      refine exists_congr fun i => and_congr_left fun _ => ?_
      omega
    rw [← Nat.or_exists_add_one, ← hrest]
    rw [lineFeeds]
    split
    · next hend => simp [beq_iff_eq.1 hend]
    · next hend => simp [show b ≠ Byte.lineFeed by simpa using hend]

/-- The line feeds before an offset are all the terminators before it,
exactly if no carriage return before it stands alone. -/
theorem filter_lineFeeds_eq_iff {bytes : List UInt8} {offset : Int} :
    (lineFeeds 0 bytes).filter (fun e => decide (e < offset)) =
        (LineEnds.terminators 0 bytes).filter (fun e => decide (e < offset)) ↔
      ∀ i : Nat, i < offset → ¬ IsLoneReturn bytes i := by
  constructor
  · intro heq i hi hlone
    have hmem : (i : Int) ∈ (LineEnds.terminators 0 bytes).filter fun e => decide (e < offset) :=
      List.mem_filter.2 ⟨LineEnds.mem_terminators_iff.2 ⟨i, by omega, Or.inr hlone⟩,
        by simpa using hi⟩
    rw [← heq] at hmem
    obtain ⟨j, hj, hfeed⟩ := mem_lineFeeds_iff.1 (List.mem_filter.1 hmem).1
    obtain rfl : i = j := by omega
    rw [hlone.1] at hfeed
    exact absurd hfeed (by decide)
  · intro hnone
    have hnodup : (LineEnds.terminators 0 bytes).Nodup :=
      LineEnds.pairwise_terminators.imp Int.ne_of_lt
    refine (lineFeeds_sublist.filter _).eq_of_length_le
      (List.subperm_of_subset (hnodup.filter _) fun e he => ?_).length_le
    obtain ⟨hmem, hlt⟩ := List.mem_filter.1 he
    obtain ⟨i, rfl, hfeed | hlone⟩ := LineEnds.mem_terminators_iff.1 hmem
    · exact List.mem_filter.2 ⟨mem_lineFeeds_iff.2 ⟨i, rfl, hfeed⟩, hlt⟩
    · exact absurd hlone (hnone i (by simpa using hlt))

/-- **Where the two tables agree**: inside a text they give an offset the
same line and column, exactly if no carriage return before the offset
stands alone. -/
theorem lineAndColumn_eq_lookups_iff {bytes : List UInt8} {offset : Int} (h0 : 0 ≤ offset)
    (h : offset < bytes.length) :
    (∃ line column : Nat, (LineEnds.ofBytes bytes).lineNumber? offset = some line ∧
        (LineEnds.ofBytes bytes).columnNumber? offset = some column ∧
        lineAndColumn (ofBytes bytes) offset = ((line : Int), (column : Int))) ↔
      ∀ i : Nat, i < offset → ¬ IsLoneReturn bytes i := by
  have hline := LineEnds.lineNumber?_ofBytes h0 (Int.le_of_lt h)
  have hcolumn := LineEnds.columnNumber?_of_lineNumber? hline
  have hstart : (LineEnds.ofBytes bytes).lineStart ((LineEnds.ofBytes bytes).endsBefore offset) ≤
      offset := LineEnds.lineStart_endsBefore_le h0
  have htable : ofBytes bytes = 0 :: (lineFeeds 0 bytes).map (· + 1) := by
    rw [← pastLineFeeds_eq_map]
    rfl
  rw [hline, hcolumn, htable, lineAndColumn_of_ends h0, ← filter_lineFeeds_eq_iff]
  -- both sides only depend on the line ends before the offset
  have hends := LineEnds.takeWhile_ofBytes_of_lt h
  have hfeeds : (lineFeeds 0 bytes).takeWhile (fun e => decide (e < offset)) =
      (lineFeeds 0 bytes).filter fun e => decide (e < offset) :=
    LineEnds.takeWhile_eq_filter (LineEnds.pairwise_terminators.sublist lineFeeds_sublist)
  rw [LineEnds.takeWhile_eq_filter LineEnds.pairwise_terminators] at hends
  constructor
  · rintro ⟨line, column, hline, -, heq⟩
    refine (lineFeeds_sublist.filter _).eq_of_length ?_
    rw [← hends, ← hfeeds]
    have hfirst := congrArg Prod.fst heq
    simp only [LineEnds.endsBefore, Option.some.injEq] at hline hfirst
    omega
  · intro heq
    have hsame : (lineFeeds 0 bytes).takeWhile (fun e => decide (e < offset)) =
        (LineEnds.ofBytes bytes).takeWhile fun e => decide (e < offset) := by
      rw [hfeeds, heq, hends]
    have hcount : LineEnds.endsBefore (lineFeeds 0 bytes) offset =
        (LineEnds.ofBytes bytes).endsBefore offset := congrArg List.length hsame
    have hstarts : LineEnds.lineStart (lineFeeds 0 bytes)
        (LineEnds.endsBefore (lineFeeds 0 bytes) offset) =
          (LineEnds.ofBytes bytes).lineStart ((LineEnds.ofBytes bytes).endsBefore offset) := by
      unfold LineEnds.endsBefore
      rw [← LineEnds.lineStart_takeWhile, ← LineEnds.lineStart_takeWhile, hsame]
    refine ⟨_, _, rfl, rfl, ?_⟩
    rw [hstarts, hcount]
    refine Prod.ext ?_ ?_
    · simp
    · simp only
      omega

end LineStarts

/-- **What a report is stamped with**: a report at an offset inside the
text gets the line and the column that a unit finds for the offset, exactly
if no carriage return before the offset stands alone. -/
theorem stamp_eq_lookups_iff (s : Source) (d : Foreign.Diagnostic)
    (h : max d.position 0 < s.size) :
    (∃ line column : Nat,
        (LineEnds.ofBytes s.bytes).lineNumber? (max d.position 0) = some line ∧
        (LineEnds.ofBytes s.bytes).columnNumber? (max d.position 0) = some column ∧
        (Lowering.stamp (LineStarts.ofBytes s.bytes) d).line = line ∧
        (Lowering.stamp (LineStarts.ofBytes s.bytes) d).column = column) ↔
      ∀ i : Nat, i < d.position → ¬ IsLoneReturn s.bytes i := by
  have hbefore : (∀ i : Nat, i < d.position → ¬ IsLoneReturn s.bytes i) ↔
      ∀ i : Nat, i < max d.position 0 → ¬ IsLoneReturn s.bytes i :=
    forall_congr' fun i => imp_congr_left (by omega)
  rw [hbefore, ← LineStarts.lineAndColumn_eq_lookups_iff (Int.le_max_right ..) h]
  simp only [Prod.ext_iff]
  exact Iff.rfl

theorem stamp_eq_lookups_afterLineFeed :
    max (Foreign.Diagnostic.errorAt "" "" 3 3).position 0 < (Source.ofString "a\r\nb").size ∧
      ∃ line column : Nat,
        (LineEnds.ofBytes (Source.ofString "a\r\nb").bytes).lineNumber? 3 = some line ∧
        (LineEnds.ofBytes (Source.ofString "a\r\nb").bytes).columnNumber? 3 = some column ∧
        (Lowering.stamp (LineStarts.ofBytes (Source.ofString "a\r\nb").bytes)
          (.errorAt "" "" 3 3)).line = line ∧
        (Lowering.stamp (LineStarts.ofBytes (Source.ofString "a\r\nb").bytes)
          (.errorAt "" "" 3 3)).column = column := by
  have h : max (Foreign.Diagnostic.errorAt "" "" 3 3).position 0 <
      (Source.ofString "a\r\nb").size := by decide
  refine ⟨h, (stamp_eq_lookups_iff (Source.ofString "a\r\nb") (.errorAt "" "" 3 3) h).2 ?_⟩
  intro i hi
  have hcases : i = 0 ∨ i = 1 ∨ i = 2 := by
    change (i : Int) < 3 at hi
    omega
  rcases hcases with rfl | rfl | rfl <;> decide

/-- After a lone carriage return a report stays on the first line, and a
unit finds its offset at the start of the second. -/
theorem stamp_loneReturn :
    (Lowering.stamp (LineStarts.ofBytes (Source.ofString "\ra").bytes)
        (.errorAt "" "" 1 1)).line = 1 ∧
      (LineEnds.ofBytes (Source.ofString "\ra").bytes).lineNumber? 1 = some 2 := by
  decide

end TreeBridge
