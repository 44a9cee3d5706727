import TreeBridge.Proofs.Text.Partition
/-!
# The place of a line and a column

A line and a column, both counted from one, tell a place in a text: the
line is one of its lines, and the column reaches no farther than behind
the last byte of that line. The offset is looked up by adding the column
to the start of the line in 32 bits. As long as the exact sum has room
there, the lookup gives the place and turns every other pair down. A
larger column is narrowed before it is compared with the line end, so
what is then given, if anything, is not the place.
-/

namespace TreeBridge

namespace LineEnds

variable {ends : LineEnds} {bytes : List UInt8} {line column : ℕ} {offset : Int}

/-! ## The bytes of a line -/

/-- The offset at which a line starts: the lines in front of it come
first. -/
def startOf (bytes : List UInt8) (line : ℕ) : ℕ :=
  ((lines bytes).take (line - 1)).flatten.length

/-- The offset past the last byte of a line. -/
def stopOf (bytes : List UInt8) (line : ℕ) : ℕ :=
  ((lines bytes).take line).flatten.length

/-- An offset is the place of a line and a column: the text has the line,
and the column, counted from the start of the line, is at most one past
its last byte. -/
structure PlacedAt (bytes : List UInt8) (line column : ℕ) (offset : Int) : Prop where
  line_pos : 1 ≤ line
  column_pos : 1 ≤ column
  line_le : line ≤ (lines bytes).length
  offset_eq : offset = startOf bytes line + column - 1
  offset_le : offset ≤ stopOf bytes line

theorem length_lines : (lines bytes).length = (ofBytes bytes).length :=
  length_slices

/-- No line reaches past the text. -/
theorem stopOf_le (line : ℕ) : stopOf bytes line ≤ bytes.length := by
  have hwhole : (lines bytes).flatten = bytes := by
    rw [lines_eq_linesAfter, flatten_linesAfter, List.nil_append]
  have hcut : (((lines bytes).take line) ++ (lines bytes).drop line).flatten.length =
      bytes.length := by
    rw [List.take_append_drop, hwhole]
  rw [List.flatten_append, List.length_append] at hcut
  unfold stopOf
  omega

/-- A place is inside the text, or its end. -/
theorem PlacedAt.in_text (h : PlacedAt bytes line column offset) :
    0 ≤ offset ∧ offset ≤ bytes.length := by
  have hcolumn := h.column_pos
  have hoffset := h.offset_eq
  have hstop := h.offset_le
  have hsize : stopOf bytes line ≤ bytes.length := stopOf_le line
  omega

/-! ## The lookup -/

/-- What is looked up: the sum in 32 bits, unless it is past the line. -/
theorem offsetOf?_eq_some_iff :
    ends.offsetOf? line column = some offset ↔
      1 ≤ line ∧ 1 ≤ column ∧ line ≤ ends.length ∧
        offset = wrap32 (ends.lineStart (line - 1) + column - 1) ∧
        offset ≤ ends.lineStart line := by
  unfold offsetOf?
  by_cases hbad : line = 0 ∨ column = 0 ∨ ends.length < line
  · rw [if_pos hbad]
    constructor
    · intro h
      cases h
    · intro h
      omega
  · rw [if_neg hbad]
    obtain ⟨index, rfl⟩ : ∃ index, line = index + 1 := ⟨line - 1, by omega⟩
    dsimp only
    rw [wrap32_add_wrap32, Nat.add_sub_cancel, lineStart]
    split
    · next hpast =>
      constructor
      · intro h
        cases h
      · rintro ⟨-, -, -, rfl, hle⟩
        omega
    · next hpast =>
      rw [Option.some_inj]
      constructor
      · rintro rfl
        omega
      · rintro ⟨-, -, -, rfl, -⟩
        rfl

/-- For the table of a text the lookup counts from the bytes of the
lines. -/
theorem offsetOf?_ofBytes_eq_some_iff :
    (ofBytes bytes).offsetOf? line column = some offset ↔
      1 ≤ line ∧ 1 ≤ column ∧ line ≤ (lines bytes).length ∧
        offset = wrap32 (startOf bytes line + column - 1) ∧ offset ≤ stopOf bytes line := by
  rw [offsetOf?_eq_some_iff, length_lines]
  -- the table and the bytes give a line the same start and the same end
  refine and_congr_right fun _ => and_congr_right fun _ => and_congr_right fun hline => ?_
  have hstart : (startOf bytes line : Int) = (ofBytes bytes).lineStart (line - 1) :=
    length_flatten_take_lines (by omega)
  have hstop : (stopOf bytes line : Int) = (ofBytes bytes).lineStart line :=
    length_flatten_take_lines hline
  rw [hstart, hstop]

/-- **Which offsets are places.** Up to the largest sum of 32 bits the
lookup gives the place of a line and a column and nothing else, so a
column past the line is turned down. Whatever the column, only lines of
the text have offsets, and the offset that is given is the place, hence
in the text, exactly if the sum has room. -/
theorem offsetOf?_eq_some_iff_placedAt (s : Source) (line column : ℕ) (offset : Int) :
    (startOf s.bytes line + column ≤ 2147483648 →
      ((ofBytes s.bytes).offsetOf? line column = some offset ↔
        PlacedAt s.bytes line column offset)) ∧
    ((ofBytes s.bytes).offsetOf? line column = some offset →
      1 ≤ line ∧ 1 ≤ column ∧ line ≤ (lines s.bytes).length ∧ offset ≤ s.size ∧
        (PlacedAt s.bytes line column offset ∧ 0 ≤ offset ↔
          startOf s.bytes line + column ≤ 2147483648)) := by
  have hexact (hcolumn : 1 ≤ column) :
      wrap32 (startOf s.bytes line + column - 1) = startOf s.bytes line + column - 1 ↔
        startOf s.bytes line + column ≤ 2147483648 := by
    have hsum : (0 : Int) ≤ startOf s.bytes line + column - 1 := by omega
    rw [wrap32_eq_self_iff hsum]
    omega
  rw [offsetOf?_ofBytes_eq_some_iff]
  refine ⟨fun hroom => ⟨?_, ?_⟩, ?_⟩
  · rintro ⟨hline, hcolumn, hlines, hoffset, hstop⟩
    rw [(hexact hcolumn).2 hroom] at hoffset
    exact ⟨hline, hcolumn, hlines, hoffset, hstop⟩
  · intro h
    have hoffset := h.offset_eq
    rw [← (hexact h.column_pos).2 hroom] at hoffset
    exact ⟨h.line_pos, h.column_pos, h.line_le, hoffset, h.offset_le⟩
  · rintro ⟨hline, hcolumn, hlines, hoffset, hstop⟩
    have hsize : offset ≤ s.size :=
      Int.le_trans hstop (Int.ofNat_le.2 (stopOf_le line))
    refine ⟨hline, hcolumn, hlines, hsize, ?_⟩
    rw [← hexact hcolumn, ← hoffset]
    constructor
    · rintro ⟨h, -⟩
      exact h.offset_eq
    · intro heq
      have h : PlacedAt s.bytes line column offset := ⟨hline, hcolumn, hlines, heq, hstop⟩
      exact ⟨h, h.in_text.1⟩

/-- The last column of a last line is behind the text. -/
theorem offsetOf?_eq_some_iff_placedAt_lastColumn :
    startOf (Source.ofString "a\r\nb").bytes 2 + 2 ≤ 2147483648 ∧
      (ofBytes (Source.ofString "a\r\nb").bytes).offsetOf? 2 2 = some 4 ∧
      PlacedAt (Source.ofString "a\r\nb").bytes 2 2 4 ∧
      (0 : Int) ≤ 4 ∧ (4 : Int) ≤ (Source.ofString "a\r\nb").size := by
  have hroom : startOf (Source.ofString "a\r\nb").bytes 2 + 2 ≤ 2147483648 := by decide
  have hfound : (ofBytes (Source.ofString "a\r\nb").bytes).offsetOf? 2 2 = some 4 := by decide
  obtain ⟨hexact, hplace⟩ := offsetOf?_eq_some_iff_placedAt (Source.ofString "a\r\nb") 2 2 4
  obtain ⟨-, -, -, hsize, hiff⟩ := hplace hfound
  exact ⟨hroom, hfound, (hexact hroom).1 hfound, (hiff.2 hroom).2, hsize⟩

/-- A column that is larger by the range of 32 bits counts as the first
one, and one a little below that range gives an offset in front of the
text. -/
theorem offsetOf?_wideColumn :
    (ofBytes (Source.ofString "ab").bytes).offsetOf? 1 4294967297 = some 0 ∧
      ¬ PlacedAt (Source.ofString "ab").bytes 1 4294967297 0 ∧
      (ofBytes (Source.ofString "ab").bytes).offsetOf? 1 4294967295 = some (-2) ∧
      ¬ PlacedAt (Source.ofString "ab").bytes 1 4294967295 (-2) := by
  refine ⟨by decide, fun h => ?_, by decide, fun h => ?_⟩
  · exact absurd h.offset_eq (by decide)
  · exact absurd h.offset_eq (by decide)

end LineEnds

end TreeBridge
