import TreeBridge.Text.Source
/-!
# Characters in the bytes of a text

The bytes of a text are split at characters exactly where a first byte of
a character stands. So where the bytes of a word occur among those of a
text, the word itself occurs among the characters (`split_of_bytes`), and
the slice between the ends of the occurrence is the word
(`slice?_of_split`).
-/

namespace TreeBridge

@[simp] theorem utf8_nil : utf8 [] = [] := rfl

@[simp] theorem utf8_cons (c : Char) (cs : List Char) :
    utf8 (c :: cs) = String.utf8EncodeChar c ++ utf8 cs := rfl

@[simp] theorem utf8_append (cs ds : List Char) : utf8 (cs ++ ds) = utf8 cs ++ utf8 ds :=
  List.flatMap_append

/-- A first byte of a character continues none. -/
theorem Byte.not_isContinuation_of_first {b : UInt8} (h : b.IsUTF8FirstByte) :
    Byte.isContinuation b = false := by
  unfold Byte.isContinuation
  rw [beq_eq_false_iff_ne]
  intro hb
  -- the two top bits are those of a continuation, and no first byte has them
  have hmask (m : UInt8) : (b &&& m) &&& 0xc0 = 0x80 &&& m := by
    rw [← hb, UInt8.and_assoc, UInt8.and_assoc, UInt8.and_comm m]
  rcases h with h | h | h | h
  · exact absurd (h ▸ hmask 128) (by decide)
  · exact absurd (h ▸ hmask 224) (by decide)
  · exact absurd (h ▸ hmask 240) (by decide)
  · exact absurd (h ▸ hmask 248) (by decide)

/-- Inside the bytes of a character only the first is a first byte. -/
theorem getElem?_utf8EncodeChar_first {c : Char} {i : Nat} {b : UInt8}
    (h : (String.utf8EncodeChar c)[i]? = some b) : b.IsUTF8FirstByte ↔ i = 0 := by
  obtain ⟨hi, rfl⟩ := List.getElem?_eq_some_iff.1 h
  exact UInt8.isUTF8FirstByte_getElem_utf8EncodeChar

theorem first_of_utf8_cons {c : Char} {cs : List Char} :
    ∃ b, (utf8 (c :: cs))[0]? = some b ∧ b.IsUTF8FirstByte := by
  obtain ⟨b, rest, hrest⟩ := List.exists_cons_of_ne_nil (String.utf8EncodeChar_ne_nil (c := c))
  refine ⟨b, by simp [hrest], ?_⟩
  exact (getElem?_utf8EncodeChar_first (i := 0) (by rw [hrest]; rfl)).2 rfl

/-- A text splits before every first byte of a character. -/
theorem split_of_first {cs : List Char} {n : Nat} {b : UInt8} (h : (utf8 cs)[n]? = some b)
    (hb : b.IsUTF8FirstByte) : ∃ before after, cs = before ++ after ∧ (utf8 before).length = n := by
  induction cs generalizing n with
  | nil => cases h
  | cons c cs ih =>
    rw [utf8_cons] at h
    rcases Nat.lt_or_ge n (String.utf8EncodeChar c).length with hlt | hge
    · rw [List.getElem?_append_left hlt] at h
      obtain rfl := (getElem?_utf8EncodeChar_first h).1 hb
      exact ⟨[], c :: cs, rfl, rfl⟩
    · rw [List.getElem?_append_right hge] at h
      obtain ⟨before, after, rfl, hlength⟩ := ih h
      refine ⟨c :: before, after, rfl, ?_⟩
      rw [utf8_cons, List.length_append, hlength]
      omega

/-- Texts whose bytes begin alike begin alike. -/
theorem prefix_of_utf8_prefix {cs ds : List Char} (h : utf8 cs <+: utf8 ds) : cs <+: ds := by
  obtain ⟨rest, hrest⟩ := h
  refine List.isPrefix_of_utf8Encode_append_eq_utf8Encode rest.toByteArray ?_
  unfold List.utf8Encode
  rw [← List.toByteArray_append]
  exact congrArg List.toByteArray hrest

/-- **An occurrence of the bytes of a word is an occurrence of the word.** -/
theorem split_of_bytes {cs word : List Char} {n : Nat} (hne : word ≠ [])
    (h : utf8 word <+: (utf8 cs).drop n) :
    ∃ before after, cs = before ++ (word ++ after) ∧ (utf8 before).length = n := by
  obtain ⟨c, word, rfl⟩ := List.exists_cons_of_ne_nil hne
  obtain ⟨b, hb, hfirst⟩ := @first_of_utf8_cons c word
  have hn : (utf8 cs)[n]? = some b := by
    obtain ⟨rest, hrest⟩ := h
    have hdrop : ((utf8 cs).drop n)[0]? = some b := by
      rw [← hrest, List.getElem?_append_left (List.getElem?_eq_some_iff.1 hb).1, hb]
    rwa [List.getElem?_drop, Nat.add_zero] at hdrop
  obtain ⟨before, rest, rfl, hlength⟩ := split_of_first hn hfirst
  rw [utf8_append, ← hlength, List.drop_left] at h
  obtain ⟨after, rfl⟩ := prefix_of_utf8_prefix h
  exact ⟨before, after, rfl, hlength⟩

namespace Source

variable {s : Source} {before word after : List Char}

theorem isBoundary_of_split (h : s.text.toList = before ++ after) :
    s.isBoundary (utf8 before).length = true := by
  have hbytes : s.bytes = utf8 before ++ utf8 after := by rw [s.bytes_eq, h, utf8_append]
  unfold isBoundary size
  rw [hbytes, List.getElem?_append_right (Nat.le_refl _), Nat.sub_self]
  cases after with
  | nil => simp
  | cons c after =>
    obtain ⟨b, hb, hfirst⟩ := @first_of_utf8_cons c after
    rw [hb]
    simp [Byte.not_isContinuation_of_first hfirst]

theorem decode?_utf8 (cs : List Char) : decode? (utf8 cs) = some (String.ofList cs) := by
  have hvalid : (utf8 cs).toByteArray.IsValidUTF8 := ⟨cs, rfl⟩
  unfold decode? String.fromUTF8?
  rw [dif_pos hvalid, Option.some_inj, ← String.toByteArray_inj, String.toByteArray_ofList]
  rfl

/-- **The slice between the ends of an occurrence of a word is the word.** -/
theorem slice?_of_split (h : s.text.toList = before ++ (word ++ after)) :
    s.slice? (utf8 before).length ((utf8 before).length + (utf8 word).length) =
      some (String.ofList word) := by
  have hstart := isBoundary_of_split h
  have hstop := isBoundary_of_split (h.trans (List.append_assoc ..).symm)
  rw [utf8_append, List.length_append] at hstop
  have hbytes : s.bytes = utf8 before ++ (utf8 word ++ utf8 after) := by
    rw [s.bytes_eq, h, utf8_append, utf8_append]
  unfold slice?
  rw [if_neg (by omega), ← Int.natCast_add, Int.toNat_natCast, Int.toNat_natCast, hstart, hstop,
    Bool.and_true, if_pos rfl, bytesBetween, hbytes, List.drop_left, Nat.add_sub_cancel_left,
    List.take_left, decode?_utf8]

/-! ## Where a text splits -/

/-- An offset at which the bytes of a source split into those of two
texts. -/
def Splits (s : Source) (n : Nat) : Prop :=
  ∃ before after, s.text.toList = before ++ after ∧ (utf8 before).length = n

variable {m n : Nat}

theorem splits_zero : s.Splits 0 :=
  ⟨[], s.text.toList, rfl, rfl⟩

theorem splits_size : s.Splits s.size :=
  ⟨s.text.toList, [], (List.append_nil _).symm, by rw [size, s.bytes_eq]⟩

theorem Splits.isBoundary (h : s.Splits n) : s.isBoundary n = true := by
  obtain ⟨before, after, hsplit, rfl⟩ := h
  exact isBoundary_of_split hsplit

/-- A byte of ASCII is a character of its own. -/
theorem utf8_of_ascii {b : UInt8} (h : b < 0x80) : utf8 [Char.ofNat b.toNat] = [b] := by
  have hall : ∀ k < 128, utf8 [Char.ofNat k] = [UInt8.ofNat k] := by decide +kernel
  have hb := hall b.toNat (UInt8.lt_iff_toNat_lt.1 h)
  rwa [UInt8.ofNat_toNat] at hb

/-- A text splits before and after every byte of ASCII. -/
theorem splits_of_ascii {b : UInt8} (hb : s.bytes[n]? = some b) (hascii : b < 0x80) :
    s.Splits n ∧ s.Splits (n + 1) := by
  have hprefix : utf8 [Char.ofNat b.toNat] <+: (utf8 s.text.toList).drop n := by
    obtain ⟨hn, rfl⟩ := List.getElem?_eq_some_iff.1 hb
    rw [utf8_of_ascii hascii, ← s.bytes_eq, List.drop_eq_getElem_cons hn]
    exact ⟨_, rfl⟩
  obtain ⟨before, after, hsplit, hlength⟩ := split_of_bytes (List.cons_ne_nil _ _) hprefix
  refine ⟨⟨before, _, hsplit, hlength⟩, before ++ [Char.ofNat b.toNat], after, ?_, ?_⟩
  · rw [hsplit, List.append_assoc]
  · rw [utf8_append, List.length_append, hlength, utf8_of_ascii hascii]
    rfl

/-- **Between two splits there is a text**, spelled by the bytes there. -/
theorem slice?_of_splits (hm : s.Splits m) (hn : s.Splits n) (hle : m ≤ n) :
    ∃ text, s.slice? m n = some text ∧ utf8 text.toList = s.bytesBetween m n := by
  obtain ⟨before, after, hsplit, rfl⟩ := hm
  obtain ⟨upto, behind, hsplit', rfl⟩ := hn
  -- the earlier part of the text is a prefix of the later one
  have hbefore : utf8 before <+: utf8 s.text.toList := ⟨utf8 after, by rw [hsplit, utf8_append]⟩
  have hupto : utf8 upto <+: utf8 s.text.toList := ⟨utf8 behind, by rw [hsplit', utf8_append]⟩
  have hprefix : utf8 before <+: utf8 upto := List.prefix_of_prefix_length_le hbefore hupto hle
  obtain ⟨word, rfl⟩ := prefix_of_utf8_prefix hprefix
  have hword : s.text.toList = before ++ (word ++ behind) := by
    rw [hsplit', List.append_assoc]
  have hslice := slice?_of_split hword
  rw [← Int.natCast_add, ← List.length_append, ← utf8_append] at hslice
  refine ⟨_, hslice, ?_⟩
  have hbytes : s.bytes = utf8 before ++ (utf8 word ++ utf8 behind) := by
    rw [s.bytes_eq, hword, utf8_append, utf8_append]
  rw [String.toList_ofList, bytesBetween, hbytes, List.drop_left, utf8_append,
    List.length_append, Nat.add_sub_cancel_left, List.take_left]

end Source

end TreeBridge
