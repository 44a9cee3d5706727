import Mathlib.Order.Bounds.Basic
import TreeBridge.Proofs.Text.Word
/-!
# What the search for a word misses

What `findWord` finds is always the first whole word of the window. But
the search resumes one byte after an occurrence that it turns down, and
behind the first byte of a wide character no search can start. So a word
that begins with such a character is found only where its first occurrence
is a whole word already; any later one is missed.
-/

namespace TreeBridge

namespace Byte

/-- The second and every later byte of a character continue it. -/
theorem isContinuation_low (b : UInt8) : isContinuation (b &&& 63 ||| 128) = true := by
  have hbits : (b &&& 63 ||| 128) &&& 192 = (b &&& (63 &&& 192)) ||| (128 &&& 192) := by
    rw [← UInt8.and_assoc]
    exact UInt8.eq_of_toBitVec_eq BitVec.and_or_distrib_right
  have hnone : b &&& (63 &&& 192) = 0 := UInt8.and_zero
  unfold isContinuation
  rw [hbits, hnone]
  rfl

end Byte

theorem utf8_cons_ne_nil (c : Char) (cs : List Char) : utf8 (c :: cs) ≠ [] := by
  rw [utf8_cons]
  exact List.append_ne_nil_of_left_ne_nil String.utf8EncodeChar_ne_nil _

theorem utf8_toList_ne_nil {word : String} (h : word ≠ "") : utf8 word.toList ≠ [] := by
  intro hnil
  rw [← List.length_eq_zero_iff, length_utf8, String.utf8ByteSize_eq_zero_iff] at hnil
  exact h hnil

/-- The second byte of a wide character continues it. -/
theorem isContinuation_of_wide {c : Char} (h : 1 < c.utf8Size) :
    ∃ b, (String.utf8EncodeChar c)[1]? = some b ∧ Byte.isContinuation b = true := by
  have hsize := c.utf8Size_le_four
  obtain h2 | h3 | h4 : c.utf8Size = 2 ∨ c.utf8Size = 3 ∨ c.utf8Size = 4 := by omega
  · rw [String.utf8EncodeChar_eq_cons_cons h2]
    exact ⟨_, rfl, Byte.isContinuation_low _⟩
  · rw [String.utf8EncodeChar_eq_cons_cons_cons h3]
    exact ⟨_, rfl, Byte.isContinuation_low _⟩
  · rw [String.utf8EncodeChar_eq_cons_cons_cons_cons h4]
    exact ⟨_, rfl, Byte.isContinuation_low _⟩

/-! ## The first occurrence -/

/-- The first occurrence of a word is the least offset at which the bytes
spell it. -/
theorem not_prefix_of_lt_firstOccurrence? {word bytes : List UInt8} {skip n : Nat}
    (h : firstOccurrence? word bytes = some skip) (hn : n < skip) : ¬ word <+: bytes.drop n := by
  induction bytes generalizing skip n with
  | nil =>
    unfold firstOccurrence? at h
    split at h <;> cases h
    omega
  | cons b rest ih =>
    unfold firstOccurrence? at h
    split at h
    · cases h
      omega
    · next hprefix =>
      obtain ⟨k, hk, rfl⟩ := Option.map_eq_some_iff.1 h
      cases n with
      | zero => exact fun hword => hprefix (List.isPrefixOf_iff_prefix.2 hword)
      | succ n => exact ih hk (by omega)

theorem not_prefix_of_firstOccurrence?_eq_none {word bytes : List UInt8}
    (h : firstOccurrence? word bytes = none) (n : Nat) : ¬ word <+: bytes.drop n := by
  induction bytes generalizing n with
  | nil =>
    unfold firstOccurrence? at h
    split at h
    · cases h
    · next hempty =>
      rw [List.drop_nil, List.prefix_nil]
      exact fun hword => hempty (List.isEmpty_iff.2 hword)
  | cons b rest ih =>
    unfold firstOccurrence? at h
    split at h
    · cases h
    · next hprefix =>
      cases n with
      | zero => exact fun hword => hprefix (List.isPrefixOf_iff_prefix.2 hword)
      | succ n => exact ih (Option.map_eq_none_iff.1 h) n

namespace Word

/-- The bytes of a source spell a word at an offset of a window. -/
structure SpelledAt (s : Source) (word : List UInt8) (stop start hit : Nat) : Prop where
  start_le : start ≤ hit
  le_stop : hit + word.length ≤ stop
  spelled : word <+: s.bytes.drop hit

variable {s : Source} {word : List UInt8} {excluded : List Stretch} {stop start hit : Nat}

/-- The bytes of a window spell a word where those of the source do. -/
theorem prefix_drop_bytesBetween_iff (hne : word ≠ []) {skip : Nat} :
    word <+: (s.bytesBetween start stop).drop skip ↔
      SpelledAt s word stop start (start + skip) := by
  have hpos : 0 < word.length := List.length_pos_iff.2 hne
  rw [Source.bytesBetween, List.drop_take, List.drop_drop, List.prefix_take_iff]
  constructor
  · rintro ⟨hspelled, hlength⟩
    exact ⟨by omega, by omega, hspelled⟩
  · rintro ⟨-, hstop, hspelled⟩
    exact ⟨hspelled, by omega⟩

theorem isLeast_of_firstOccurrence? (hne : word ≠ []) {skip : Nat}
    (h : firstOccurrence? word (s.bytesBetween start stop) = some skip) :
    IsLeast {n | SpelledAt s word stop start n} (start + skip) := by
  refine ⟨(prefix_drop_bytesBetween_iff hne).1 (prefix_of_firstOccurrence? h), fun n hn => ?_⟩
  obtain ⟨k, rfl⟩ := Nat.exists_eq_add_of_le hn.start_le
  refine Nat.not_lt.1 fun hlt => ?_
  exact not_prefix_of_lt_firstOccurrence? h (by omega) ((prefix_drop_bytesBetween_iff hne).2 hn)

theorem not_spelledAt_of_firstOccurrence? (hne : word ≠ [])
    (h : firstOccurrence? word (s.bytesBetween start stop) = none) (n : Nat) :
    ¬ SpelledAt s word stop start n := by
  intro hn
  obtain ⟨k, rfl⟩ := Nat.exists_eq_add_of_le hn.start_le
  exact not_prefix_of_firstOccurrence?_eq_none h k ((prefix_drop_bytesBetween_iff hne).2 hn)

/-! ## The search -/

/-- A search between two boundaries goes to the first occurrence and, where
that is turned down, on behind the first byte of it. -/
theorem searchFrom_of_isLeast (hne : word ≠ []) (hstart : s.isBoundary start = true)
    (hstop : s.isBoundary stop = true)
    (h : IsLeast {n | SpelledAt s word stop start n} hit) :
    searchFrom s word excluded stop start =
      if accepts s word excluded hit then some hit
      else searchFrom s word excluded stop (hit + 1) := by
  have hpos : 0 < word.length := List.length_pos_iff.2 hne
  have hlt : start < stop := by
    have := h.1.start_le
    have := h.1.le_stop
    omega
  rw [searchFrom, dif_pos hlt, hstart, hstop, Bool.and_self, if_pos rfl]
  cases hskip : firstOccurrence? word (s.bytesBetween start stop) with
  | none => exact absurd h.1 (not_spelledAt_of_firstOccurrence? hne hskip hit)
  | some skip =>
    obtain rfl := h.unique (isLeast_of_firstOccurrence? hne hskip)
    rfl

theorem searchFrom_of_not_isBoundary (h : s.isBoundary start = false) :
    searchFrom s word excluded stop start = none := by
  rw [searchFrom]
  split
  · rw [h, Bool.false_and, if_neg Bool.false_ne_true]
  · rfl

/-- **The search never passes over a whole word**: it comes to the first
one or to none. -/
theorem isLeast_of_searchFrom (hne : word ≠ [])
    (h : searchFrom s word excluded stop start = some hit) :
    IsLeast {n | SpelledAt s word stop start n ∧ accepts s word excluded n = true} hit := by
  obtain ⟨hle, hstop, haccepts, hspelled⟩ := searchFrom_eq_some h
  refine ⟨⟨⟨hle, hstop, hspelled⟩, haccepts⟩, ?_⟩
  rintro n ⟨hn, haccepted⟩
  -- the occurrences between a rejected one and the resumption are none
  induction start using searchFrom.induct s word excluded stop with
  | case1 start hlt hbound hnone =>
    rw [searchFrom, dif_pos hlt, if_pos hbound, hnone] at h
    cases h
  | case2 start hlt hbound skip hskip hfirst =>
    rw [searchFrom, dif_pos hlt, if_pos hbound, hskip] at h
    simp only [hfirst, if_true] at h
    cases h
    exact (isLeast_of_firstOccurrence? hne hskip).2 hn
  | case3 start hlt hbound skip hskip hfirst ih =>
    rw [searchFrom, dif_pos hlt, if_pos hbound, hskip] at h
    simp only [hfirst, Bool.false_eq_true, if_false] at h
    have hbehind : start + skip ≤ n := (isLeast_of_firstOccurrence? hne hskip).2 hn
    have hother : n ≠ start + skip := fun heq => hfirst (heq ▸ haccepted)
    exact ih h (searchFrom_eq_some h).1 ⟨by omega, hn.le_stop, hn.spelled⟩
  | case4 start hlt hbound =>
    rw [searchFrom, dif_pos hlt, if_neg hbound] at h
    cases h
  | case5 start hge =>
    rw [searchFrom, dif_neg hge] at h
    cases h

/-- Where a search can always resume it misses nothing. -/
theorem not_accepts_of_searchFrom_eq_none (hne : word ≠ []) (hstart : s.isBoundary start = true)
    (hstop : s.isBoundary stop = true)
    (hresume : ∀ n, word <+: s.bytes.drop n → s.isBoundary (n + 1) = true)
    (h : searchFrom s word excluded stop start = none) {n : Nat}
    (hn : SpelledAt s word stop start n) : accepts s word excluded n = false := by
  induction start using searchFrom.induct s word excluded stop with
  | case1 start hlt hbound hnone =>
    exact absurd hn (not_spelledAt_of_firstOccurrence? hne hnone n)
  | case2 start hlt hbound skip hskip hfirst =>
    rw [searchFrom_of_isLeast hne hstart hstop (isLeast_of_firstOccurrence? hne hskip),
      if_pos hfirst] at h
    cases h
  | case3 start hlt hbound skip hskip hfirst ih =>
    have hleast := isLeast_of_firstOccurrence? hne hskip
    rw [searchFrom_of_isLeast hne hstart hstop hleast, if_neg hfirst] at h
    rcases Nat.eq_or_lt_of_le (hleast.2 hn) with rfl | hlt
    · exact Bool.eq_false_iff.2 hfirst
    · exact ih (hresume _ hleast.1.spelled) h ⟨hlt, hn.le_stop, hn.spelled⟩
  | case4 start hlt hbound =>
    rw [hstart, hstop] at hbound
    exact absurd rfl hbound
  | case5 start hge =>
    have hpos : 0 < word.length := List.length_pos_iff.2 hne
    have := hn.start_le
    have := hn.le_stop
    omega

/-! ## Behind the first byte -/

/-- Behind the first character of one byte a search can start. -/
theorem isBoundary_succ_of_narrow {c : Char} {cs : List Char} (hc : c.utf8Size = 1)
    (h : utf8 (c :: cs) <+: s.bytes.drop hit) : s.isBoundary (hit + 1) = true := by
  rw [s.bytes_eq] at h
  obtain ⟨before, after, hsplit, rfl⟩ := split_of_bytes (List.cons_ne_nil c cs) h
  have hbehind : s.text.toList = (before ++ [c]) ++ (cs ++ after) := by
    rw [hsplit, List.cons_append, List.append_assoc, List.singleton_append]
  have hbound := Source.isBoundary_of_split hbehind
  rwa [utf8_append, List.length_append, utf8_cons, utf8_nil, List.append_nil,
    String.length_utf8EncodeChar, hc] at hbound

/-- Behind the first byte of a wide character none can. -/
theorem isBoundary_succ_of_wide {c : Char} {cs : List Char} (hc : 1 < c.utf8Size)
    (h : utf8 (c :: cs) <+: s.bytes.drop hit) : s.isBoundary (hit + 1) = false := by
  obtain ⟨b, hb, hcontinues⟩ := isContinuation_of_wide hc
  obtain ⟨rest, hrest⟩ := h
  have hsecond : s.bytes[hit + 1]? = some b := by
    rw [← List.getElem?_drop, ← hrest, utf8_cons, List.append_assoc,
      List.getElem?_append_left (List.getElem?_eq_some_iff.1 hb).1, hb]
  rw [Source.isBoundary, hsecond]
  simp [hcontinues]

/-- A word that begins with a wide character is missed where its first
occurrence is turned down, and only there. -/
theorem searchFrom_complete_iff {c : Char} {cs : List Char} (hstart : s.isBoundary start = true)
    (hstop : s.isBoundary stop = true) :
    (searchFrom s (utf8 (c :: cs)) excluded stop start = none → ∀ n,
        ¬ (SpelledAt s (utf8 (c :: cs)) stop start n ∧
          accepts s (utf8 (c :: cs)) excluded n = true)) ↔
      (1 < c.utf8Size → (∃ n, SpelledAt s (utf8 (c :: cs)) stop start n ∧
          accepts s (utf8 (c :: cs)) excluded n = true) →
        ∃ n, IsLeast {n | SpelledAt s (utf8 (c :: cs)) stop start n} n ∧
          accepts s (utf8 (c :: cs)) excluded n = true) := by
  have hne := utf8_cons_ne_nil c cs
  constructor
  · rintro hcomplete hwide ⟨n, hn, haccepted⟩
    cases hskip : firstOccurrence? (utf8 (c :: cs)) (s.bytesBetween start stop) with
    | none => exact absurd hn (not_spelledAt_of_firstOccurrence? hne hskip n)
    | some skip =>
      have hleast := isLeast_of_firstOccurrence? hne hskip
      by_cases hfirst : accepts s (utf8 (c :: cs)) excluded (start + skip) = true
      · exact ⟨start + skip, hleast, hfirst⟩
      -- the search goes on inside a character, so it ends with nothing
      · have hnone : searchFrom s (utf8 (c :: cs)) excluded stop start = none := by
          rw [searchFrom_of_isLeast hne hstart hstop hleast, if_neg hfirst]
          exact searchFrom_of_not_isBoundary (isBoundary_succ_of_wide hwide hleast.1.spelled)
        exact absurd ⟨hn, haccepted⟩ (hcomplete hnone n)
  · rintro hfirst hnone n ⟨hn, haccepted⟩
    rcases Nat.eq_or_lt_of_le c.utf8Size_pos with hnarrow | hwide
    · have hrejected := not_accepts_of_searchFrom_eq_none hne hstart hstop
        (fun _ => isBoundary_succ_of_narrow hnarrow.symm) hnone hn
      exact Bool.false_ne_true (hrejected.symm.trans haccepted)
    · obtain ⟨k, hleast, hwhole⟩ := hfirst hwide ⟨n, hn, haccepted⟩
      rw [searchFrom_of_isLeast hne hstart hstop hleast, if_pos hwhole] at hnone
      cases hnone

end Word

/-! ## Whole words -/

/-- The offset of an identifier byte. -/
def Source.IdentifierAt (s : Source) (offset : Int) : Prop :=
  0 ≤ offset ∧ (s.bytes[offset.toNat]?).any Byte.isIdentifier = true

namespace Word

/-- An occurrence of a word in a window of a source. -/
structure OccursAt (s : Source) (word : String) (start stop hit : Int) : Prop where
  start_le : start ≤ hit
  le_stop : hit + word.utf8ByteSize ≤ min stop s.size
  spelled : s.slice? hit (hit + word.utf8ByteSize) = some word

/-- An occurrence of a word that stands alone, unless the word is
punctuated, and overlaps no excluded stretch. -/
structure WholeAt (s : Source) (word : String) (start stop : Int) (excluded : List Stretch)
    (hit : Int) : Prop extends OccursAt s word start stop hit where
  alone : isPunctuated (utf8 word.toList) = false →
    ¬ s.IdentifierAt (hit - 1) ∧ ¬ s.IdentifierAt (hit + word.utf8ByteSize)
  clear : ∀ e ∈ excluded, ¬ (hit < e.stop ∧ e.start < hit + word.utf8ByteSize)

/-- A word whose first character takes more than one byte. -/
def StartsWide (word : String) : Prop :=
  ∃ c cs, word.toList = c :: cs ∧ 1 < c.utf8Size

theorem eq_utf8_of_decode? {bytes : List UInt8} {text : String}
    (h : Source.decode? bytes = some text) : bytes = utf8 text.toList := by
  unfold Source.decode? String.fromUTF8? at h
  split at h
  · next hvalid =>
    cases h
    have hbytes := @String.utf8Encode_toList (String.fromUTF8 bytes.toByteArray hvalid)
    exact List.toByteArray_inj.1 hbytes.symm
  · cases h

variable {s : Source} {word : String} {start stop hit : Int} {excluded : List Stretch}

theorem le_size_of_isBoundary {n : Nat} (h : s.isBoundary n = true) : n ≤ s.size := by
  unfold Source.isBoundary at h
  split at h
  · next hn => exact Nat.le_of_lt (List.getElem?_eq_some_iff.1 hn).1
  · exact Nat.le_of_eq (beq_iff_eq.1 h)

/-- A slice is as long as its text. -/
theorem bounds_of_slice? {m n : Nat} (h : s.slice? m n = some word) :
    n = m + word.utf8ByteSize ∧ n ≤ s.size := by
  unfold Source.slice? at h
  split at h
  · cases h
  · next hordered =>
    split at h
    · next hbounds =>
      rw [Int.toNat_natCast, Int.toNat_natCast] at h hbounds
      have hstart := le_size_of_isBoundary (Bool.and_eq_true_iff.1 hbounds).1
      have hstop := le_size_of_isBoundary (Bool.and_eq_true_iff.1 hbounds).2
      have hlength := congrArg List.length (eq_utf8_of_decode? h)
      rw [length_utf8, Source.bytesBetween, List.length_take, List.length_drop] at hlength
      unfold Source.size at hstart hstop ⊢
      omega
    · cases h

theorem spells_of_slice? {n : Nat} (h : s.slice? n (n + word.utf8ByteSize) = some word) :
    utf8 word.toList <+: s.bytes.drop n := by
  unfold Source.slice? at h
  rw [if_neg (by omega)] at h
  split at h
  · rw [← eq_utf8_of_decode? h]
    exact List.take_prefix _ _
  · cases h

theorem occursAt_iff (hword : word ≠ "") (hstart : 0 ≤ start) :
    OccursAt s word start stop hit ↔ ∃ n : Nat, hit = n ∧
      SpelledAt s (utf8 word.toList) (min stop.toNat s.size) start.toNat n := by
  have hpos : 0 < word.utf8ByteSize :=
    Nat.pos_of_ne_zero fun hzero => hword (String.utf8ByteSize_eq_zero_iff.1 hzero)
  have hlength := length_utf8 word
  constructor
  · rintro ⟨hle, hstop, hslice⟩
    obtain ⟨n, rfl⟩ := Int.eq_ofNat_of_zero_le (hstart.trans hle)
    exact ⟨n, rfl, by omega, by omega, spells_of_slice? hslice⟩
  · rintro ⟨n, rfl, hle, hstop, hspelled⟩
    refine ⟨by omega, by omega, ?_⟩
    rw [s.bytes_eq] at hspelled
    have hne : word.toList ≠ [] := by simpa using hword
    obtain ⟨before, after, hsplit, hbefore⟩ := split_of_bytes hne hspelled
    have hslice := Source.slice?_of_split hsplit
    rwa [hbefore, hlength, String.ofList_toList] at hslice

theorem accepts_iff {n : Nat} : accepts s (utf8 word.toList) excluded n = true ↔
    (isPunctuated (utf8 word.toList) = false →
      ¬ s.IdentifierAt (n - 1) ∧ ¬ s.IdentifierAt (n + word.utf8ByteSize)) ∧
    ∀ e ∈ excluded, ¬ ((n : Int) < e.stop ∧ e.start < n + word.utf8ByteSize) := by
  have hbefore : (n == 0 || !(s.bytes[n - 1]?).any Byte.isIdentifier) = true ↔
      ¬ s.IdentifierAt (n - 1) := by
    unfold Source.IdentifierAt
    cases n with
    | zero => simp
    | succ n => simp
  have hafter : (!(s.bytes[n + word.utf8ByteSize]?).any Byte.isIdentifier) = true ↔
      ¬ s.IdentifierAt (n + word.utf8ByteSize) := by
    unfold Source.IdentifierAt
    rw [← Int.natCast_add, Int.toNat_natCast, and_iff_right (Int.natCast_nonneg _)]
    simp
  have hclear : (!excluded.any fun e => e.meets ⟨n, ↑(n + word.utf8ByteSize)⟩) = true ↔
      ∀ e ∈ excluded, ¬ ((n : Int) < e.stop ∧ e.start < n + word.utf8ByteSize) := by
    simp [Stretch.meets, and_comm]
  unfold accepts
  rw [length_utf8, Bool.and_eq_true, Bool.and_eq_true, hclear]
  refine and_congr_left' ?_
  cases isPunctuated (utf8 word.toList) with
  | true => simp
  | false => rw [Bool.or_false, Bool.or_false, hbefore, hafter, forall_prop_of_true rfl]

theorem wholeAt_iff (hword : word ≠ "") (hstart : 0 ≤ start) :
    WholeAt s word start stop excluded hit ↔ ∃ n : Nat, hit = n ∧
      SpelledAt s (utf8 word.toList) (min stop.toNat s.size) start.toNat n ∧
      accepts s (utf8 word.toList) excluded n = true := by
  constructor
  · rintro ⟨hoccurs, halone, hclear⟩
    obtain ⟨n, rfl, hspelled⟩ := (occursAt_iff hword hstart).1 hoccurs
    exact ⟨n, rfl, hspelled, accepts_iff.2 ⟨halone, hclear⟩⟩
  · rintro ⟨n, rfl, hspelled, haccepts⟩
    obtain ⟨halone, hclear⟩ := accepts_iff.1 haccepts
    exact ⟨(occursAt_iff hword hstart).2 ⟨n, rfl, hspelled⟩, halone, hclear⟩

theorem exists_natCast_iff {P : Nat → Prop} :
    (∃ h : Int, ∃ n : Nat, h = n ∧ P n) ↔ ∃ n, P n :=
  ⟨fun ⟨_, n, _, h⟩ => ⟨n, h⟩, fun ⟨n, h⟩ => ⟨n, n, rfl, h⟩⟩

/-- The least offset is the least natural number. -/
theorem isLeast_natCast_iff {P : Nat → Prop} {n : Nat} :
    IsLeast {h : Int | ∃ m : Nat, h = m ∧ P m} n ↔ IsLeast {m | P m} n := by
  constructor
  · rintro ⟨⟨m, hm, hP⟩, hleast⟩
    obtain rfl := Int.natCast_inj.1 hm
    exact ⟨hP, fun k hk => Int.ofNat_le.1 (hleast ⟨k, rfl, hk⟩)⟩
  · rintro ⟨hP, hleast⟩
    refine ⟨⟨n, rfl, hP⟩, ?_⟩
    rintro _ ⟨k, rfl, hk⟩
    exact Int.ofNat_le.2 (hleast hk)

/-! ## A search for any occurrence -/

theorem find?_of_isBoundary {bytes : List UInt8} {k : Nat} (h : s.isBoundary k = true) :
    s.find? bytes k = (firstOccurrence? bytes (s.bytesBetween k s.size)).map
      fun skip => ((k + skip : Nat) : Int) := by
  have hrest : s.bytesBetween k s.size = s.bytes.drop k :=
    List.take_of_length_le (by simp [Source.size])
  rw [Source.find?, if_neg (Int.not_lt.2 (Int.natCast_nonneg k)), Int.toNat_natCast, if_pos h,
    hrest]
  cases firstOccurrence? bytes (s.bytes.drop k) <;> rfl

/-- What is found first is the least occurrence in the rest of the
source. -/
theorem find?_eq_some_iff (hword : word ≠ "") :
    s.find? (utf8 word.toList) start = some hit ↔ 0 ≤ start ∧
      s.isBoundary start.toNat = true ∧ IsLeast {h | OccursAt s word start s.size h} hit := by
  rcases Int.lt_or_le start 0 with hneg | hstart
  · rw [Source.find?, if_pos hneg]
    exact iff_of_false (fun h => nomatch h) fun h => Int.not_lt.2 h.1 hneg
  obtain ⟨k, rfl⟩ := Int.eq_ofNat_of_zero_le hstart
  have hne := utf8_toList_ne_nil hword
  simp only [occursAt_iff hword hstart, Int.toNat_natCast, Nat.min_self]
  by_cases hbound : s.isBoundary k = true
  · rw [find?_of_isBoundary hbound, and_iff_right hstart, and_iff_right hbound]
    constructor
    · intro h
      obtain ⟨skip, hskip, rfl⟩ := Option.map_eq_some_iff.1 h
      exact isLeast_natCast_iff.2 (isLeast_of_firstOccurrence? hne hskip)
    · intro hleast
      obtain ⟨n, rfl, hn⟩ := hleast.1
      cases hskip : firstOccurrence? (utf8 word.toList) (s.bytesBetween k s.size) with
      | none => exact absurd hn (not_spelledAt_of_firstOccurrence? hne hskip n)
      | some skip =>
        have hfirst := isLeast_of_firstOccurrence? hne hskip
        rw [(isLeast_natCast_iff.1 hleast).unique hfirst]
        rfl
  · rw [Source.find?, if_neg (Int.not_lt.2 hstart), Int.toNat_natCast, if_neg hbound]
    exact iff_of_false (fun h => nomatch h) fun h => hbound h.2.1

/-- Nothing is found only where no occurrence follows, or inside a
character. -/
theorem find?_eq_none_iff (hword : word ≠ "") (hstart : 0 ≤ start) :
    s.find? (utf8 word.toList) start = none ↔
      s.isBoundary start.toNat = false ∨ ∀ h, ¬ OccursAt s word start s.size h := by
  obtain ⟨k, rfl⟩ := Int.eq_ofNat_of_zero_le hstart
  have hne := utf8_toList_ne_nil hword
  simp only [occursAt_iff hword hstart, Int.toNat_natCast, Nat.min_self]
  by_cases hbound : s.isBoundary k = true
  · have hrest : (s.isBoundary k = false ∨ ∀ h : Int,
        ¬ ∃ n : Nat, h = n ∧ SpelledAt s (utf8 word.toList) s.size k n) ↔
          ∀ n, ¬ SpelledAt s (utf8 word.toList) s.size k n := by
      rw [hbound, or_iff_right (Bool.noConfusion), ← not_exists, exists_natCast_iff, not_exists]
    rw [find?_of_isBoundary hbound, Option.map_eq_none_iff, hrest]
    constructor
    · exact not_spelledAt_of_firstOccurrence? hne
    · intro hnone
      cases hskip : firstOccurrence? (utf8 word.toList) (s.bytesBetween k s.size) with
      | none => rfl
      | some skip => exact absurd (isLeast_of_firstOccurrence? hne hskip).1 (hnone _)
  · rw [Source.find?, if_neg (Int.not_lt.2 hstart), Int.toNat_natCast, if_neg hbound]
    exact iff_of_true rfl (.inl (Bool.eq_false_iff.2 hbound))

/-- No identifier byte stands next to an occurrence of a word. -/
def StandsAlone (s : Source) (word : String) (hit : Int) : Prop :=
  ¬ s.IdentifierAt (hit - 1) ∧ ¬ s.IdentifierAt (hit + word.utf8ByteSize)

/-- The first occurrence stands alone exactly if the search for the whole
word comes to it. -/
theorem standsAlone_iff_findWord (hword : word ≠ "")
    (hplain : isPunctuated (utf8 word.toList) = false)
    (h : s.find? (utf8 word.toList) start = some hit) :
    StandsAlone s word hit ↔ findWord s word start s.size [] = some hit := by
  obtain ⟨hstart, hbound, hleast⟩ := (find?_eq_some_iff hword).1 h
  simp only [occursAt_iff hword hstart, Int.toNat_natCast, Nat.min_self] at hleast
  obtain ⟨n, rfl, hn⟩ := hleast.1
  have hne := utf8_toList_ne_nil hword
  have haccepts : accepts s (utf8 word.toList) [] n = true ↔ StandsAlone s word n := by
    rw [accepts_iff, forall_prop_of_true hplain]
    exact and_iff_left fun _ he => nomatch he
  have hsearch : searchFrom s (utf8 word.toList) [] s.size start.toNat = _ :=
    searchFrom_of_isLeast hne hbound Source.splits_size.isBoundary (isLeast_natCast_iff.1 hleast)
  rw [findWord_of_ne hword hstart, Int.toNat_natCast, Nat.min_self, hsearch, ← haccepts]
  constructor
  · intro halone
    rw [if_pos halone]
    rfl
  · intro hfound
    by_contra hrejected
    -- a search that goes on comes to a later place
    obtain ⟨m, hm, heq⟩ := Option.map_eq_some_iff.1 hfound
    rw [if_neg hrejected] at hm
    have hlater := (searchFrom_eq_some hm).1
    omega

end Word

/-- **What is found is the first whole word of the window, and none is
missed but behind a wide character.** In a window between two boundaries a
search without a result has missed a whole word exactly if the word begins
with a wide character and its first occurrence is not a whole word. -/
theorem isLeast_findWord_and_complete_iff {s : Source} {word : String} {start stop : Int}
    {excluded : List Stretch} (hword : word ≠ "") (hstart : 0 ≤ start)
    (hfrom : s.isBoundary start.toNat = true)
    (hto : s.isBoundary (min stop.toNat s.size) = true) :
    (∀ hit, findWord s word start stop excluded = some hit →
      IsLeast {h | Word.WholeAt s word start stop excluded h} hit) ∧
    ((findWord s word start stop excluded = none →
        ∀ hit, ¬ Word.WholeAt s word start stop excluded hit) ↔
      (Word.StartsWide word → (∃ hit, Word.WholeAt s word start stop excluded hit) →
        ∃ hit, IsLeast {h | Word.OccursAt s word start stop h} hit ∧
          Word.WholeAt s word start stop excluded hit)) := by
  obtain ⟨c, cs, hcs⟩ := List.exists_cons_of_ne_nil (by simpa using hword : word.toList ≠ [])
  have hwide : Word.StartsWide word ↔ 1 < c.utf8Size := by
    constructor
    · rintro ⟨d, ds, hds, hlt⟩
      obtain ⟨rfl, rfl⟩ := List.cons.inj (hcs.symm.trans hds)
      exact hlt
    · exact fun hlt => ⟨c, cs, hcs, hlt⟩
  have hcomplete := @Word.searchFrom_complete_iff s excluded _ _ c cs hfrom hto
  rw [findWord_of_ne hword hstart]
  simp only [Word.wholeAt_iff hword hstart, Word.occursAt_iff hword hstart, hwide, hcs,
    Option.map_eq_none_iff, ← not_exists, Word.exists_natCast_iff] at hcomplete ⊢
  refine ⟨fun hit hhit => ?_, hcomplete.trans ?_⟩
  · obtain ⟨n, hn, rfl⟩ := Option.map_eq_some_iff.1 hhit
    exact Word.isLeast_natCast_iff.2 (Word.isLeast_of_searchFrom (utf8_cons_ne_nil c cs) hn)
  · refine forall₂_congr fun _ _ => ⟨?_, ?_⟩
    · rintro ⟨n, hleast, haccepts⟩
      exact ⟨n, Word.isLeast_natCast_iff.2 hleast, n, rfl, hleast.1, haccepts⟩
    · rintro ⟨_, hleast, n, rfl, -, haccepts⟩
      exact ⟨n, Word.isLeast_natCast_iff.1 hleast, haccepts⟩

/-- A word of one wide character that stands first in a longer word and
then alone. -/
def accented : Source :=
  .ofString "éa é"

theorem findWord_accented : accented.isBoundary 0 = true ∧ accented.isBoundary 6 = true ∧
    findWord accented "é" 0 6 [] = none ∧ Word.WholeAt accented "é" 0 6 [] 4 := by
  have hfind : findWord accented "é" 0 6 [] = none := by
    decide +kernel
  have hoccurs : Word.OccursAt accented "é" 0 6 4 := ⟨by decide, by decide, by decide +kernel⟩
  have halone : ¬ accented.IdentifierAt 3 ∧ ¬ accented.IdentifierAt 6 := by
    unfold Source.IdentifierAt
    decide
  exact ⟨by decide, by decide, hfind, hoccurs, fun _ => halone, fun _ he => nomatch he⟩

theorem isLeast_findWord_accented : "é" ≠ "" ∧ accented.isBoundary (0 : Int).toNat = true ∧
    accented.isBoundary (min (6 : Int).toNat accented.size) = true ∧
    (∀ hit, findWord accented "é" 0 6 [] = some hit →
      IsLeast {h | Word.WholeAt accented "é" 0 6 [] h} hit) ∧
    ((findWord accented "é" 0 6 [] = none → ∀ hit, ¬ Word.WholeAt accented "é" 0 6 [] hit) ↔
      (Word.StartsWide "é" → (∃ hit, Word.WholeAt accented "é" 0 6 [] hit) →
        ∃ hit, IsLeast {h | Word.OccursAt accented "é" 0 6 h} hit ∧
          Word.WholeAt accented "é" 0 6 [] hit)) := by
  have hfrom : accented.isBoundary (0 : Int).toNat = true := by decide
  have hto : accented.isBoundary (min (6 : Int).toNat accented.size) = true := by decide
  exact ⟨by decide, hfrom, hto,
    isLeast_findWord_and_complete_iff (by decide) (by decide) hfrom hto⟩

end TreeBridge
