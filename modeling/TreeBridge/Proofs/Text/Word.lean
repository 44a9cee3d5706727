import TreeBridge.Proofs.Text.Encoding
import TreeBridge.Text.Word
/-!
# Found words

A word that is found is spelled by the text, lies in the window of the
search and meets no excluded stretch. The window ends at an offset of 32
bits, so the span of a found word never wraps.
-/

namespace TreeBridge

theorem wrap32_lt (n : Int) : wrap32 n < 2147483648 := by
  have h := Int.bmod_lt (x := n) (m := 4294967296) (by omega)
  unfold wrap32
  omega

/-- Offsets of 32 bits are not wrapped. -/
theorem wrap32_of_nonneg_of_lt {n : Int} (h0 : 0 ≤ n) (h : n < 2147483648) : wrap32 n = n :=
  Int.bmod_eq_of_le (by omega) (by omega)

variable {s : Source} {word : List UInt8} {excluded : List Stretch}

/-- The text of a span whose end is an offset of 32 bits is a slice. -/
theorem Source.textOf?_of_fits {start length : Int} (hstart : 0 ≤ start) (hlength : 0 ≤ length)
    (hfits : start + length < 2147483648) :
    s.textOf? ⟨start, length⟩ = s.slice? start (start + length) := by
  have hstop : Span.stop ⟨start, length⟩ = start + length :=
    wrap32_of_nonneg_of_lt (Int.add_nonneg hstart hlength) hfits
  have hset : Span.isSet ⟨start, length⟩ = true := decide_eq_true hstart
  rw [Source.textOf?, if_pos hset, hstop]

/-- The first occurrence of a word ends inside the bytes searched. -/
theorem add_length_le_of_firstOccurrence? {bytes : List UInt8} {skip : Nat}
    (h : firstOccurrence? word bytes = some skip) : skip + word.length ≤ bytes.length := by
  induction bytes generalizing skip with
  | nil =>
    unfold firstOccurrence? at h
    split at h
    · next hempty =>
      cases h
      rw [List.isEmpty_iff.1 hempty]
      exact Nat.le_refl _
    · cases h
  | cons b rest ih =>
    unfold firstOccurrence? at h
    split at h
    · next hprefix =>
      cases h
      have := (List.isPrefixOf_iff_prefix.1 hprefix).length_le
      omega
    · obtain ⟨k, hk, rfl⟩ := Option.map_eq_some_iff.1 h
      have := ih hk
      simp only [List.length_cons]
      omega

/-- The first occurrence of a word spells it. -/
theorem prefix_of_firstOccurrence? {bytes : List UInt8} {skip : Nat}
    (h : firstOccurrence? word bytes = some skip) : word <+: bytes.drop skip := by
  induction bytes generalizing skip with
  | nil =>
    unfold firstOccurrence? at h
    split at h
    · next hempty => exact List.isEmpty_iff.1 hempty ▸ List.nil_prefix
    · cases h
  | cons b rest ih =>
    unfold firstOccurrence? at h
    split at h
    · next hprefix =>
      cases h
      exact List.isPrefixOf_iff_prefix.1 hprefix
    · obtain ⟨k, hk, rfl⟩ := Option.map_eq_some_iff.1 h
      exact ih hk

/-- What an accepted occurrence is clear of. -/
theorem Word.not_meets_of_accepts {hit : Nat} (h : Word.accepts s word excluded hit = true)
    {e : Stretch} (he : e ∈ excluded) : e.meets ⟨hit, hit + word.length⟩ = false := by
  unfold Word.accepts at h
  simp only [Bool.and_eq_true, Bool.not_eq_true'] at h
  have hnone := List.any_eq_false.1 h.2 e he
  simpa using hnone

theorem Word.searchFrom_eq_some {stop start hit : Nat}
    (h : Word.searchFrom s word excluded stop start = some hit) :
    start ≤ hit ∧ hit + word.length ≤ stop ∧ Word.accepts s word excluded hit = true ∧
      word <+: s.bytes.drop hit := by
  -- a rejected occurrence starts the search over behind itself, so the start only grows
  induction start using Word.searchFrom.induct s word excluded stop with
  | case1 start hlt hbound hnone =>
    rw [Word.searchFrom, dif_pos hlt, if_pos hbound, hnone] at h
    cases h
  | case2 start hlt hbound skip hskip haccepts =>
    rw [Word.searchFrom, dif_pos hlt, if_pos hbound, hskip] at h
    simp only [haccepts, if_true] at h
    cases h
    have hin := add_length_le_of_firstOccurrence? hskip
    have hwindow : (s.bytesBetween start stop).length ≤ stop - start := by
      unfold Source.bytesBetween
      rw [List.length_take]
      omega
    refine ⟨by omega, by omega, haccepts, ?_⟩
    -- the window only cuts the text behind the occurrence
    have hspelled := prefix_of_firstOccurrence? hskip
    rw [Source.bytesBetween, List.drop_take, List.drop_drop] at hspelled
    exact hspelled.trans (List.take_prefix _ _)
  | case3 start hlt hbound skip hskip haccepts ih =>
    rw [Word.searchFrom, dif_pos hlt, if_pos hbound, hskip] at h
    simp only [haccepts, Bool.false_eq_true, if_false] at h
    obtain ⟨hle, hrest⟩ := ih h
    exact ⟨by omega, hrest⟩
  | case4 start hlt hbound =>
    rw [Word.searchFrom, dif_pos hlt, if_neg hbound] at h
    cases h
  | case5 start hge =>
    rw [Word.searchFrom, dif_neg hge] at h
    cases h

theorem length_utf8 (word : String) : (utf8 word.toList).length = word.utf8ByteSize := by
  rw [← String.size_toByteArray, ← String.utf8Encode_toList]
  exact List.size_toByteArray.symm

/-- A word is found where the search from the start of the window ends. -/
theorem findWord_of_ne {word : String} {start stop : Int} (hne : word ≠ "") (hstart : 0 ≤ start) :
    findWord s word start stop excluded =
      (Word.searchFrom s (utf8 word.toList) excluded (min stop.toNat s.size) start.toNat).map
        Nat.cast := by
  have hsearch : ¬ (word.isEmpty = true ∨ start < 0) := by
    rw [String.isEmpty_iff, not_or]
    exact ⟨hne, by omega⟩
  unfold findWord
  rw [if_neg hsearch]
  cases Word.searchFrom s (utf8 word.toList) excluded (min stop.toNat s.size) start.toNat with
  | none => rfl
  | some n => rfl

theorem findWord_eq_some_iff {word : String} {start stop hit : Int} :
    findWord s word start stop excluded = some hit ↔ word ≠ "" ∧ 0 ≤ start ∧ ∃ n : Nat,
      Word.searchFrom s (utf8 word.toList) excluded (min stop.toNat s.size) start.toNat = some n ∧
        (n : Int) = hit := by
  by_cases hsearch : word.isEmpty = true ∨ start < 0
  · refine iff_of_false (fun h => ?_) fun ⟨hne, hstart, _⟩ => ?_
    · rw [findWord, if_pos hsearch] at h
      cases h
    · exact hsearch.elim (fun hempty => hne (String.isEmpty_iff.1 hempty)) (Int.not_lt.2 hstart)
  · rw [String.isEmpty_iff, not_or, Int.not_lt] at hsearch
    rw [findWord_of_ne hsearch.1 hsearch.2, Option.map_eq_some_iff, and_iff_right hsearch.1,
      and_iff_right hsearch.2]

/-- **A found word lies in its window**, meets no excluded stretch and is
not empty. -/
theorem findWord_eq_some {word : String} {start stop hit : Int}
    (h : findWord s word start stop excluded = some hit) :
    0 ≤ start ∧ start ≤ hit ∧ 0 < word.utf8ByteSize ∧ hit + word.utf8ByteSize ≤ stop ∧
      ∀ e ∈ excluded, e.meets ⟨hit, hit + word.utf8ByteSize⟩ = false := by
  obtain ⟨hne, hstart, n, hn, rfl⟩ := findWord_eq_some_iff.1 h
  obtain ⟨hle, hstop, haccepts, -⟩ := Word.searchFrom_eq_some hn
  rw [length_utf8] at hstop
  have hpos : word.utf8ByteSize ≠ 0 := fun h0 => hne (String.utf8ByteSize_eq_zero_iff.1 h0)
  refine ⟨hstart, by omega, by omega, by omega, fun e he => ?_⟩
  have hclear := Word.not_meets_of_accepts haccepts he
  rwa [length_utf8] at hclear

/-- **The text spells a found word** where it is found. -/
theorem slice?_of_findWord {word : String} {start stop hit : Int}
    (h : findWord s word start stop excluded = some hit) :
    s.slice? hit (hit + word.utf8ByteSize) = some word := by
  obtain ⟨hne, -, n, hn, rfl⟩ := findWord_eq_some_iff.1 h
  obtain ⟨-, -, -, hspelled⟩ := Word.searchFrom_eq_some hn
  rw [s.bytes_eq] at hspelled
  obtain ⟨before, after, hsplit, hlength⟩ := split_of_bytes (by simpa using hne) hspelled
  have hslice := Source.slice?_of_split hsplit
  rwa [hlength, length_utf8, String.ofList_toList] at hslice

end TreeBridge
