import Mathlib.Data.List.Induction
import TreeBridge.Proofs.Conversion.Grouping
import TreeBridge.Unified.Legacy
/-!
# Keywords and their three words of flags

A keyword is spelled in the source, is one flag of a foreign declaration,
and is one flag of the legacy view. Two tables tie the three together by
the spelling of the keyword. A word of foreign flags therefore shows
exactly the keywords that it was put together from, whatever flags that no
keyword spells are in it, and the legacy word is the same for all lists of
the same keywords.
-/

namespace TreeBridge

namespace Conversion

open Unified (Keyword)

/-- The flag of a foreign declaration that a keyword spells. -/
def flagOf (keyword : Keyword) : UInt64 :=
  (Foreign.Flag.ofKeyword? keyword.text).getD 0

/-- The flags that keywords spell, as one word. -/
def wordOf (keywords : List Keyword) : UInt64 :=
  keywords.foldl (fun word keyword => word ||| flagOf keyword) 0

/-- The flags of keywords in the legacy view, as one word. -/
def legacyWord (keywords : List Keyword) : UInt32 :=
  keywords.foldl (fun word keyword => word ||| keyword.flag) 0

/-! ## The tables agree -/

/-- The flags are listed with the spellings of all keywords, in the order
of the keywords. -/
theorem keywords_eq_map :
    Foreign.Flag.keywords = Keyword.all.map (fun keyword => (flagOf keyword, keyword.text)) := by
  decide +kernel

theorem ofText?_text (keyword : Keyword) : Keyword.ofText? keyword.text = some keyword := by
  cases keyword <;> rfl

theorem mem_all (keyword : Keyword) : keyword ∈ Keyword.all := by
  cases keyword <;> decide

theorem nodup_all : Keyword.all.Nodup := by
  decide

/-- A text spells a foreign flag if it spells a keyword, and then the flag
of it. -/
theorem ofKeyword?_eq (text : String) :
    Foreign.Flag.ofKeyword? text = (Keyword.ofText? text).map flagOf := by
  rw [Foreign.Flag.ofKeyword?, keywords_eq_map, List.find?_map, Option.map_map, Keyword.ofText?]
  rfl

/-- The keywords of a word are those whose flags are in it. -/
theorem keywordsOf_eq (word : UInt64) :
    keywordsOf word =
      Keyword.all.filter (fun keyword => Foreign.Flag.isIn (flagOf keyword) word) := by
  have htexts : Foreign.Flag.keywordsIn word = (Keyword.all.filter (fun keyword =>
      Foreign.Flag.isIn (flagOf keyword) word)).map Keyword.text := by
    rw [Foreign.Flag.keywordsIn, keywords_eq_map, List.filter_map, List.map_map]
    rfl
  rw [keywordsOf, htexts, List.filterMap_map]
  refine (List.filterMap_congr fun keyword _ => ?_).trans (List.filterMap_some ..)
  exact ofText?_text keyword

/-! ## What a word shows -/

/-- Different keywords have different flags. -/
theorem isIn_flagOf (k l : Keyword) : Foreign.Flag.isIn (flagOf k) (flagOf l) = decide (k = l) := by
  have hall : ∀ k ∈ Keyword.all, ∀ l ∈ Keyword.all,
      Foreign.Flag.isIn (flagOf k) (flagOf l) = decide (k = l) := by decide +kernel
  exact hall k (mem_all k) l (mem_all l)

theorem isIn_zero (flag : UInt64) : Foreign.Flag.isIn flag 0 = false := by
  simp [Foreign.Flag.isIn]

/-- A word has the flags of the keywords that it was put together from, and
of no other keyword. -/
theorem isIn_wordOf (k : Keyword) (keywords : List Keyword) :
    Foreign.Flag.isIn (flagOf k) (wordOf keywords) = decide (k ∈ keywords) := by
  unfold wordOf
  induction keywords using List.reverseRecOn with
  | nil => rw [List.foldl_nil, isIn_zero, decide_eq_false List.not_mem_nil]
  | append_singleton keywords l ih =>
    rw [List.foldl_append, List.foldl_cons, List.foldl_nil, isIn_or, ih, isIn_flagOf,
      Bool.eq_iff_iff]
    simp

/-- Flags that no keyword spells. -/
def Unspelled (flags : UInt64) : Prop :=
  ∀ keyword, Foreign.Flag.isIn (flagOf keyword) flags = false

theorem unspelled_zero : Unspelled 0 :=
  fun _ => isIn_zero _

/-- **A word shows the keywords it was put together from**, each once, if
nobody spells the other flags in it. -/
theorem keywordsOf_wordOf {added : UInt64} (h : Unspelled added) (keywords : List Keyword) :
    (keywordsOf (wordOf keywords ||| added)).Nodup ∧
      ∀ k, k ∈ keywordsOf (wordOf keywords ||| added) ↔ k ∈ keywords := by
  rw [keywordsOf_eq]
  refine ⟨nodup_all.filter _, fun k => ?_⟩
  rw [List.mem_filter, isIn_or, isIn_wordOf, h k, Bool.or_false, decide_eq_true_iff]
  exact and_iff_right (mem_all k)

/-! ## The legacy word -/

theorem legacyWord_append_singleton (keywords : List Keyword) (k : Keyword) :
    legacyWord (keywords ++ [k]) = legacyWord keywords ||| k.flag := by
  rw [legacyWord, List.foldl_append]
  rfl

/-- The flag of a keyword adds nothing to a word that has it. -/
theorem legacyWord_or_flag {keywords : List Keyword} {k : Keyword} (h : k ∈ keywords) :
    legacyWord keywords ||| k.flag = legacyWord keywords := by
  induction keywords using List.reverseRecOn with
  | nil => exact absurd h List.not_mem_nil
  | append_singleton keywords l ih =>
    rw [legacyWord_append_singleton]
    rcases List.mem_append.1 h with hmem | hlast
    · rw [UInt32.or_assoc, UInt32.or_comm l.flag, ← UInt32.or_assoc, ih hmem]
    · rw [List.mem_singleton.1 hlast, UInt32.or_assoc, UInt32.or_self]

theorem legacyWord_or_of_subset {keywords more : List Keyword} (h : more ⊆ keywords) :
    legacyWord keywords ||| legacyWord more = legacyWord keywords := by
  induction more using List.reverseRecOn with
  | nil => exact UInt32.or_zero
  | append_singleton more k ih =>
    obtain ⟨hmore, hk⟩ := List.append_subset.1 h
    rw [legacyWord_append_singleton, ← UInt32.or_assoc, ih hmore,
      legacyWord_or_flag (hk (List.mem_singleton_self k))]

/-- **The legacy word only depends on which keywords there are**: neither
their order nor how often one is repeated counts. -/
theorem legacyWord_eq_of_mem_iff {keywords more : List Keyword}
    (h : ∀ k, k ∈ keywords ↔ k ∈ more) : legacyWord keywords = legacyWord more := by
  rw [← legacyWord_or_of_subset fun k hk => (h k).2 hk, UInt32.or_comm,
    legacyWord_or_of_subset fun k hk => (h k).1 hk]

end Conversion

/-! ## The modifiers of a shape -/

namespace Foreign

variable {α β : Type}

/-- The modifiers of a declaration of a type, a method or a variable. -/
def Shape.modifiers? : Shape α → Option (Modifiers α)
  | .classDef mods .. | .methodDef mods .. | .varDef mods .. => some mods
  | _ => none

theorem Shape.modifiers?_map (f : α → β) (s : Shape α) :
    (s.map f).modifiers? = s.modifiers?.map (Modifiers.map f) := by
  cases s <;> rfl

end Foreign

end TreeBridge
