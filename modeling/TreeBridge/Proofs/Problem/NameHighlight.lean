import TreeBridge.Problem.Classification
import TreeBridge.Proofs.Problem.ShownTree
import TreeBridge.Proofs.Text.WholeWord
/-!
# Problems that are shown at a name

A problem with a class, a variable, a method or an identifier is shown at
the first occurrence of its name at or after the position of the
diagnostic. The search looks for the text of the name, not for the word:
what it finds spells the name always, but it is a whole word only where no
longer word with the name in it stands in front.
-/

namespace TreeBridge

namespace Problem

open Foreign (Diagnostic Shape Tree)
open Foreign.Tree (Subtree)
open Lowering (DeclaresType Named Sited)
open Word (OccursAt StandsAlone)

variable {file : String} {s : Source} {n : Concrete.Node} {id : Id} {d : Diagnostic}
variable {t : Tree} {name : String}

/-- Whether a class, one of whose members somebody wrote, starts with its
first member. -/
def startsWithMember (t : Tree) : Bool :=
  match t.shape with
  | .classDef _ _ _ _ _ _ _ members =>
    !members.all isGenerated && members.head?.map Tree.start == some t.start
  | _ => false

/-- The name that a problem with a tree is shown at: that of a class which
does not start with its first member, of a method that is not shown up to
the end of its parameters, of a variable or of an identifier. -/
def soughtName? (s : Source) (id : Id) (d : Diagnostic) (t : Tree) : Option String :=
  match t.shape with
  | .classDef _ name _ _ _ _ _ _ =>
    if d.position ≠ -1 ∧ startsWithMember t = false then some name else none
  | .methodDef _ name _ _ _ _ _ _ _ =>
    if showsParameters id = true ∧ closing? s d ≠ none then none else some name
  | .varDef _ name _ _ _ => some name
  | .ident name => some name
  | _ => none

/-- A problem with a class is shown at its name, unless the class starts
with its first member. -/
theorem elementSpan_classDef {scene : Scene} {mods : Foreign.Modifiers Tree}
    {kind : Foreign.ClassKind} {typeParameters implementing permitting members : List Tree}
    {extending : Option Tree} (hshape : t.shape =
      .classDef mods name kind typeParameters extending implementing permitting members) :
    elementSpan scene id d t =
      if d.position ≠ -1 ∧ startsWithMember t = false then nameSpan scene.source name d
      else ownSpan d := by
  rw [elementSpan, startsWithMember, hshape]
  dsimp only
  rw [classSpan]
  congr 1
  simp [bne, imp_iff_not_or]

theorem elementSpan_of_soughtName? {scene : Scene}
    (h : soughtName? scene.source id d t = some name) :
    elementSpan scene id d t = nameSpan scene.source name d := by
  unfold soughtName? at h
  cases hshape : t.shape with
  | classDef mods own kind typeParameters extending implementing permitting members =>
    rw [hshape] at h
    obtain ⟨hsought, hown⟩ := Option.ite_none_right_eq_some.1 h
    obtain rfl := Option.some.inj hown
    rw [elementSpan_classDef hshape, if_pos hsought]
  | methodDef mods own typeParameters returnType parameters dims thrown body defaultValue =>
    rw [hshape] at h
    obtain ⟨hrange, hown⟩ := Option.ite_none_left_eq_some.1 h
    obtain rfl := Option.some.inj hown
    rw [elementSpan, hshape]
    dsimp only
    unfold methodSpan
    split
    · next hshows hclosing => exact absurd ⟨hshows, by simp [hclosing]⟩ hrange
    · rfl
  | varDef mods own type dims value =>
    rw [hshape] at h
    obtain rfl := Option.some.inj h
    rw [elementSpan, hshape]
  | ident own =>
    rw [hshape] at h
    obtain rfl := Option.some.inj h
    rw [elementSpan, hshape]
  | _ =>
    rw [hshape] at h
    cases h

/-! ## The name of a tree in the source -/

/-- A node of the concrete tree spells the name of a tree: the one that a
variable, a method or an identifier points at, or the one right below the
declaration of a type. -/
structure SpelledBy (s : Source) (n : Concrete.Node) (t : Tree) (name : String)
    (m : Concrete.Node) : Prop where
  text : m.text s = name
  place : t.position = m.start ∨ ∃ k : Concrete.Node, k.Within n ∧ DeclaresType s k m name t

/-- **Every name that is looked for stands in the source**, unless the
tree has no position or is a constructor. -/
theorem exists_spelledBy (ht : Sited s n t) (h : soughtName? s id d t = some name)
    (hname : name ≠ "") (hmethod : name ≠ "<init>") (hplaced : t.position ≠ -1) :
    ∃ m, SpelledBy s n t name m := by
  have hpointed (hnamed : Named s n name t) : ∃ m, SpelledBy s n t name m := by
    obtain ⟨m, -, htext, hposition⟩ := hnamed.resolve_left hname
    exact ⟨m, htext, .inl hposition⟩
  unfold Sited at ht
  unfold soughtName? at h
  cases hshape : t.shape with
  | classDef mods own kind typeParameters extending implementing permitting members =>
    rw [hshape] at h ht
    obtain rfl := Option.some.inj (Option.ite_none_right_eq_some.1 h).2
    obtain ⟨k, m, hk, hdeclares⟩ := ht.resolve_left hname
    exact ⟨m, hdeclares.name, .inr ⟨k, hk, hdeclares⟩⟩
  | methodDef mods own typeParameters returnType parameters dims thrown body defaultValue =>
    rw [hshape] at h ht
    obtain rfl := Option.some.inj (Option.ite_none_left_eq_some.1 h).2
    exact hpointed (ht.resolve_left hmethod)
  | varDef mods own type dims value =>
    rw [hshape] at h ht
    obtain rfl := Option.some.inj h
    exact hpointed ht
  | ident own =>
    rw [hshape] at h ht
    obtain rfl := Option.some.inj h
    exact hpointed (ht.resolve_left hplaced)
  | _ =>
    rw [hshape] at h
    cases h

theorem SpelledBy.occursAt {m : Concrete.Node} (h : SpelledBy s n t name m) (hname : name ≠ "")
    {start : Int} (hstart : start ≤ m.start) : OccursAt s name start s.size m.start := by
  obtain ⟨hstop, hsize⟩ := Concrete.Node.bounds_of_text h.text hname
  exact ⟨hstart, by omega, Concrete.Node.slice?_start_of_text h.text hname⟩

/-! ## What is found -/

/-- What a problem is shown at by a name: the first place where the name
is found, or what the diagnostic gives. -/
theorem nameSpan_eq_iff (hname : name ≠ "") (hsize : name.utf8ByteSize < 2147483648)
    {start : Int} : nameSpan s name d = ⟨start, name.utf8ByteSize⟩ ↔
      s.find? (utf8 name.toList) d.position = some start ∨
        s.find? (utf8 name.toList) d.position = none ∧
          ownSpan d = ⟨start, name.utf8ByteSize⟩ := by
  have hwrap : wrap32 name.utf8ByteSize = name.utf8ByteSize :=
    wrap32_of_nonneg_of_lt (Int.natCast_nonneg _) (by omega)
  unfold nameSpan
  rw [if_neg (by simpa using hname)]
  cases s.find? (utf8 name.toList) d.position with
  | none => simp
  | some hit => simp [hwrap]

/-- **The highlight of a name** is the first occurrence of it from the
position of the diagnostic on. It stands alone exactly if an occurrence
that stands alone comes before all others, which is where the search for
the whole word comes too; and it is the name of the tree exactly if no
occurrence comes before that. -/
theorem highlight_name (hshown : ShownAt (.ofSource file s n) id d t)
    (ht : Subtree t (parse s n).root) (hsought : soughtName? s id d t = some name)
    (hname : name ≠ "") (hfound : (s.find? (utf8 name.toList) d.position).isSome = true)
    (hsize : s.size < 2147483648) :
    ∃ hit : Int, highlight (.ofSource file s n) id d = ⟨hit, name.utf8ByteSize⟩ ∧
      s.textOf? ⟨hit, name.utf8ByteSize⟩ = some name ∧
      (StandsAlone s name hit ↔ ∃ w, OccursAt s name d.position s.size w ∧ StandsAlone s name w ∧
        ∀ h, OccursAt s name d.position s.size h → ¬ StandsAlone s name h → w < h) ∧
      (Word.isPunctuated (utf8 name.toList) = false →
        (StandsAlone s name hit ↔ findWord s name d.position s.size [] = some hit)) ∧
      (name ≠ "<init>" → t.position ≠ -1 → ∃ m, SpelledBy s n t name m ∧
        (d.position ≤ m.start → (hit = m.start ↔
          ∀ h, OccursAt s name d.position s.size h → (m.start : Int) ≤ h))) := by
  obtain ⟨hit, hhit⟩ := Option.isSome_iff_exists.1 hfound
  obtain ⟨hposition, hbound, hleast⟩ := (Word.find?_eq_some_iff hname).1 hhit
  have hin := hleast.1.le_stop
  have hle := hleast.1.start_le
  have hspan : highlight (.ofSource file s n) id d = ⟨hit, name.utf8ByteSize⟩ := by
    rw [hshown.highlight_eq, elementSpan_of_soughtName? hsought]
    exact (nameSpan_eq_iff hname (by omega)).2 (.inl hhit)
  refine ⟨hit, hspan, ?_, ?_, fun hplain => Word.standsAlone_iff_findWord hname hplain hhit, ?_⟩
  · rw [Source.textOf?_of_fits (by omega) (by omega) (by omega)]
    exact hleast.1.spelled
  · constructor
    · intro halone
      refine ⟨hit, hleast.1, halone, fun h hh hother => lt_of_le_of_ne (hleast.2 hh) ?_⟩
      rintro rfl
      exact hother halone
    · rintro ⟨w, hw, -, hfirst⟩
      by_contra hother
      exact Int.not_lt.2 (hleast.2 hw) (hfirst hit hleast.1 hother)
  · intro hmethod hplaced
    obtain ⟨m, hm⟩ := exists_spelledBy (Lowering.sited_lower s n t ht) hsought hname hmethod hplaced
    refine ⟨m, hm, fun hbefore => ?_⟩
    constructor
    · rintro rfl
      exact fun h hh => hleast.2 hh
    · intro hfirst
      exact Int.le_antisymm (hleast.2 (hm.occursAt hname hbefore)) (hfirst hit hleast.1)

/-- A class whose name is a letter of its modifiers, one of which is
repeated. -/
def letterSource : Source :=
  .ofString "public public class p \x7b \x7d"

/-- The concrete tree of the class. -/
def letterUnit : Concrete.Node :=
  .mk (.token "program") none true false false 0 25 [
    .mk .classDeclaration none true false false 0 25 [
      .mk .modifiers none true false false 0 13 [
        .mk (.token "public") none false false false 0 6 [],
        .mk (.token "public") none false false false 7 13 []],
      .mk (.token "class") none false false false 14 19 [],
      .mk .identifier (some .name) true false false 20 21 [],
      .mk .classBody (some .body) true false false 22 25 [
        .mk (.token "\x7b") none false false false 22 23 [],
        .mk (.token "\x7d") none false false false 24 25 []]]]

/-- The scene of the class. -/
def letterScene : Scene :=
  .ofSource "p.java" letterSource letterUnit

/-- The report on the repeated modifier is shown at the first letter of
that modifier, as if it were the name of the class. -/
theorem highlight_letter :
    (Lowering.lower letterSource letterUnit).2.reports.map (fun d =>
        (d.tree, classify letterScene d, highlight letterScene (classify letterScene d) d)) =
      [(some 0, .duplicateModifierForArgument, ⟨7, 1⟩)] ∧
    (parse letterSource letterUnit).root.children.map (fun t => (t.id, t.tag)) =
      [(0, .classDef)] ∧
    letterSource.textOf? ⟨7, 1⟩ = some "p" ∧ ¬ StandsAlone letterSource "p" 7 := by
  have halone : ¬ StandsAlone letterSource "p" 7 := by
    rintro ⟨-, hbehind⟩
    exact hbehind ⟨by decide, by decide +kernel⟩
  exact ⟨by decide +kernel, by decide +kernel, by decide +kernel, halone⟩

/-- The report on the repeated modifier. -/
def letterReport : Diagnostic :=
  (Diagnostic.errorAt "compiler.err.repeated.modifier" "repeated modifier" 7 13).aboutTree 0

theorem highlight_name_letter :
    ∃ t, (parse letterSource letterUnit).root.children = [t] ∧
      ∃ hit : Int, highlight letterScene .duplicateModifierForArgument letterReport = ⟨hit, 1⟩ ∧
        letterSource.textOf? ⟨hit, 1⟩ = some "p" ∧
        (StandsAlone letterSource "p" hit ↔ findWord letterSource "p" 7 25 [] = some hit) := by
  have hshape : (parse letterSource letterUnit).root.children.map (fun t =>
      (t.id, soughtName? letterSource .duplicateModifierForArgument letterReport t)) =
        [(0, some "p")] := by decide +kernel
  obtain ⟨t, hroot, ht⟩ := List.map_eq_singleton_iff.1 hshape
  obtain ⟨hid, hsought⟩ := Prod.mk.inj ht
  have hsub : Subtree t (parse letterSource letterUnit).root :=
    .of_mem (hroot ▸ List.mem_singleton_self t)
  have hshown : ShownAt letterScene .duplicateModifierForArgument letterReport t :=
    shownAt_of_subtree rfl (by decide +kernel) hsub (hid ▸ rfl)
  obtain ⟨hit, hspan, htext, -, hword, -⟩ := highlight_name hshown hsub hsought (by decide)
    (by decide +kernel) (by decide +kernel)
  exact ⟨t, hroot, hit, hspan, htext, hword (by decide +kernel)⟩

end Problem

end TreeBridge
