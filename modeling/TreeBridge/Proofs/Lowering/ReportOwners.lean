import TreeBridge.Proofs.Lowering.Composition.Unit
/-!
# The trees that reports are about

A report knows its tree by its id alone, and a tree may be dropped after
it is made. So what a composed step does to reports is told with the marks
of all trees that have been made, by their ids (`Records`): a later step
adds marks and changes none. A report of a lowering is about a declaration
or about the malformed text that it is on, and about no other tree
(`owns_lower`).
-/

namespace TreeBridge

namespace Lowering

open Concrete (Node)
open Foreign (Diagnostic)
open Foreign.Tree (Subtree)
open Bears (trees)

/-- What is remembered of a tree that has been made. -/
structure Mark where
  declares : Bool
  malformed : Bool
  position : Int

/-- The mark of a tree. -/
def markOf (t : Foreign.Tree) : Mark :=
  ⟨isDeclaration t, isMalformed t, t.position⟩

/-- The mark of a tree that a report may be about: that of a declaration,
or of malformed text that starts where the report does. -/
def Mark.Owns (k : Mark) (d : Diagnostic) : Prop :=
  k.declares = true ∨ k.malformed = true ∧ k.position = d.start

/-- The mark of a tree stands among marks at the id of the tree. -/
def Entered (made : List Mark) (t : Foreign.Tree) : Prop :=
  made[t.id]? = some (markOf t)

/-- The marks of all trees that have been made, by their ids; every report
about a tree is about one that may own it. -/
structure Records (made : List Mark) (σ : State) : Prop where
  length_eq : made.length = σ.next
  owned : ∀ d ∈ σ.reports, ∀ i, d.tree = some i → ∃ k, made[i]? = some k ∧ k.Owns d

variable {made more : List Mark} {σ : State} {t : Foreign.Tree} {d : Diagnostic}

theorem Entered.append (h : Entered made t) (more : List Mark) : Entered (made ++ more) t := by
  obtain ⟨hlt, -⟩ := List.getElem?_eq_some_iff.1 h
  exact (List.getElem?_append_left hlt).trans h

theorem flagless_entered (made : List Mark) : Flagless (Entered made) := by
  rintro ⟨id, start, position, stop, shape⟩ flags h
  cases shape <;> exact h

namespace Records

/-- A new tree is entered under the next id. -/
theorem make (h : Records made σ) (k : Mark) :
    Records (made ++ [k]) { σ with next := σ.next + 1 } where
  length_eq := by rw [List.length_append, h.length_eq, List.length_singleton]
  owned d hd i hi := by
    obtain ⟨k, hk, howns⟩ := h.owned d hd i hi
    obtain ⟨hlt, -⟩ := List.getElem?_eq_some_iff.1 hk
    exact ⟨k, (List.getElem?_append_left hlt).trans hk, howns⟩

/-- A report about a tree that may own it, or about none, may be added. -/
theorem report (h : Records made σ)
    (hd : ∀ i, d.tree = some i → ∃ k, made[i]? = some k ∧ k.Owns d) :
    Records made (Lowering.report d σ).2 where
  length_eq := h.length_eq
  owned e he := by
    rcases List.mem_append.1 he with hold | hnew
    · exact h.owned e hold
    · obtain rfl := List.mem_singleton.1 hnew
      exact hd

/-- A declaration may own any report that waits. -/
theorem settle (h : Records made σ) (ht : Entered made t) (hdeclares : isDeclaration t = true) :
    Records made (Lowering.settle t.id σ).2 where
  length_eq := h.length_eq
  owned e he i hi := by
    rcases mem_reports_settle he with hold | ⟨e, -, rfl⟩
    · exact h.owned e hold i hi
    · obtain rfl := Option.some.inj hi
      exact ⟨markOf t, ht, .inl hdeclares⟩

/-- A step that makes no tree adds no mark. -/
theorem exists_more (h : Records made σ) {ts : List Foreign.Tree}
    (hts : ∀ t ∈ ts, t.Everywhere (Entered made)) :
    ∃ more, Records (made ++ more) σ ∧ ∀ t ∈ ts, t.Everywhere (Entered (made ++ more)) :=
  ⟨[], by rwa [List.append_nil], by rwa [List.append_nil]⟩

end Records

/-- **The marks of all trees.** A composed step adds the marks of the
trees that it makes, and what it yields is entered with all trees below. -/
theorem Composed.records {G : Guarantee} {α : Type} [Bears α] {held : List Foreign.Tree}
    {m : Build α} (h : Composed G held m) (hσ : Records made σ)
    (hheld : ∀ t ∈ held, t.Everywhere (Entered made)) :
    ∃ more, Records (made ++ more) (m σ).2 ∧
      ∀ t ∈ trees (m σ).1, t.Everywhere (Entered (made ++ more)) := by
  have hflags := fun made => (flagless_entered made).everywhere
  induction h generalizing σ made with
  | pure h => exact hσ.exists_more (h.forall_mem (hflags made) hheld)
  | get => exact hσ.exists_more fun _ ht => absurd ht List.not_mem_nil
  | @make held start position stop shape h _ =>
    have hchildren := h.forall_mem (hflags made) hheld
    refine ⟨[markOf (Lowering.make start position stop shape σ).1], hσ.make _, fun t ht => ?_⟩
    obtain rfl := List.mem_singleton.1 ht
    refine .of_children ?_ fun c hc u hu => (hchildren c hc u hu).append _
    -- the next id is the number of marks, so the new mark stands at the id of the tree
    have hid : (Lowering.make start position stop shape σ).1.id = made.length :=
      hσ.length_eq.symm
    rw [Entered, hid]
    exact List.getElem?_concat_length
  | @report held t d h _ hmalformed =>
    have ht := h.forall_mem (hflags made) hheld
    have hentered := (ht t List.mem_cons_self).self
    refine Records.exists_more (hσ.report fun i hi => ?_) ht
    obtain rfl := Option.some.inj hi
    exact ⟨markOf t, hentered, .inr ⟨hmalformed.malformed, hmalformed.position⟩⟩
  | @reportUnsettled held d _ hnone =>
    have hadded := hσ.report (d := d) fun i hi => absurd (hnone.symm.trans hi) (by simp)
    have hrecords : Records made (Lowering.reportUnsettled d σ).2 := ⟨hσ.length_eq, hadded.owned⟩
    exact hrecords.exists_more fun _ ht => absurd ht List.not_mem_nil
  | @settle held t h hdeclares =>
    have ht := h.forall_mem (hflags made) hheld
    have hentered := (ht t List.mem_cons_self).self
    exact Records.exists_more (hσ.settle hentered hdeclares) ht
  | retract count =>
    have hrecords : Records made (Lowering.retract count σ).2 :=
      ⟨hσ.length_eq, fun d hd => hσ.owned d (List.mem_of_mem_take hd)⟩
    exact hrecords.exists_more fun _ ht => absurd ht List.not_mem_nil
  | @bind _ _ _ _ kept spent held m f hspends _ _ ihm ihf =>
    have hall := hspends.forall_mem (hflags made) hheld
    -- what is kept has been entered before the first step, which changes no mark
    obtain ⟨more, hm, hyields⟩ := ihm hσ fun t ht => hall t (List.mem_append_right kept ht)
    obtain ⟨further, hf, hyields'⟩ := ihf σ hm fun t ht => by
      rcases List.mem_append.1 ht with hkept | hnew
      · exact fun u hu => (hall t (List.mem_append_left _ hkept) u hu).append more
      · exact hyields t hnew
    rw [List.append_assoc] at hf hyields'
    exact ⟨more ++ further, hf, hyields'⟩

/-- **What the reports of a lowering are about.** A tree that a report is
about is that of a declaration, or that of malformed text that starts where
the report does. -/
theorem owns_lower {s : Source} {n : Node} (hd : d ∈ (lower s n).2.reports)
    (ht : Subtree t (lower s n).1) (htree : d.tree = some t.id) :
    isDeclaration t = true ∨ MalformedAt d.start t := by
  have hinitial : Records [] .initial := ⟨rfl, fun _ hd => absurd hd List.not_mem_nil⟩
  obtain ⟨made, hrecords, hentered⟩ := (composed_lower s n).records hinitial
    fun _ ht => absurd ht List.not_mem_nil
  have hmark : made[t.id]? = some (markOf t) := hentered _ List.mem_cons_self t ht
  obtain ⟨k, hk, howns⟩ := hrecords.owned d hd t.id htree
  obtain rfl := Option.some.inj (hmark.symm.trans hk)
  exact howns.imp_right fun ⟨hmalformed, hposition⟩ => ⟨hmalformed, hposition⟩

end Lowering

end TreeBridge
