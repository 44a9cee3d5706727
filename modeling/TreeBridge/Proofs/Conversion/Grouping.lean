import Mathlib.Data.List.Forall2
import TreeBridge.Conversion.Member
import TreeBridge.Proofs.Foreign.Subtree
/-!
# Grouping gives the declarations back

A list of trees is laid out from declarations when every declaration
stands in it as a run of variables that share its start, one for each
name, and nothing else in it is a variable. When the declarations start
one after the other, grouping such a list finds exactly them: a run never
falls apart, for its variables share a known start, and two runs never
grow together, for their starts differ.
-/

namespace TreeBridge

namespace Conversion

open Foreign (Tree Shape ClassKind)
open Foreign.Tree (Part Parts)

/-- A declaration of variables: where it starts and what it names. -/
structure Joint where
  start : Int
  names : List String

/-- Flags without those of an enum constant and a record component. -/
def Plain (flags : UInt64) : Prop :=
  Foreign.Flag.isIn Foreign.Flag.enumType flags = false ∧
    Foreign.Flag.isIn Foreign.Flag.recordType flags = false

theorem plain_zero : Plain 0 :=
  ⟨rfl, rfl⟩

/-- A tree is a variable with a name and a start, declared by itself. -/
def Spells (start : Int) (v : Tree) (name : String) : Prop :=
  v.start = start ∧ ∃ w, asVariable? v.shape = some w ∧ w.name = name ∧ Plain w.mods.flags

/-- A list of trees that is laid out from declarations: one run of
variables for each, among trees that are no variables. -/
inductive Laid : List Joint → List Tree → Prop
  | nil : Laid [] []
  | other {t : Tree} {js : List Joint} {ts : List Tree} :
      asVariable? t.shape = none → Laid js ts → Laid js (t :: ts)
  | declared {j : Joint} {vs : List Tree} {js : List Joint} {ts : List Tree} :
      j.names ≠ [] → List.Forall₂ (Spells j.start) vs j.names → Laid js ts →
      Laid (j :: js) (vs ++ ts)

namespace Laid

variable {js ks : List Joint} {ts us : List Tree}

theorem append (h : Laid js ts) (h' : Laid ks us) : Laid (js ++ ks) (ts ++ us) := by
  induction h with
  | nil => exact h'
  | other ht _ ih => exact other ht ih
  | declared hne hvs _ ih =>
    rw [List.append_assoc]
    exact declared hne hvs ih

theorem single {t : Tree} (ht : asVariable? t.shape = none) : Laid [] [t] :=
  other ht nil

/-- One declaration alone. -/
theorem one {j : Joint} {vs : List Tree} (hne : j.names ≠ [])
    (hvs : List.Forall₂ (Spells j.start) vs j.names) : Laid [j] vs := by
  have h := declared hne hvs nil
  rwa [List.append_nil] at h

end Laid

variable {t : Tree}

theorem asVariable?_map {α β : Type} (f : α → β) (shape : Shape α) :
    asVariable? (shape.map f) = (asVariable? shape).map (fun v =>
      ⟨v.mods.map f, v.name, v.type.map f, v.dims, v.value.map f⟩) := by
  cases shape <;> rfl

/-- A part is a variable when its tree is one. -/
theorem asVariable?_shape (p : Part t) :
    asVariable? p.1.shape = (asVariable? p.parts).map (fun v =>
      ⟨v.mods.map Subtype.val, v.name, v.type.map Subtype.val, v.dims,
        v.value.map Subtype.val⟩) := by
  rw [← Foreign.Tree.Part.map_val_parts, asVariable?_map]

theorem asVariable?_parts_eq_none (h : asVariable? t.shape = none) :
    asVariable? t.parts = none := by
  rw [← Foreign.Tree.map_val_parts, asVariable?_map, Option.map_eq_none_iff] at h
  exact h

theorem declared?_eq_none {p : Part t} (h : asVariable? p.1.shape = none) :
    declared? p = none := by
  rw [asVariable?_shape, Option.map_eq_none_iff] at h
  rw [declared?, h]
  rfl

/-- The variable that a part is has the tree, the name and the flags of
the part. -/
theorem exists_declared? {p : Part t} {w : Variable Tree} (h : asVariable? p.1.shape = some w) :
    ∃ v, declared? p = some v ∧ v.tree = p.1 ∧ v.parts.name = w.name ∧
      v.parts.mods.flags = w.mods.flags := by
  rw [asVariable?_shape] at h
  obtain ⟨v, hv, rfl⟩ := Option.map_eq_some_iff.1 h
  refine ⟨⟨p.1, v⟩, ?_, rfl, rfl, rfl⟩
  rw [declared?, hv]
  rfl

/-- Groups that are declarations, one by one, among groups of one other
tree. -/
inductive Grouped : List Joint → List (Group t) → Prop
  | nil : Grouped [] []
  | single {p : Part t} {js : List Joint} {gs : List (Group t)} :
      asVariable? p.1.shape = none → Grouped js gs → Grouped js (.single p :: gs)
  | together {j : Joint} {first : Declared t} {more : List (Declared t)} {js : List Joint}
      {gs : List (Group t)} :
      first.tree.start = j.start → (first :: more).map (fun v => v.parts.name) = j.names →
      Grouped js gs → Grouped (j :: js) (.together first more :: gs)

/-- Groups of which the first, if it is of variables, starts elsewhere. -/
def Apart (start : Int) (gs : List (Group t)) : Prop :=
  ∀ first more rest, gs = .together first more :: rest → first.tree.start ≠ start

/-- Declarations that start later stand apart. -/
theorem Grouped.apart {js : List Joint} {gs : List (Group t)} (h : Grouped js gs) {start : Int}
    (hlt : ∀ j ∈ js, start < j.start) : Apart start gs := by
  intro first more rest hgs
  subst hgs
  cases h with
  | together hstart _ _ =>
    have hgt := hlt _ List.mem_cons_self
    omega

/-- A run of variables before groups that stand apart is one group. -/
theorem groups_run {start : Int} (hstart : 0 ≤ start) {qs ps : Parts t}
    (hps : Apart start (groups ps)) :
    ∀ {names : List String}, names ≠ [] →
      List.Forall₂ (Spells start) (qs.map Subtype.val) names →
      ∃ first more, groups (qs ++ ps) = .together first more :: groups ps ∧
        first.tree.start = start ∧ (first :: more).map (fun v => v.parts.name) = names := by
  induction qs with
  | nil =>
    intro names hne h
    rw [List.map_nil, List.forall₂_nil_left_iff] at h
    exact absurd h hne
  | cons q qs ih =>
    intro names _ h
    rw [List.map_cons, List.forall₂_cons_left_iff] at h
    obtain ⟨name, names, ⟨hq, w, hw, rfl, -⟩, hrest, rfl⟩ := h
    obtain ⟨v, hv, htree, hname, -⟩ := exists_declared? hw
    have hvstart : v.tree.start = start := by rw [htree, hq]
    have hstep : groups (q :: qs ++ ps) = consVariable v (groups (qs ++ ps)) := by
      rw [List.cons_append, groups, hv]
    rw [hstep]
    cases qs with
    | nil =>
      -- the last variable of the run does not join what follows
      obtain rfl : names = [] := by simpa using hrest
      refine ⟨v, [], ?_, hvstart, by simp [hname]⟩
      rw [List.nil_append]
      unfold consVariable
      split
      · next first more rest hgs =>
        have hne : first.tree.start ≠ start := hps first more rest hgs
        have hjoins : joins v first = false := by
          simp [joins, hvstart, Ne.symm hne]
        rw [hjoins, hgs, if_neg Bool.false_ne_true]
      · rfl
    | cons q' qs =>
      have hnames : names ≠ [] := by
        rintro rfl
        simp at hrest
      obtain ⟨first, more, hgs, hfirst, hmap⟩ := ih hnames hrest
      have hjoins : joins v first = true := by
        simp [joins, hvstart, hfirst, hstart]
      refine ⟨v, first :: more, ?_, hvstart, ?_⟩
      · rw [hgs, consVariable, if_pos hjoins]
      · rw [List.map_cons, hmap, hname]

/-- Declarations that start at known places, one after the other. -/
structure Ascending (js : List Joint) : Prop where
  known : ∀ j ∈ js, 0 ≤ j.start
  pairwise : js.Pairwise (fun j k => j.start < k.start)

theorem Ascending.tail {j : Joint} {js : List Joint} (h : Ascending (j :: js)) : Ascending js :=
  ⟨fun k hk => h.known k (List.mem_cons_of_mem j hk), (List.pairwise_cons.1 h.pairwise).2⟩

/-- **Grouping a list that is laid out from declarations** that start one
after the other gives the declarations back. -/
theorem grouped_groups {js : List Joint} {ts : List Tree} (h : Laid js ts) (ha : Ascending js) :
    ∀ ps : Parts t, ps.map Subtype.val = ts → Grouped js (groups ps) := by
  induction h with
  | nil =>
    intro ps hps
    obtain rfl := List.map_eq_nil_iff.1 hps
    exact Grouped.nil
  | @other u js ts hu _ ih =>
    intro ps hps
    obtain ⟨p, ps, rfl, rfl, rfl⟩ := List.map_eq_cons_iff.1 hps
    rw [groups, declared?_eq_none hu]
    exact Grouped.single hu (ih ha ps rfl)
  | @declared j vs js ts hne hvs _ ih =>
    intro ps hps
    obtain ⟨qs, ps, rfl, rfl, rfl⟩ := List.map_eq_append_iff.1 hps
    have hrest : Grouped js (groups ps) := ih ha.tail ps rfl
    have hlater : ∀ k ∈ js, j.start < k.start := (List.pairwise_cons.1 ha.pairwise).1
    obtain ⟨first, more, hgs, hstart, hnames⟩ :=
      groups_run (ha.known j List.mem_cons_self) (hrest.apart hlater) hne hvs
    rw [hgs]
    exact Grouped.together hstart hnames hrest

/-! ## Constants and components

The constants of an enum and the components of a record are variables,
too; their flags take them out before the members are grouped. -/

/-- The flags of a variable; none of any other tree. -/
def flagsOf (u : Tree) : UInt64 :=
  ((asVariable? u.shape).map (fun v => v.mods.flags)).getD 0

/-- Whether a tree is a constant of an enum or a component of a record. -/
def isHead (classKind : ClassKind) (u : Tree) : Bool :=
  classKind == .enumType && Foreign.Flag.isIn Foreign.Flag.enumType (flagsOf u) ||
    classKind == .recordType && Foreign.Flag.isIn Foreign.Flag.recordType (flagsOf u)

theorem variableFlags_eq (p : Part t) : variableFlags p = flagsOf p.1 := by
  rw [flagsOf, asVariable?_shape, variableFlags, declared?]
  cases asVariable? p.parts <;> rfl

/-- The members that are no constants and no components, as trees. -/
theorem map_val_bodyMembers (classKind : ClassKind) (ps : Parts t) :
    (bodyMembers classKind ps).map Subtype.val =
      (ps.map Subtype.val).filter (fun u => !isHead classKind u) := by
  rw [List.filter_map, bodyMembers]
  congr 1
  refine List.filter_congr fun p _ => ?_
  simp [isEnumConstant, isComponent, isHead, variableFlags_eq]

theorem isIn_or (flag a b : UInt64) :
    Foreign.Flag.isIn flag (a ||| b) =
      (Foreign.Flag.isIn flag a || Foreign.Flag.isIn flag b) := by
  have hdistrib : (a ||| b) &&& flag = (a &&& flag) ||| (b &&& flag) := by
    apply UInt64.eq_of_toBitVec_eq
    ext i
    simp [Bool.and_or_distrib_right]
  have hzero : (a &&& flag) ||| (b &&& flag) = 0 ↔ a &&& flag = 0 ∧ b &&& flag = 0 :=
    UInt64.or_eq_zero_iff
  rw [Bool.eq_iff_iff]
  simp only [Foreign.Flag.isIn, hdistrib, Bool.or_eq_true, bne_iff_ne, ne_eq, hzero]
  tauto

theorem Plain.or {a b : UInt64} (ha : Plain a) (hb : Plain b) : Plain (a ||| b) := by
  refine ⟨?_, ?_⟩
  · rw [isIn_or, ha.1, hb.1, Bool.or_false]
  · rw [isIn_or, ha.2, hb.2, Bool.or_false]

theorem isHead_of_plain {classKind : ClassKind} {u : Tree} (h : Plain (flagsOf u)) :
    isHead classKind u = false := by
  rw [isHead, h.1, h.2, Bool.and_false, Bool.and_false, Bool.or_false]

theorem isHead_of_spells {classKind : ClassKind} {start : Int} {v : Tree} {name : String}
    (h : Spells start v name) : isHead classKind v = false := by
  obtain ⟨-, w, hw, -, hplain⟩ := h
  refine isHead_of_plain ?_
  rw [flagsOf, hw]
  exact hplain

theorem filter_of_spells {classKind : ClassKind} {start : Int} {vs : List Tree}
    {names : List String} (h : List.Forall₂ (Spells start) vs names) :
    vs.filter (fun u => !isHead classKind u) = vs := by
  induction h with
  | nil => rfl
  | cons hv _ ih => rw [List.filter_cons_of_pos (by rw [isHead_of_spells hv]; rfl), ih]

/-- Taking constants and components out leaves declarations as they
are. -/
theorem Laid.bodyMembers {classKind : ClassKind} {js : List Joint} {ts : List Tree}
    (h : Laid js ts) : Laid js (ts.filter (fun u => !isHead classKind u)) := by
  induction h with
  | nil => exact Laid.nil
  | @other u js ts hu _ ih =>
    have hhead : isHead classKind u = false := by
      refine isHead_of_plain ?_
      rw [flagsOf, hu]
      exact plain_zero
    rw [List.filter_cons_of_pos (by rw [hhead]; rfl)]
    exact Laid.other hu ih
  | @declared j vs js ts hne hvs _ ih =>
    rw [List.filter_append, filter_of_spells hvs]
    exact Laid.declared hne hvs ih

/-- Nothing is left of constants and components. -/
theorem laid_nil_of_heads {classKind : ClassKind} {ts : List Tree}
    (h : ∀ u ∈ ts, asVariable? u.shape = none ∨ isHead classKind u = true) :
    Laid [] (ts.filter (fun u => !isHead classKind u)) := by
  induction ts with
  | nil => exact Laid.nil
  | cons u ts ih =>
    obtain ⟨hu, hts⟩ := List.forall_mem_cons.1 h
    by_cases hhead : isHead classKind u = true
    · rw [List.filter_cons_of_neg (by simp [hhead])]
      exact ih hts
    · rw [List.filter_cons_of_pos (by simp [hhead])]
      exact Laid.other (hu.resolve_right hhead) (ih hts)

end Conversion

end TreeBridge
