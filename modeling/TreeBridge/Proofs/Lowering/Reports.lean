import Mathlib.Data.Nat.Notation
import TreeBridge.Lowering.Build
/-!
# What becomes of a report

A report of the lowering is settled or waits for an owner. Between a
state and a later one, a settled report stays as it is, and the reports
that wait either all wait on or have all found an owner among the trees
made in between. Which of the two it is depends on the step alone, not on
the state it starts from (`Reads`), so whether a step settles can be seen
in one run (`Settles`).
-/

namespace TreeBridge

namespace Lowering

open Foreign (Diagnostic Shape)

/-- A state in which only reports that are there wait. -/
def State.Consistent (σ : State) : Prop :=
  ∀ i ∈ σ.waiting, i < σ.reports.length

theorem State.consistent_initial : State.initial.Consistent :=
  fun _ h => by cases h

/-! ## Changing several reports -/

/-- Changing the entries at some places changes each of these, once if
changing twice is changing once, and no other. -/
theorem getElem?_foldl_modify {α : Type} {f : α → α} (hf : ∀ a, f (f a) = f a) (is : List ℕ)
    (xs : List α) (j : ℕ) :
    (is.foldl (fun ys i => ys.modify i f) xs)[j]? =
      if j ∈ is then xs[j]?.map f else xs[j]? := by
  induction is generalizing xs with
  | nil => simp
  | cons i is ih =>
    rw [List.foldl_cons, ih, List.getElem?_modify]
    by_cases hij : i = j
    · subst hij
      by_cases hmem : i ∈ is
      · cases xs[i]? <;> simp [hmem, hf]
      · simp [hmem]
    · have hji : j ≠ i := fun h => hij h.symm
      simp [hij, hji]

theorem length_foldl_modify {α : Type} {f : α → α} (is : List ℕ) (xs : List α) :
    (is.foldl (fun ys i => ys.modify i f) xs).length = xs.length := by
  induction is generalizing xs with
  | nil => rfl
  | cons i is ih => rw [List.foldl_cons, ih, List.length_modify]

theorem reports_settle (owner : ℕ) (σ : State) (j : ℕ) :
    (settle owner σ).2.reports[j]? =
      if j ∈ σ.waiting then σ.reports[j]?.map (·.aboutTree owner) else σ.reports[j]? :=
  getElem?_foldl_modify (f := fun d : Diagnostic => d.aboutTree owner) (fun _ => rfl) σ.waiting
    σ.reports j

/-- A settlement leaves a report alone or makes it one about the owner. -/
theorem mem_reports_settle {owner : ℕ} {σ : State} {d : Diagnostic}
    (h : d ∈ (settle owner σ).2.reports) :
    d ∈ σ.reports ∨ ∃ e ∈ σ.reports, d = e.aboutTree owner := by
  obtain ⟨j, hj⟩ := List.mem_iff_getElem?.1 h
  rw [reports_settle] at hj
  split at hj
  · obtain ⟨e, he, rfl⟩ := Option.map_eq_some_iff.1 hj
    exact .inr ⟨e, List.mem_of_getElem? he, rfl⟩
  · exact .inl (List.mem_of_getElem? hj)

theorem length_reports_settle (owner : ℕ) (σ : State) :
    (settle owner σ).2.reports.length = σ.reports.length :=
  length_foldl_modify _ _

/-! ## Later states -/

/-- What becomes of the reports of a state until a later state, with or
without a settlement in between. -/
structure Later (settles : Bool) (σ τ : State) : Prop where
  consistent : τ.Consistent
  next_le : σ.next ≤ τ.next
  length_le : σ.reports.length ≤ τ.reports.length
  settled : ∀ i, i < σ.reports.length → i ∉ σ.waiting →
    i ∉ τ.waiting ∧ τ.reports[i]? = σ.reports[i]?
  kept : settles = false → ∀ i ∈ σ.waiting, i ∈ τ.waiting ∧ τ.reports[i]? = σ.reports[i]?
  taken : settles = true → ∀ i ∈ σ.waiting, i ∉ τ.waiting ∧
    ∃ id, σ.next ≤ id ∧ id < τ.next ∧ τ.reports[i]? = σ.reports[i]?.map (·.aboutTree id)

namespace Later

variable {b c : Bool} {σ τ ρ : State}

theorem refl (h : σ.Consistent) : Later false σ σ :=
  ⟨h, Nat.le_refl _, Nat.le_refl _, fun _ _ hi => ⟨hi, rfl⟩, fun _ _ hi => ⟨hi, rfl⟩,
    fun hb => by cases hb⟩

theorem trans (hσ : σ.Consistent) (h : Later b σ τ) (h' : Later c τ ρ) :
    Later (b || c) σ ρ := by
  refine ⟨h'.consistent, Nat.le_trans h.next_le h'.next_le,
    Nat.le_trans h.length_le h'.length_le, ?_, ?_, ?_⟩
  · intro i hlt hi
    obtain ⟨hiτ, heq⟩ := h.settled i hlt hi
    obtain ⟨hiρ, heq'⟩ := h'.settled i (Nat.lt_of_lt_of_le hlt h.length_le) hiτ
    exact ⟨hiρ, heq'.trans heq⟩
  · intro hbc i hi
    obtain ⟨hb, hc⟩ := Bool.or_eq_false_iff.1 hbc
    obtain ⟨hiτ, heq⟩ := h.kept hb i hi
    obtain ⟨hiρ, heq'⟩ := h'.kept hc i hiτ
    exact ⟨hiρ, heq'.trans heq⟩
  · intro hbc i hi
    have hlt := hσ i hi
    -- The first settlement counts: after it the report does not wait any more.
    cases b with
    | true =>
      obtain ⟨hiτ, id, hle, hid, heq⟩ := h.taken rfl i hi
      obtain ⟨hiρ, heq'⟩ := h'.settled i (Nat.lt_of_lt_of_le hlt h.length_le) hiτ
      exact ⟨hiρ, id, hle, Nat.lt_of_lt_of_le hid h'.next_le, heq'.trans heq⟩
    | false =>
      obtain ⟨hiτ, heq⟩ := h.kept rfl i hi
      obtain ⟨hiρ, id, hle, hid, heq'⟩ := h'.taken hbc i hiτ
      exact ⟨hiρ, id, Nat.le_trans h.next_le hle, hid, by rw [heq', heq]⟩

/-- Making a tree leaves all reports alone. -/
theorem made (h : Later b σ τ) : Later b σ { τ with next := τ.next + 1 } :=
  ⟨h.consistent, Nat.le_succ_of_le h.next_le, h.length_le, h.settled, h.kept, fun hb i hi => by
    obtain ⟨hiτ, id, hle, hid, heq⟩ := h.taken hb i hi
    exact ⟨hiτ, id, hle, Nat.lt_succ_of_lt hid, heq⟩⟩

end Later

/-- A settlement by a tree made since a state. -/
theorem later_settle {b : Bool} {σ τ : State} (h : Later b σ τ) {owner : ℕ}
    (hle : σ.next ≤ owner) (hlt : owner < τ.next) : Later true σ (settle owner τ).2 := by
  have hreports := reports_settle owner τ
  refine ⟨?_, h.next_le, ?_, ?_, ?_, ?_⟩
  · intro i hi
    cases hi
  · rw [length_reports_settle]
    exact h.length_le
  · intro i hi hσi
    obtain ⟨hτ, heq⟩ := h.settled i hi hσi
    refine ⟨List.not_mem_nil, ?_⟩
    rw [hreports, if_neg hτ, heq]
  · intro hb
    cases hb
  · intro _ i hi
    refine ⟨List.not_mem_nil, ?_⟩
    cases b with
    | true =>
      obtain ⟨hτ, id, hid, hid', heq⟩ := h.taken rfl i hi
      exact ⟨id, hid, hid', by rw [hreports, if_neg hτ, heq]⟩
    | false =>
      obtain ⟨hτ, heq⟩ := h.kept rfl i hi
      exact ⟨owner, hle, hlt, by rw [hreports, if_pos hτ, heq]⟩

/-! ## Steps -/

/-- A step that reads: it settles all reports that wait, or lets all of
them wait. -/
def Reads (settles : Bool) {α : Type} (m : Build α) : Prop :=
  ∀ σ : State, σ.Consistent → Later settles σ (m σ).2

/-- A step that reads and then makes its tree, which is newer than the
owner of any report that it settles. -/
def Makes (settles : Bool) (m : Build Foreign.Tree) : Prop :=
  ∀ σ : State, σ.Consistent → ∃ τ : State, Later settles σ τ ∧
    (m σ).1.id = τ.next ∧ (m σ).2 = { τ with next := τ.next + 1 }

/-- A step that reads, settling or not. -/
abbrev Orderly {α : Type} (m : Build α) : Prop :=
  ∃ settles, Reads settles m

variable {b c : Bool} {α β γ : Type}

namespace Reads

theorem pure (a : α) : Reads false (pure a : Build α) :=
  fun _ hσ => Later.refl hσ

theorem get : Reads false (get : Build State) :=
  fun _ hσ => Later.refl hσ

/-- Two steps in a row, where the second is only known for the results
that the first can have. -/
theorem bindOf {m : Build α} {f : α → Build β} {P : α → Prop} (h : Reads b m)
    (hm : ∀ σ, P (m σ).1) (hf : ∀ a, P a → Reads c (f a)) : Reads (b || c) (m >>= f) := by
  intro σ hσ
  have hfirst := h σ hσ
  exact hfirst.trans hσ (hf (m σ).1 (hm σ) (m σ).2 hfirst.consistent)

theorem bind {m : Build α} {f : α → Build β} (h : Reads b m) (hf : ∀ a, Reads c (f a)) :
    Reads (b || c) (m >>= f) :=
  h.bindOf (P := fun _ => True) (fun _ => trivial) fun a _ => hf a

end Reads

namespace Makes

theorem reads {m : Build Foreign.Tree} (h : Makes b m) : Reads b m := by
  intro σ hσ
  obtain ⟨τ, hτ, -, hrun⟩ := h σ hσ
  rw [hrun]
  exact hτ.made

theorem bind {m : Build α} {f : α → Build Foreign.Tree} (h : Reads b m)
    (hf : ∀ a, Makes c (f a)) : Makes (b || c) (m >>= f) := by
  intro σ hσ
  have hm := h σ hσ
  obtain ⟨τ, hτ, hid, hrun⟩ := hf (m σ).1 (m σ).2 hm.consistent
  exact ⟨τ, hm.trans hσ hτ, hid, hrun⟩

theorem make (start position stop : Int) (shape : Shape Foreign.Tree) :
    Makes false (make start position stop shape) :=
  fun σ hσ => ⟨σ, Later.refl hσ, rfl, rfl⟩

/-- A declaration that settles takes every report that waits when its tree
is made. -/
theorem settled {m : Build Foreign.Tree} (h : Makes b m) : Reads true (settled m) := by
  intro σ hσ
  obtain ⟨τ, hτ, hid, hrun⟩ := h σ hσ
  have hsettled : (Lowering.settled m σ).2 = (settle (m σ).1.id (m σ).2).2 := rfl
  rw [hsettled, hrun, hid]
  exact later_settle hτ.made hτ.next_le (Nat.lt_succ_self _)

end Makes

theorem reads_report (d : Diagnostic) : Reads false (report d) := by
  intro σ hσ
  have hlen : (report d σ).2.reports.length = σ.reports.length + 1 := List.length_append
  have hold : ∀ i < σ.reports.length, (report d σ).2.reports[i]? = σ.reports[i]? :=
    fun i hi => List.getElem?_append_left hi
  refine ⟨fun i hi => ?_, Nat.le_refl _, ?_, fun i hi hw => ⟨hw, hold i hi⟩,
    fun _ i hi => ⟨hi, hold i (hσ i hi)⟩, fun h => (by cases h)⟩
  · rw [hlen]
    exact Nat.lt_succ_of_lt (hσ i hi)
  · rw [hlen]
    exact Nat.le_succ _

theorem reads_reportUnsettled (d : Diagnostic) : Reads false (reportUnsettled d) := by
  intro σ hσ
  have hlen : (reportUnsettled d σ).2.reports.length = σ.reports.length + 1 :=
    List.length_append
  have hold : ∀ i < σ.reports.length, (reportUnsettled d σ).2.reports[i]? = σ.reports[i]? :=
    fun i hi => List.getElem?_append_left hi
  have hwaiting : (reportUnsettled d σ).2.waiting = σ.waiting ++ [σ.reports.length] := rfl
  refine ⟨fun i hi => ?_, Nat.le_refl _, ?_, fun i hi hw => ⟨?_, hold i hi⟩,
    fun _ i hi => ⟨?_, hold i (hσ i hi)⟩, fun h => (by cases h)⟩
  · rw [hwaiting, List.mem_append, List.mem_singleton] at hi
    rw [hlen]
    rcases hi with hi | rfl
    · exact Nat.lt_succ_of_lt (hσ i hi)
    · exact Nat.lt_succ_self _
  · rw [hlen]
    exact Nat.le_succ _
  · rw [hwaiting, List.mem_append, List.mem_singleton, not_or]
    exact ⟨hw, by omega⟩
  · rw [hwaiting]
    exact List.mem_append_left _ hi

/-! ## Steps that need no report to wait -/

/-- A step that leaves no report waiting if none waits before it. -/
def ReadsAlone (m : Build α) : Prop :=
  ∀ σ : State, σ.Consistent → σ.waiting = [] →
    Later true σ (m σ).2 ∧ (m σ).2.waiting = []

/-- Where no report waits, there is nothing to settle. -/
theorem Later.ofNone {σ τ : State} (h : Later b σ τ) (hw : σ.waiting = []) : Later c σ τ := by
  have hnone : ∀ i, i ∉ σ.waiting := fun i => by
    rw [hw]
    exact List.not_mem_nil
  exact ⟨h.consistent, h.next_le, h.length_le, h.settled, fun _ i hi => absurd hi (hnone i),
    fun _ i hi => absurd hi (hnone i)⟩

namespace ReadsAlone

theorem pure (a : α) : ReadsAlone (pure a : Build α) :=
  fun _ hσ hw => ⟨(Later.refl hσ).ofNone hw, hw⟩

theorem bind {m : Build α} {f : α → Build β} (h : ReadsAlone m) (hf : ∀ a, ReadsAlone (f a)) :
    ReadsAlone (m >>= f) := by
  intro σ hσ hw
  obtain ⟨hm, hwm⟩ := h σ hσ hw
  obtain ⟨hfa, hwfa⟩ := hf (m σ).1 (m σ).2 hm.consistent hwm
  exact ⟨hm.trans hσ hfa, hwfa⟩

end ReadsAlone

theorem Makes.settled_alone {m : Build Foreign.Tree} (h : Makes b m) :
    ReadsAlone (Lowering.settled m) :=
  fun σ hσ _ => ⟨h.settled σ hσ, rfl⟩

/-- A step that leaves no report waiting, before one that needs that. -/
theorem Reads.bindAlone {m : Build α} {f : α → Build β} (h : Reads b m)
    (hw : ∀ σ, (m σ).2.waiting = []) (hf : ∀ a, ReadsAlone (f a)) :
    Reads (b || true) (m >>= f) := by
  intro σ hσ
  have hm := h σ hσ
  exact hm.trans hσ (hf (m σ).1 (m σ).2 hm.consistent (hw σ)).1

/-! ## Lists of steps -/

theorem orderly_mapM {xs : List α} {f : α → Build β} (h : ∀ x ∈ xs, Orderly (f x)) :
    Orderly (xs.mapM f) := by
  induction xs with
  | nil => exact ⟨_, Reads.pure []⟩
  | cons x xs ih =>
    obtain ⟨_, hx⟩ := h x (by simp)
    obtain ⟨_, hxs⟩ := ih fun y hy => h y (by simp [hy])
    rw [List.mapM_cons]
    exact ⟨_, hx.bind fun _ => hxs.bind fun _ => .pure _⟩

theorem orderly_gather {xs : List α} {f : α → Build (List Foreign.Tree)}
    (h : ∀ x ∈ xs, Orderly (f x)) : Orderly (gather f xs) := by
  obtain ⟨_, hxs⟩ := orderly_mapM h
  exact ⟨_, hxs.bind fun _ => .pure _⟩

theorem orderly_foldlM {xs : List α} {f : γ → α → Build γ}
    (h : ∀ x ∈ xs, ∃ b, ∀ acc, Reads b (f acc x)) :
    ∃ b, ∀ acc, Reads b (xs.foldlM f acc) := by
  induction xs with
  | nil => exact ⟨_, fun acc => .pure acc⟩
  | cons x xs ih =>
    obtain ⟨b, hx⟩ := h x (by simp)
    obtain ⟨c, hxs⟩ := ih fun y hy => h y (by simp [hy])
    refine ⟨b || c, fun acc => ?_⟩
    rw [List.foldlM_cons]
    exact (hx acc).bind hxs

/-! ## Seeing whether a step settles -/

/-- A state in which one report waits. -/
def oneWaiting : State :=
  ⟨0, [.errorAt "" "" 0 0], [0]⟩

/-- Whether a step settles a report that waits. -/
def Settles (m : Build α) : Prop :=
  0 ∉ (m oneWaiting).2.waiting

instance (m : Build α) : Decidable (Settles m) :=
  inferInstanceAs (Decidable (0 ∉ (m oneWaiting).2.waiting))

/-- **A step settles from every state, or from none.** -/
theorem Reads.settles_iff {m : Build α} (h : Reads b m) : Settles m ↔ b = true := by
  have hone : oneWaiting.Consistent := fun i hi => by
    rw [List.mem_singleton.1 hi]
    exact Nat.one_pos
  have hm := h oneWaiting hone
  cases b with
  | true => exact ⟨fun _ => rfl, fun _ => (hm.taken rfl 0 (by simp [oneWaiting])).1⟩
  | false =>
    refine ⟨fun hs => ?_, fun hb => by cases hb⟩
    exact absurd (hm.kept rfl 0 (by simp [oneWaiting])).1 hs

/-- Two steps in a row settle if one of them does. -/
theorem settles_bind_iff {m : Build α} {f : α → Build β} (h : Orderly m)
    (hf : ∃ c, ∀ a, Reads c (f a)) (a : α) :
    Settles (m >>= f) ↔ Settles m ∨ Settles (f a) := by
  obtain ⟨b, hm⟩ := h
  obtain ⟨c, hf⟩ := hf
  rw [(hm.bind hf).settles_iff, hm.settles_iff, (hf a).settles_iff, Bool.or_eq_true]

/-- Several steps settle if one of them does. -/
theorem settles_gather_iff {xs : List α} {f : α → Build (List Foreign.Tree)}
    (h : ∀ x ∈ xs, Orderly (f x)) : Settles (gather f xs) ↔ ∃ x ∈ xs, Settles (f x) := by
  have hmapM : Settles (xs.mapM f) ↔ ∃ x ∈ xs, Settles (f x) := by
    induction xs with
    | nil => simp [(Reads.pure _).settles_iff]
    | cons x xs ih =>
      have hrest : ∀ y ∈ xs, Orderly (f y) := fun y hy => h y (by simp [hy])
      obtain ⟨_, hxs⟩ := orderly_mapM hrest
      rw [List.mapM_cons, settles_bind_iff (h x (by simp))
        ⟨_, fun _ => hxs.bind fun _ => .pure _⟩ [],
        settles_bind_iff ⟨_, hxs⟩ ⟨_, fun _ => .pure _⟩ [], ih hrest]
      simp [(Reads.pure _).settles_iff]
  obtain ⟨_, hxs⟩ := orderly_mapM h
  unfold gather
  rw [settles_bind_iff ⟨_, hxs⟩ ⟨_, fun _ => .pure _⟩ [], hmapM]
  simp [(Reads.pure _).settles_iff]

end Lowering

end TreeBridge
