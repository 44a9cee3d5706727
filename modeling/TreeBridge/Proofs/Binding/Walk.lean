import TreeBridge.Proofs.Binding.Ledger
/-!
# The walk over a unit

Every node adds at most one declaration to the log, and the walk below it
goes on in a scope that spells out the place inside it. The walk over a
tree therefore logs its declarations in the order of its sites.
-/

namespace TreeBridge

namespace Binding

open Unified (Arena NodeId NodeKind Tree)

/-! ## Drawing an origin -/

/-- An origin is drawn from a ledger: its number has been counted, and if
it is private, no origin of an earlier key is the same. -/
structure Drawn (σ τ : Ledger) (o : Origin) : Prop where
  extend : σ.Extends [] τ
  counted : o.Counted τ
  fresh : o.isPrivate = true →
    ∀ p : Origin, p.Counted σ → (σ.binding? p.key).isSome = true → p ≠ o

section Drawing

variable {σ : Ledger} {scope : Scope} {name : String}

/-- The origin of a type that is declared in a scope. -/
def typeOrigin (scope : Scope) (name : String) (σ : Ledger) : Origin :=
  match scope.owner, scope.member with
  | some outer, some _ => .innerType outer (some (σ.countOf outer + 1)) name
  | some outer, none => .innerType outer none name
  | none, _ => .unitType scope.package name

/-- The origin of a variable that is declared in a scope. -/
def variableOrigin (scope : Scope) (isField : Bool) (name : String) (σ : Ledger) : Origin :=
  match scope.member, isField, scope.owner with
  | some member, false, _ =>
    let base := localKey member name none
    .localVariable member name
      (if (σ.binding? base).isSome then some (σ.countOf base + 1) else none)
  | _, _, some owner => .memberVariable owner name
  | _, _, none => .looseVariable name

theorem key_typeOrigin : (typeOrigin scope name σ).key = typeKey (binaryName scope name σ).1 := by
  obtain ⟨package, owner, member⟩ := scope
  cases owner <;> cases member <;> rfl

theorem key_variableOrigin {isField : Bool} :
    (variableOrigin scope isField name σ).key = (variableKey scope isField name σ).1 := by
  obtain ⟨package, owner, member⟩ := scope
  cases member with
  | none => cases owner <;> rfl
  | some member =>
    cases isField with
    | true => cases owner <;> rfl
    | false =>
      have hbase : member ++ "#" ++ name = localKey member name none := rfl
      dsimp only [variableOrigin, variableKey]
      rw [hbase]
      split <;> rfl

theorem drawn_of_public {o : Origin} (hpublic : o.isPrivate = false) : Drawn σ σ o := by
  have hcounter : o.counter? = none := by
    unfold Origin.counter?
    split
    · cases hpublic
    · cases hpublic
    · rfl
  refine ⟨.refl _ _, fun key n hkey => ?_, fun hprivate => ?_⟩
  · rw [hcounter] at hkey
    cases hkey
  · rw [hpublic] at hprivate
    cases hprivate

/-- A number that was just counted is higher than those in use. -/
theorem drawn_count {o : Origin} {key : String}
    (h : o.counter? = some (key, σ.countOf key + 1)) : Drawn σ (σ.count key).2 o := by
  refine ⟨Ledger.extends_count _ _, fun other n hother => ?_, fun _ p hp _ heq => ?_⟩
  · rw [h, Option.some.injEq, Prod.mk.injEq] at hother
    obtain ⟨rfl, rfl⟩ := hother
    exact Nat.le_of_eq (by rw [Ledger.countOf_count, if_pos rfl])
  · have hle := hp key (σ.countOf key + 1) (heq ▸ h)
    omega

/-- A key that the ledger does not know is new without a number. -/
theorem drawn_localVariable_of_unbound {member : String}
    (hunbound : ¬ (σ.binding? (localKey member name none)).isSome = true) :
    Drawn σ σ (.localVariable member name none) := by
  refine ⟨.refl _ _, fun _ _ hkey => (by cases hkey), fun _ p _ hbound heq => hunbound ?_⟩
  rwa [heq] at hbound

theorem drawn_typeOrigin : Drawn σ (binaryName scope name σ).2 (typeOrigin scope name σ) := by
  obtain ⟨package, owner, member⟩ := scope
  cases owner with
  | none => cases member <;> exact drawn_of_public rfl
  | some outer =>
    cases member with
    | none => exact drawn_of_public rfl
    | some member => exact drawn_count rfl

theorem drawn_variableOrigin {isField : Bool} :
    Drawn σ (variableKey scope isField name σ).2 (variableOrigin scope isField name σ) := by
  obtain ⟨package, owner, member⟩ := scope
  cases member with
  | none => cases owner <;> exact drawn_of_public rfl
  | some member =>
    cases isField with
    | true => cases owner <;> exact drawn_of_public rfl
    | false =>
      have hbase : member ++ "#" ++ name = localKey member name none := rfl
      dsimp only [variableOrigin, variableKey]
      rw [hbase]
      split
      · exact drawn_count rfl
      · next hunbound => exact drawn_localVariable_of_unbound hunbound

end Drawing

/-! ## One node -/

/-- The names that are declared at a site can be told apart in keys: they
are plain, and the name of a type has no dollar sign. -/
structure Site.Plain (site : Site) : Prop where
  name : site.declares = true → Binding.Plain site.name
  type : site.isType = true → '$' ∉ site.name.toList

instance (site : Site) : Decidable site.Plain :=
  decidable_of_iff ((site.declares = true → Binding.Plain site.name) ∧
    (site.isType = true → '$' ∉ site.name.toList)) ⟨fun h => ⟨h.1, h.2⟩, fun h => ⟨h.name, h.type⟩⟩

section Node

variable {a : Arena} {log : List Entry} {σ τ : Ledger} {scope : Scope}

/-- What the visit of a node does, by the role of the node. -/
theorem declareNode_eq (scope : Scope) (isField : Bool) (t : Tree) (σ : Ledger) :
    ∃ key kind name, declareNode scope isField t σ =
      match role t.kind with
      | .package | .annotationMember => (none, σ.declare t key kind name)
      | .type =>
        let binary := binaryName scope (declaredName t) σ
        (some (scope.inside binary.1),
          binary.2.declare t (typeKey binary.1) .type (declaredName t))
      | .anonymousType =>
        let number := σ.count scope.ownerName
        let binary := scope.ownerName ++ "$" ++ toString number.1
        (some (scope.inside binary), number.2.declare t (typeKey binary) .type "")
      | .method => (some (scope.within key), σ.declare t key kind name)
      | .initializer => (some (scope.within key), (σ.count (scope.ownerName ++ "#init")).2)
      | .enumConstant =>
        (some scope,
          σ.declare t (memberKey scope.ownerName (declaredName t)) .var (declaredName t))
      | .var =>
        let drawn := variableKey scope isField (declaredName t) σ
        (some scope, drawn.2.declare t drawn.1 .var (declaredName t))
      | .other => (some scope, σ) := by
  generalize hrole : role t.kind = r
  unfold role at hrole
  split at hrole <;> cases hrole
  case h_13 =>
    -- no other kind has a visit of its own
    refine ⟨"", .type, "", ?_⟩
    unfold declareNode
    split <;> first | rfl | (exfalso; simp_all)
  all_goals
    rename_i hkind
    unfold declareNode
    rw [hkind]
    first
    | exact ⟨"", .type, "", rfl⟩
    | exact ⟨_, .type, "", rfl⟩
    | exact ⟨_, _, _, rfl⟩

/-- A drawn origin is logged with the declaration. -/
theorem Logged.draw {site : Site} {o : Origin} {kind : BindingKind} {name : String}
    (h : Logged a log σ) (hdrawn : Drawn σ τ o) (hfresh : ∀ e ∈ log, e.site.id ∉ site.tree.ids)
    (hplain : o.Plain) (hfits : Fits a log ⟨site, o⟩) :
    Logged a (log ++ [⟨site, o⟩]) (τ.declare site.tree o.key kind name) :=
  (h.mono hdrawn.extend fun _ _ => List.not_mem_nil).declare hfresh hdrawn.counted hplain hfits
    fun hprivate e he => hdrawn.fresh hprivate e.origin (h.counted e he) (h.bound e he)

theorem Stands.isNone_owner {place : Place} (h : Stands log scope place) :
    place.owner.isNone = scope.owner.isNone := by
  have howner := h.owner
  generalize scope.owner = binary, place.owner = owner at howner ⊢
  cases howner <;> rfl

/-- The scope inside a type stands for the place inside it. -/
theorem Stands.inside {place : Place} {site : Site} {o : Origin} {binary : String}
    (h : Stands log scope place) (hkey : o.key = typeKey binary) :
    Stands (log ++ [⟨site, o⟩]) (scope.inside binary)
      { place with owner := some site.id, inMember := false } :=
  ⟨h.package, rfl, .some ⟨⟨site, o⟩, by simp, rfl, hkey⟩⟩

theorem Stands.within {place : Place} (h : Stands log scope place) (key : String) :
    Stands log (scope.within key) { place with inMember := true } :=
  ⟨h.package, rfl, h.owner⟩

theorem plain_typeOrigin {name : String} (hname : Plain name) (hdollar : '$' ∉ name.toList) :
    (typeOrigin scope name σ).Plain := by
  unfold typeOrigin
  split <;> exact ⟨hname, hdollar⟩

theorem plain_variableOrigin {isField : Bool} {name : String} (hname : Plain name) :
    (variableOrigin scope isField name σ).Plain := by
  unfold variableOrigin
  split <;> exact hname

/-- The two sides of `Fits` at once. -/
theorem fits_of_cond {site : Site} {o : Origin} (hstands : Stands log scope site.place)
    (h : bif site.isOpen a then o = openOrigin scope site.tree else o.isPrivate = true) :
    Fits a log ⟨site, o⟩ := by
  constructor <;> intro hopen
  · rw [hopen] at h
    exact ⟨scope, hstands, h⟩
  · rw [hopen] at h
    exact h

/-- A type is open unless a member of another type is around it. -/
theorem fits_typeOrigin {site : Site} (hstands : Stands log scope site.place)
    (hrole : role site.tree.kind = .type) : Fits a log ⟨site, typeOrigin scope site.name σ⟩ := by
  have hopen : site.isOpen a = (scope.owner.isNone || !scope.member.isSome) := by
    rw [Site.isOpen, hrole, hstands.isNone_owner, hstands.member]
  refine fits_of_cond hstands ?_
  rw [hopen]
  unfold typeOrigin openOrigin
  rw [hrole]
  obtain ⟨package, owner, member⟩ := scope
  cases owner <;> cases member <;> rfl

/-- A variable is open unless a member is around it and it is no field. -/
theorem fits_variableOrigin {site : Site} (hstands : Stands log scope site.place)
    (hrole : role site.tree.kind = .var) :
    Fits a log ⟨site, variableOrigin scope (isFieldPlace a site.id) site.name σ⟩ := by
  have hopen : site.isOpen a = (isFieldPlace a site.id || !scope.member.isSome) := by
    rw [Site.isOpen, hrole, hstands.member]
  refine fits_of_cond hstands ?_
  rw [hopen]
  unfold variableOrigin openOrigin
  rw [hrole]
  obtain ⟨package, owner, member⟩ := scope
  cases isFieldPlace a site.id <;> cases owner <;> cases member <;> rfl

/-- What a visit of a node comes to: the log gains the declaration of the
node, if it has one, and the scope inside stands for the place inside. -/
def Visits (a : Arena) (log : List Entry) (site : Site) (outcome : Option Scope × Ledger) : Prop :=
  ∃ new : List Entry, new.map Entry.site = [site].filter Site.declares ∧
    Logged a (log ++ new) outcome.2 ∧
    Option.Rel (Stands (log ++ new)) outcome.1 (site.place.inside? site.tree)

/-- A node that declares no type and no variable adds nothing to the log. -/
theorem visits_of_silent {site : Site} {inner : Option Scope} (hlogged : Logged a log σ)
    (hfresh : ∀ e ∈ log, e.site.id ∉ site.tree.ids) (hdeclares : site.declares = false)
    (hext : σ.Extends site.tree.ids τ)
    (hinner : Option.Rel (Stands log) inner (site.place.inside? site.tree)) :
    Visits a log site (inner, τ) := by
  refine ⟨[], by simp [hdeclares], ?_, ?_⟩ <;> rw [List.append_nil]
  · exact hlogged.mono hext hfresh
  · exact hinner

/-- A node that declares a type or a variable adds the origin it draws. -/
theorem visits_of_drawn {site : Site} {o : Origin} {kind : BindingKind} {name : String}
    {inner : Scope} (hlogged : Logged a log σ) (hfresh : ∀ e ∈ log, e.site.id ∉ site.tree.ids)
    (hdeclares : site.declares = true) (hdrawn : Drawn σ τ o) (hplain : o.Plain)
    (hfits : Fits a log ⟨site, o⟩)
    (hinner : Option.Rel (Stands (log ++ [⟨site, o⟩])) (some inner)
      (site.place.inside? site.tree)) :
    Visits a log site (some inner, τ.declare site.tree o.key kind name) :=
  ⟨[⟨site, o⟩], by simp [hdeclares], hlogged.draw hdrawn hfresh hplain hfits, hinner⟩

/-- **The visit of a node** logs its declaration, if it has one, and goes
on in a scope for the place inside it. -/
theorem visits_declareNode {site : Site} (hstands : Stands log scope site.place)
    (hlogged : Logged a log σ) (hfresh : ∀ e ∈ log, e.site.id ∉ site.tree.ids)
    (hplain : site.Plain) :
    Visits a log site (declareNode scope (isFieldPlace a site.id) site.tree σ) := by
  obtain ⟨key, kind, name, heq⟩ :=
    declareNode_eq scope (isFieldPlace a site.id) site.tree σ
  rw [heq]
  have hmono {o : Origin} : Stands (log ++ [⟨site, o⟩]) scope site.place :=
    hstands.mono (List.subset_append_left _ _)
  cases hrole : role site.tree.kind with
  | package | annotationMember =>
    refine visits_of_silent hlogged hfresh (by rw [Site.declares, hrole])
      Ledger.extends_declare ?_
    rw [Place.inside?, hrole]
    exact .none
  | method =>
    refine visits_of_silent hlogged hfresh (by rw [Site.declares, hrole])
      Ledger.extends_declare ?_
    rw [Place.inside?, hrole]
    exact .some (hstands.within _)
  | initializer =>
    refine visits_of_silent hlogged hfresh (by rw [Site.declares, hrole])
      (Ledger.extends_count _ _) ?_
    rw [Place.inside?, hrole]
    exact .some (hstands.within _)
  | other =>
    refine visits_of_silent hlogged hfresh (by rw [Site.declares, hrole]) (.refl _ _) ?_
    rw [Place.inside?, hrole]
    exact .some hstands
  | type =>
    have hdeclares : site.declares = true := by rw [Site.declares, hrole]
    have hname : (typeOrigin scope site.name σ).Plain :=
      plain_typeOrigin (hplain.name hdeclares) (hplain.type (by rw [Site.isType, hrole]))
    dsimp only
    rw [← key_typeOrigin]
    refine visits_of_drawn hlogged hfresh hdeclares drawn_typeOrigin hname
      (fits_typeOrigin hstands hrole) ?_
    rw [Place.inside?, hrole]
    exact .some (hstands.inside key_typeOrigin)
  | anonymousType =>
    have hkey : (Origin.innerType scope.ownerName (some (σ.countOf scope.ownerName + 1)) "").key =
        typeKey (scope.ownerName ++ "$" ++ toString (σ.count scope.ownerName).1) := by
      rw [Origin.key, innerName, String.append_empty, Ledger.fst_count]
    have hname : Plain "" := by decide
    have hclosed : site.isOpen a = false := by rw [Site.isOpen, hrole]
    dsimp only
    rw [← hkey]
    refine visits_of_drawn hlogged hfresh (by rw [Site.declares, hrole]) (drawn_count rfl)
      ⟨hname, by simp⟩ (fits_of_cond hstands (by rw [hclosed]; rfl)) ?_
    rw [Place.inside?, hrole]
    exact .some (hstands.inside hkey)
  | enumConstant =>
    have hdeclares : site.declares = true := by rw [Site.declares, hrole]
    have hopen : site.isOpen a = true := by rw [Site.isOpen, hrole]
    have horigin :
        Origin.memberVariable scope.ownerName site.name = openOrigin scope site.tree := by
      rw [openOrigin, hrole]
      rfl
    refine visits_of_drawn (o := .memberVariable scope.ownerName site.name) hlogged hfresh
      hdeclares (drawn_of_public rfl) (hplain.name hdeclares) (fits_of_cond hstands ?_) ?_
    · rw [hopen]
      exact horigin
    · rw [Place.inside?, hrole]
      exact .some hmono
  | var =>
    have hdeclares : site.declares = true := by rw [Site.declares, hrole]
    dsimp only
    rw [← key_variableOrigin]
    refine visits_of_drawn hlogged hfresh hdeclares drawn_variableOrigin
      (plain_variableOrigin (hplain.name hdeclares)) (fits_variableOrigin hstands hrole) ?_
    rw [Place.inside?, hrole]
    exact .some hmono

end Node

/-! ## A whole tree -/

section Whole

variable {a : Arena} {scope inner : Scope} {t : Tree} {σ : Ledger}

theorem declareTree_of_none
    (h : (declareNode scope (isFieldPlace a t.id) t σ).1 = none) :
    declareTree a scope t σ = (declareNode scope (isFieldPlace a t.id) t σ).2 := by
  rw [declareTree]
  split
  · next hnode => rw [hnode]
  · next hnode => rw [hnode] at h; cases h

theorem packageScope_of_leading?_eq_none (h : leading? t = none) (scope : Scope) :
    packageScope scope t = scope := by
  unfold leading? at h
  unfold packageScope
  split
  · next hkind hclause =>
    rw [hkind] at h
    rw [hclause] at h
    cases h
  · rfl

/-- A unit with a package clause declares nothing itself. -/
theorem declareNode_of_leading? {clause : Tree} {isField : Bool} (h : leading? t = some clause) :
    declareNode scope isField t σ = (some scope, σ) := by
  unfold leading? at h
  split at h
  · next hkind =>
    unfold declareNode
    rw [hkind]
  · cases h

theorem branches_of_leading? {clause : Tree} (h : leading? t = some clause) :
    branches t = (false, clause) ::
      ((t.children.map (·.2)).filter fun u => u.id != clause.id).map (true, ·) := by
  rw [branches, h]

theorem branches_of_leading?_eq_none (h : leading? t = none) :
    branches t = (t.children.map (·.2)).map (true, ·) := by
  rw [branches, h]

/-- The walk below a node is one walk after the other over its branches. -/
theorem declareTree_of_some
    (h : (declareNode scope (isFieldPlace a t.id) t σ).1 = some inner) :
    declareTree a scope t σ = (branches t).foldl
      (fun τ b => declareTree a (if b.1 then packageScope inner t else inner) b.2 τ)
      (declareNode scope (isFieldPlace a t.id) t σ).2 := by
  rw [declareTree]
  split
  · next hnode =>
    rw [hnode] at h
    cases h
  · next scope' τ hnode =>
    rw [hnode] at h ⊢
    cases h
    split
    · next clause hclause =>
      rw [declareNode_of_leading? hclause] at hnode
      cases hnode
      refine (List.foldl_attach (f := fun τ (c : Unified.Slot × Tree) =>
        if c.2.id == clause.id then τ else declareTree a (packageScope scope t) c.2 τ)).trans ?_
      rw [branches_of_leading? hclause, List.foldl_cons, List.foldl_map, List.foldl_filter,
        List.foldl_map]
      congr 1
      funext τ c
      by_cases hc : c.2.id = clause.id <;> simp [hc]
    · next hclause =>
      refine (List.foldl_attach (f := fun τ (c : Unified.Slot × Tree) =>
        declareTree a inner c.2 τ)).trans ?_
      rw [branches_of_leading?_eq_none hclause, List.foldl_map, List.foldl_map,
        packageScope_of_leading?_eq_none hclause]
      rfl

theorem Stands.packaged {log : List Entry} {place : Place} (h : Stands log scope place)
    (t : Tree) : Stands log (packageScope scope t) (place.packaged t) := by
  unfold packageScope Place.packaged
  generalize t.kind = kind, t.child? .package = clause
  cases clause with
  | none => cases kind <;> exact h
  | some clause =>
    cases kind
    case compilationUnit => exact ⟨rfl, h.member, h.owner⟩
    all_goals exact h

/-- What a walk over a tree does to a ledger and its log, from any scope
that spells out the place of the tree. -/
def Walks (a : Arena) (place : Place) (t : Tree) : Prop :=
  ∀ (scope : Scope) (log : List Entry) (σ : Ledger), Stands log scope place → Logged a log σ →
    (∀ e ∈ log, e.site.id ∉ t.ids) →
    ∃ new : List Entry, new.map Entry.site = (sites place t).filter Site.declares ∧
      Logged a (log ++ new) (declareTree a scope t σ)

theorem id_mem_ids_of_mem_log {place : Place} {new : List Entry}
    (h : new.map Entry.site = (sites place t).filter Site.declares) {e : Entry} (he : e ∈ new) :
    e.site.id ∈ t.ids := by
  have hsite : e.site ∈ (sites place t).filter Site.declares := h ▸ List.mem_map_of_mem he
  exact id_mem_ids_of_mem_sites (List.mem_filter.1 hsite).1

/-- Walks over trees without a node in common follow one another. -/
theorem logged_foldl {places : Bool × Tree → Place} {scopes : Bool × Tree → Scope}
    (bs : List (Bool × Tree)) {log : List Entry} (hwalks : ∀ b ∈ bs, Walks a (places b) b.2)
    (hstands : ∀ b, Stands log (scopes b) (places b))
    (hdisjoint : bs.Pairwise fun b c => b.2.ids.Disjoint c.2.ids) (hlogged : Logged a log σ)
    (hfresh : ∀ b ∈ bs, ∀ e ∈ log, e.site.id ∉ b.2.ids) :
    ∃ new : List Entry,
      new.map Entry.site = (bs.flatMap fun b => sites (places b) b.2).filter Site.declares ∧
      Logged a (log ++ new) (bs.foldl (fun τ b => declareTree a (scopes b) b.2 τ) σ) := by
  induction bs generalizing log σ with
  | nil => exact ⟨[], rfl, by rwa [List.append_nil]⟩
  | cons b bs ih =>
    obtain ⟨hb, hbs⟩ := List.pairwise_cons.1 hdisjoint
    obtain ⟨first, hfirst, hlogged⟩ :=
      hwalks b (by simp) (scopes b) log σ (hstands b) hlogged (hfresh b (by simp))
    -- what the first tree has logged are nodes of its own
    have hfreshRest : ∀ c ∈ bs, ∀ e ∈ log ++ first, e.site.id ∉ c.2.ids := by
      intro c hc e he
      rcases List.mem_append.1 he with he | he
      · exact hfresh c (by simp [hc]) e he
      · exact fun hmem => hb c hc (id_mem_ids_of_mem_log hfirst he) hmem
    obtain ⟨rest, hrest, hlogged⟩ := ih (fun c hc => hwalks c (by simp [hc]))
      (fun c => (hstands c).mono (List.subset_append_left _ _)) hbs hlogged hfreshRest
    refine ⟨first ++ rest, ?_, ?_⟩
    · rw [List.map_append, hfirst, hrest, List.flatMap_cons, List.filter_append]
    · rwa [← List.append_assoc]

/-- A node that was just logged is none of those below it. -/
theorem notMem_ids_of_mem_branches {site : Site} {log new : List Entry}
    (hnodup : site.tree.ids.Nodup) (hnew : new.map Entry.site = [site].filter Site.declares)
    (hfresh : ∀ e ∈ log, e.site.id ∉ site.tree.ids) {b : Bool × Tree}
    (hb : b ∈ branches site.tree) {e : Entry} (he : e ∈ log ++ new) : e.site.id ∉ b.2.ids := by
  intro hmem
  rcases List.mem_append.1 he with he | he
  · exact hfresh e he (ids_subset_of_mem_branches hb hmem)
  · have hsite : e.site ∈ [site].filter Site.declares := hnew ▸ List.mem_map_of_mem he
    rw [List.mem_singleton.1 (List.mem_filter.1 hsite).1] at hmem
    exact id_notMem_ids_of_mem_branches hnodup hb hmem

theorem eq_none_of_rel {α β : Type} {r : α → β → Prop} {x : Option α}
    (h : Option.Rel r x none) : x = none := by
  cases h
  rfl

theorem exists_of_rel_some {α β : Type} {r : α → β → Prop} {x : Option α} {y : β}
    (h : Option.Rel r x (some y)) : ∃ z, x = some z ∧ r z y := by
  cases h with
  | some h => exact ⟨_, rfl, h⟩

/-- **The walk over a tree** logs its declarations, in the order of its
sites. -/
theorem walks_of_nodup {place : Place} {t : Tree} (hnodup : t.ids.Nodup)
    (hplain : ∀ site ∈ sites place t, site.Plain) : Walks a place t := by
  induction place, t using sites.induct with
  | case1 place t ih =>
    intro scope log σ hstands hlogged hfresh
    have hself : (⟨place, t⟩ : Site) ∈ sites place t := by
      rw [sites]
      exact List.mem_cons_self
    obtain ⟨new, hnew, hlogged, hinner⟩ :=
      @visits_declareNode a log σ scope ⟨place, t⟩ hstands hlogged hfresh (hplain _ hself)
    cases hinside : place.inside? t with
    | none =>
      rw [hinside] at hinner
      refine ⟨new, ?_, ?_⟩
      · rw [hnew, sites_of_none hinside]
      · rwa [declareTree_of_none (eq_none_of_rel hinner)]
    | some below =>
      rw [hinside] at hinner
      obtain ⟨inner, hnode, hinner⟩ := exists_of_rel_some hinner
      have hwalks : ∀ b ∈ branches t,
          Walks a (if b.1 then below.packaged t else below) b.2 := by
        intro b hb
        refine ih below ⟨b, hb⟩ (nodup_ids_of_mem_branches hnodup hb)
          fun site hsite => hplain site ?_
        rw [sites_of_some hinside]
        exact List.mem_cons_of_mem _ (List.mem_flatMap.2 ⟨b, hb, hsite⟩)
      have hbelow : ∀ b : Bool × Tree, Stands (log ++ new)
          (if b.1 then packageScope inner t else inner)
          (if b.1 then below.packaged t else below) := by
        intro b
        split
        · exact hinner.packaged t
        · exact hinner
      obtain ⟨rest, hrest, hlogged⟩ := logged_foldl (branches t) hwalks hbelow
        (pairwise_disjoint_branches hnodup) hlogged
        fun b hb e he => notMem_ids_of_mem_branches hnodup hnew hfresh hb he
      refine ⟨new ++ rest, ?_, ?_⟩
      · rw [List.map_append, hnew, hrest, sites_of_some hinside, ← List.filter_append,
          List.singleton_append]
      · rw [← List.append_assoc, declareTree_of_some hnode]
        exact hlogged

end Whole

end Binding

end TreeBridge
