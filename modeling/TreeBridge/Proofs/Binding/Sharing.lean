import TreeBridge.Proofs.Binding.Walk
/-!
# Which declarations share a key

Two declarations of a unit have the same key exactly when both are open
and agree in their name, in what they declare and in what holds them. A
parameter, a local variable or a local type inside a method or an
initializer shares its key with nothing, and neither does an anonymous
class. The functions that a field starts with are no members: a parameter
of theirs is open, and it shares the key of a field of its name.
-/

namespace TreeBridge

namespace Binding

open Unified (Arena NodeId NodeKind Tree)

/-! ## Open origins -/

/-- The holder of an open declaration as its scope has it. -/
def openHolder (scope : Scope) (t : Tree) : Holder :=
  match scope.owner, role t.kind with
  | some binary, _ => .type (typeKey binary)
  | none, .enumConstant => .type (typeKey "")
  | none, .type => .package scope.package
  | none, _ => .package ""

variable {a : Arena} {log : List Entry} {σ : Ledger}

theorem role_of_isOpen {site : Site} (h : site.isOpen a = true) :
    role site.tree.kind = .type ∨ role site.tree.kind = .enumConstant ∨
      role site.tree.kind = .var := by
  unfold Site.isOpen at h
  split at h
  · next hrole => exact .inr (.inl hrole)
  · next hrole => exact .inr (.inr hrole)
  · next hrole => exact .inl hrole
  · cases h

/-- The key of the type around is read in the ledger. -/
theorem holder_eq_openHolder (hlogged : Logged a log σ) {scope : Scope} {site : Site}
    (h : Stands log scope site.place) : site.holder σ = openHolder scope site.tree := by
  have howner := h.owner
  have hpackage := h.package
  unfold Site.holder openHolder
  generalize scope.owner = binary, site.place.owner = owner at howner ⊢
  cases howner with
  | none =>
    rw [hpackage]
    cases role site.tree.kind <;> rfl
  | some h =>
    obtain ⟨e, he, rfl, hkey⟩ := h
    dsimp only
    rw [hlogged.key e he, hkey]
    rfl

/-- Open origins agree when they are of one sort, name and holder. -/
theorem openOrigin_eq_iff {scope scope' : Scope} {d e : Site} (hd : d.isOpen a = true)
    (he : e.isOpen a = true) :
    openOrigin scope d.tree = openOrigin scope' e.tree ↔
      d.isType = e.isType ∧ d.name = e.name ∧
        openHolder scope d.tree = openHolder scope' e.tree := by
  obtain ⟨package, owner, member⟩ := scope
  obtain ⟨package', owner', member'⟩ := scope'
  unfold openOrigin openHolder Site.isType Site.name
  obtain hd | hd | hd := role_of_isOpen hd <;> obtain he | he | he := role_of_isOpen he <;>
    cases owner <;> cases owner' <;>
    simp [hd, he, Scope.ownerName, typeKey_injective.eq_iff, and_comm]

/-- Two logged declarations have one origin exactly when nothing sets
them apart. -/
theorem origin_eq_iff (hlogged : Logged a log σ) {x y : Entry} (hx : x ∈ log) (hy : y ∈ log)
    (hne : x ≠ y) : x.origin = y.origin ↔ SharesName a σ x.site y.site := by
  have hopens (hxo : x.site.isOpen a = true) (hyo : y.site.isOpen a = true) :
      x.origin = y.origin ↔ x.site.isType = y.site.isType ∧ x.site.name = y.site.name ∧
        x.site.holder σ = y.site.holder σ := by
    obtain ⟨scope, hscope, hxorigin⟩ := (hlogged.fits x hx).openSite hxo
    obtain ⟨scope', hscope', hyorigin⟩ := (hlogged.fits y hy).openSite hyo
    rw [hxorigin, hyorigin, openOrigin_eq_iff hxo hyo, holder_eq_openHolder hlogged hscope,
      holder_eq_openHolder hlogged hscope']
  constructor
  · intro heq
    have : Std.Symm fun d e : Entry => d.origin = e.origin → d.origin.isPrivate = false :=
      ⟨fun d e h heq => heq ▸ h heq.symm⟩
    have hpublic : x.origin.isPrivate = false := hlogged.apart.forall hx hy hne heq
    -- a closed declaration would have a private origin
    have hopen {z : Entry} (hz : z ∈ log) (hpublic : z.origin.isPrivate = false) :
        z.site.isOpen a = true := by
      by_contra hclosed
      rw [(hlogged.fits z hz).closedSite (by simpa using hclosed)] at hpublic
      cases hpublic
    have hxo := hopen hx hpublic
    have hyo := hopen hy (heq ▸ hpublic)
    obtain ⟨htype, hname, hholder⟩ := (hopens hxo hyo).1 heq
    exact ⟨hxo, hyo, htype, hname, hholder⟩
  · intro h
    exact (hopens h.left h.right).2 ⟨h.isType, h.name, h.holder⟩

/-! ## Whole units -/

theorem stands_top : Stands [] .top .top :=
  ⟨rfl, rfl, .none⟩

theorem logged_nil (a : Arena) (σ : Ledger) : Logged a [] σ := by
  constructor <;> simp

/-- **The ledger of a unit** has a log of the declarations of the unit. -/
theorem exists_logged_ofRoot {root : NodeId} (htree : Unified.IsTree a root)
    (hplain : ∀ site ∈ sites .top (a.tree root), site.Plain) :
    ∃ log : List Entry, log.map Entry.site = (sites .top (a.tree root)).filter Site.declares ∧
      Logged a log (Ledger.ofRoot a root) := by
  obtain ⟨log, hlog, hlogged⟩ := walks_of_nodup htree.nodup_ids_tree hplain .top [] .empty
    stands_top (logged_nil a .empty) (by simp)
  exact ⟨log, hlog, hlogged⟩

/-- **Two declarations share a key exactly when nothing but their holder
and their name says which is which.** -/
theorem key?_eq_key?_iff {root : NodeId} (htree : Unified.IsTree a root)
    (hplain : ∀ site ∈ sites .top (a.tree root), site.Plain) {d e : Site}
    (hd : d ∈ sites .top (a.tree root)) (he : e ∈ sites .top (a.tree root))
    (hdd : d.declares = true) (hed : e.declares = true) (hne : d.id ≠ e.id) :
    ∃ k l, (Ledger.ofRoot a root).key? d.id = some k ∧
      (Ledger.ofRoot a root).key? e.id = some l ∧
      (k = l ↔ SharesName a (Ledger.ofRoot a root) d e) := by
  obtain ⟨log, hlog, hlogged⟩ := exists_logged_ofRoot htree hplain
  have hentry {site : Site} (hsite : site ∈ sites .top (a.tree root))
      (hdeclares : site.declares = true) : ∃ x ∈ log, x.site = site := by
    have hmem : site ∈ log.map Entry.site := hlog ▸ List.mem_filter.2 ⟨hsite, hdeclares⟩
    exact List.mem_map.1 hmem
  obtain ⟨x, hx, rfl⟩ := hentry hd hdd
  obtain ⟨y, hy, rfl⟩ := hentry he hed
  refine ⟨x.origin.key, y.origin.key, hlogged.key x hx, hlogged.key y hy, ?_⟩
  rw [← origin_eq_iff hlogged hx hy (fun heq => hne (heq ▸ rfl))]
  exact ⟨Origin.key_inj (hlogged.plain x hx) (hlogged.plain y hy), congrArg Origin.key⟩

/-- The nodes of `class A { int x; Object f = x -> x; }`: node 6 is the
field `x`, node 13 the parameter of the function. -/
def functionInField : Arena where
  nodes := #[
    ⟨.compilationUnit, ⟨0, 37⟩, 2, none, [⟨.types, 1⟩]⟩,
    ⟨.typeDeclaration false, ⟨0, 37⟩, 2, some 0,
      [⟨.name, 2⟩, ⟨.bodyDeclarations, 3⟩, ⟨.bodyDeclarations, 7⟩]⟩,
    ⟨.simpleName "A", ⟨6, 1⟩, 2, some 1, []⟩,
    ⟨.fieldDeclaration, ⟨10, 6⟩, 2, some 1, [⟨.type, 4⟩, ⟨.fragments, 6⟩]⟩,
    ⟨.primitiveType .int, ⟨10, 3⟩, 2, some 3, []⟩,
    ⟨.simpleName "x", ⟨14, 1⟩, 2, some 6, []⟩,
    ⟨.variableDeclarationFragment 0, ⟨14, 1⟩, 2, some 3, [⟨.name, 5⟩]⟩,
    ⟨.fieldDeclaration, ⟨17, 18⟩, 2, some 1, [⟨.type, 9⟩, ⟨.fragments, 15⟩]⟩,
    ⟨.simpleName "Object", ⟨17, 6⟩, 2, some 9, []⟩,
    ⟨.simpleType, ⟨17, 6⟩, 2, some 7, [⟨.name, 8⟩]⟩,
    ⟨.simpleName "f", ⟨24, 1⟩, 2, some 15, []⟩,
    ⟨.lambdaExpression false, ⟨28, 6⟩, 2, some 15, [⟨.parameters, 13⟩, ⟨.body, 14⟩]⟩,
    ⟨.simpleName "x", ⟨28, 1⟩, 2, some 13, []⟩,
    ⟨.variableDeclarationFragment 0, ⟨28, 1⟩, 2, some 11, [⟨.name, 12⟩]⟩,
    ⟨.simpleName "x", ⟨33, 1⟩, 2, some 11, []⟩,
    ⟨.variableDeclarationFragment 0, ⟨24, 10⟩, 2, some 7, [⟨.name, 10⟩, ⟨.initializer, 11⟩]⟩]
  defaultFlags := 2

/-- The field and the parameter of a function in another field are told
apart by nothing. -/
theorem key?_eq_key?_functionInField :
    Unified.IsTree functionInField 0 ∧
      (∀ site ∈ sites .top (functionInField.tree 0), site.Plain) ∧
      ∃ d ∈ sites .top (functionInField.tree 0), ∃ e ∈ sites .top (functionInField.tree 0),
        (d.id = 6 ∧ e.id = 13 ∧ d.declares = true ∧ e.declares = true) ∧
        SharesName functionInField (Ledger.ofRoot functionInField 0) d e := by
  have htree : Unified.IsTree functionInField 0 := by decide +kernel
  have hplain : ∀ site ∈ sites .top (functionInField.tree 0), site.Plain := by decide +kernel
  have hfield : ∃ d ∈ sites .top (functionInField.tree 0), d.id = 6 ∧ d.declares = true := by
    decide +kernel
  have hparameter : ∃ e ∈ sites .top (functionInField.tree 0), e.id = 13 ∧ e.declares = true := by
    decide +kernel
  obtain ⟨d, hd, hdid, hdd⟩ := hfield
  obtain ⟨e, he, heid, hed⟩ := hparameter
  obtain ⟨k, l, hk, hl, hiff⟩ := key?_eq_key?_iff htree hplain hd he hdd hed
    (by rw [hdid, heid]; decide)
  have hkeys : (Ledger.ofRoot functionInField 0).key? 6 =
      (Ledger.ofRoot functionInField 0).key? 13 := by decide +kernel
  rw [hdid] at hk
  rw [heid, ← hkeys, hk] at hl
  exact ⟨htree, hplain, d, hd, e, he, ⟨hdid, heid, hdd, hed⟩, hiff.1 (Option.some.inj hl)⟩

/-- The parameter of a function in a field has the key of a field, and is
none. -/
theorem key?_parameter_eq_key?_field :
    Unified.IsTree functionInField 0 ∧
      isFieldPlace functionInField 6 = true ∧ isFieldPlace functionInField 13 = false ∧
      (functionInField.parent 13).map functionInField.kind = some (.lambdaExpression false) ∧
      (Ledger.ofRoot functionInField 0).key? 6 = some "LA;.x" ∧
      (Ledger.ofRoot functionInField 0).key? 13 = some "LA;.x" := by
  decide +kernel

end Binding

end TreeBridge
