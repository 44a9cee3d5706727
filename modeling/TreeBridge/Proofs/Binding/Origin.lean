import Mathlib.Data.List.Basic
import TreeBridge.Binding.Declaration
/-!
# What keys are put together from

The key of a type or of a variable is put together from names, numbers
and the key around it. Names that hold no separator and start with no
digit can be told apart in it again, so that a key is read in one way
only: its last separator says what it is the key of.
-/

namespace TreeBridge

namespace Binding

/-! ## Last separators -/

/-- A list is split in one way at its last separator. -/
theorem eq_of_append_cons_eq {c d : Char} {xs xs' ys ys' : List Char}
    (h : xs ++ c :: ys = xs' ++ d :: ys') (hys : d ∉ ys) (hys' : c ∉ ys') :
    xs = xs' ∧ c = d ∧ ys = ys' := by
  -- a longer front would hold the other separator in the tail
  obtain ⟨zs, rfl, hzs⟩ | ⟨zs, rfl, hzs⟩ := List.append_eq_append_iff.1 h
  · cases zs with
    | nil => simpa using hzs
    | cons z zs =>
      rw [List.cons_append, List.cons.injEq] at hzs
      exact absurd (hzs.2 ▸ by simp) hys
  · cases zs with
    | nil => simpa [eq_comm] using hzs
    | cons z zs =>
      rw [List.cons_append, List.cons.injEq] at hzs
      exact absurd (hzs.2 ▸ by simp) hys'

/-! ## Numbers before names -/

/-- The digits of a number, if there is one. -/
def numeral : Option Nat → List Char
  | none => []
  | some n => Nat.toDigits 10 n

theorem isDigit_of_mem_numeral {n : Option Nat} {c : Char} (h : c ∈ numeral n) :
    c.isDigit = true := by
  cases n with
  | none => cases h
  | some n => exact Nat.isDigit_of_mem_toDigits (by decide) (by decide) h

theorem notMem_numeral {n : Option Nat} {c : Char} (h : c.isDigit = false) : c ∉ numeral n := by
  intro hmem
  rw [isDigit_of_mem_numeral hmem] at h
  cases h

theorem numeral_injective : Function.Injective numeral := by
  intro n m h
  cases n with
  | none =>
    cases m with
    | none => rfl
    | some m => exact absurd h.symm Nat.toDigits_ne_nil
  | some n =>
    cases m with
    | none => exact absurd h Nat.toDigits_ne_nil
    | some m =>
      have hread := congrArg (fun digits => Nat.ofDigitChars 10 digits 0) h
      simp only [numeral, Nat.ofDigitChars_toDigits (b := 10) (by decide) (by decide)] at hread
      rw [hread]

/-- A number and what follows it without a digit are read back. -/
theorem eq_of_numeral_append_eq {n m : Option Nat} {xs ys : List Char}
    (hxs : xs.head?.any Char.isDigit = false) (hys : ys.head?.any Char.isDigit = false)
    (h : numeral n ++ xs = numeral m ++ ys) : n = m ∧ xs = ys := by
  have hdigits {n : Option Nat} {xs : List Char} (hxs : xs.head?.any Char.isDigit = false) :
      (numeral n ++ xs).takeWhile Char.isDigit = numeral n := by
    rw [List.takeWhile_append_of_pos fun c hc => isDigit_of_mem_numeral hc]
    cases xs with
    | nil => rw [List.takeWhile_nil, List.append_nil]
    | cons c xs =>
      have hc : ¬ c.isDigit = true := by simpa using hxs
      rw [List.takeWhile_cons_of_neg hc, List.append_nil]
  have hn : numeral n = numeral m := by rw [← hdigits hxs, h, hdigits hys]
  rw [hn] at h
  exact ⟨numeral_injective hn, List.append_cancel_left h⟩

/-! ## Names and keys -/

/-- A name without separators that starts with no digit, as identifiers
are. -/
structure Plain (name : String) : Prop where
  clear : ∀ c ∈ ['#', ';', '.', '/'], c ∉ name.toList
  start : name.toList.head?.any Char.isDigit = false

instance (name : String) : Decidable (Plain name) :=
  decidable_of_iff ((['#', ';', '.', '/'].all fun c => decide (c ∉ name.toList)) = true ∧
      name.toList.head?.any Char.isDigit = false)
    ⟨fun h => ⟨fun c hc => of_decide_eq_true (List.all_eq_true.1 h.1 c hc), h.2⟩,
      fun h => ⟨List.all_eq_true.2 fun c hc => decide_eq_true (h.clear c hc), h.start⟩⟩

/-- The binary name of a type that no type is around. -/
def unitName (package name : String) : String :=
  if package.isEmpty then name else package ++ "/" ++ name

/-- The binary name of a type inside another, numbered or not. -/
def innerName (outer : String) : Option Nat → String → String
  | none, name => outer ++ "$" ++ name
  | some n, name => outer ++ "$" ++ toString n ++ name

/-- The key of a variable inside a member, numbered or not. -/
def localKey (member : String) (name : String) : Option Nat → String
  | none => member ++ "#" ++ name
  | some n => member ++ "#" ++ name ++ "#" ++ toString n

theorem toList_typeKey (binary : String) :
    (typeKey binary).toList = ('L' :: binary.toList) ++ [';'] := by
  simp [typeKey]

theorem typeKey_injective : Function.Injective typeKey := by
  intro x y h
  have hlist := congrArg String.toList h
  rw [toList_typeKey, toList_typeKey, List.cons_append, List.cons_append, List.cons.injEq] at hlist
  exact String.toList_injective (List.append_cancel_right hlist.2)

theorem toList_memberKey (owner name : String) :
    (memberKey owner name).toList = (typeKey owner).toList ++ '.' :: name.toList := by
  simp [memberKey]

theorem toList_innerName (outer : String) (number : Option Nat) (name : String) :
    (innerName outer number name).toList =
      outer.toList ++ '$' :: (numeral number ++ name.toList) := by
  cases number <;> simp [innerName, numeral]

theorem toList_localKey_none (member name : String) :
    (localKey member name none).toList = member.toList ++ '#' :: name.toList := by
  simp [localKey]

theorem toList_localKey_some (member name : String) (n : Nat) :
    (localKey member name (some n)).toList =
      (localKey member name none).toList ++ '#' :: numeral (some n) := by
  simp [localKey, numeral]

section Names

variable {name name' : String} (h : Plain name) (h' : Plain name')

include h h'

theorem memberKey_inj {owner owner' : String}
    (heq : memberKey owner name = memberKey owner' name') :
    owner = owner' ∧ name = name' := by
  have hlist := congrArg String.toList heq
  rw [toList_memberKey, toList_memberKey] at hlist
  obtain ⟨howner, -, hname⟩ :=
    eq_of_append_cons_eq hlist (h.clear _ (by simp)) (h'.clear _ (by simp))
  exact ⟨typeKey_injective (String.toList_injective howner), String.toList_injective hname⟩

theorem innerName_inj {outer outer' : String} {number number' : Option Nat}
    (hdollar : '$' ∉ name.toList) (hdollar' : '$' ∉ name'.toList)
    (heq : innerName outer number name = innerName outer' number' name') :
    outer = outer' ∧ number = number' ∧ name = name' := by
  have hlist := congrArg String.toList heq
  rw [toList_innerName, toList_innerName] at hlist
  obtain ⟨houter, -, hrest⟩ := eq_of_append_cons_eq hlist
    (by simp [notMem_numeral, hdollar]) (by simp [notMem_numeral, hdollar'])
  obtain ⟨hnumber, hname⟩ := eq_of_numeral_append_eq h.start h'.start hrest
  exact ⟨String.toList_injective houter, hnumber, String.toList_injective hname⟩

theorem unitName_inj {package package' : String}
    (heq : unitName package name = unitName package' name') :
    package = package' ∧ name = name' := by
  have hslash := h.clear '/' (by simp)
  have hslash' := h'.clear '/' (by simp)
  have hlist := congrArg String.toList heq
  unfold unitName at hlist
  split at hlist <;> split at hlist
  · next he he' =>
    rw [String.isEmpty_iff] at he he'
    exact ⟨he.trans he'.symm, String.toList_injective hlist⟩
  · rw [hlist] at hslash
    simp at hslash
  · rw [← hlist] at hslash'
    simp at hslash'
  · simp only [String.toList_append, List.append_assoc] at hlist
    obtain ⟨hpackage, -, hname⟩ := eq_of_append_cons_eq hlist hslash hslash'
    exact ⟨String.toList_injective hpackage, String.toList_injective hname⟩

omit h in
/-- The last separator of a binary name tells whether a type is inside
another. -/
theorem unitName_ne_innerName {package outer : String} {number : Option Nat}
    (hdollar : '$' ∉ name.toList) :
    unitName package name ≠ innerName outer number name' := by
  intro heq
  have hlist := congrArg String.toList heq
  rw [toList_innerName] at hlist
  unfold unitName at hlist
  split at hlist
  · rw [hlist] at hdollar
    simp at hdollar
  · have hslash : '/' ∉ numeral number ++ name'.toList := by
      rw [List.mem_append, not_or]
      exact ⟨notMem_numeral (by decide), h'.clear _ (by simp)⟩
    simp only [String.toList_append, List.append_assoc] at hlist
    exact absurd (eq_of_append_cons_eq hlist hdollar hslash).2.1 (by decide)

/-- What stands behind the last separator in the key of a local variable:
the name, or the number. -/
theorem localKey_inj {member member' : String} {number number' : Option Nat}
    (heq : localKey member name number = localKey member' name' number') :
    member = member' ∧ name = name' ∧ number = number' := by
  have hlist := congrArg String.toList heq
  have hhash := h.clear '#' (by simp)
  have hhash' := h'.clear '#' (by simp)
  -- a name does not read as a number
  have hname {name : String} (h : Plain name) {n : Nat} : name.toList ≠ numeral (some n) := by
    intro hdigits
    obtain ⟨c, cs, hcs⟩ := List.exists_cons_of_ne_nil (l := numeral (some n)) Nat.toDigits_ne_nil
    have hc : c.isDigit = true := isDigit_of_mem_numeral (n := some n) (by simp [hcs])
    have hstart := h.start
    rw [hdigits, hcs, List.head?_cons, Option.any_some, hc] at hstart
    cases hstart
  cases number with
  | none =>
    rw [toList_localKey_none] at hlist
    cases number' with
    | none =>
      rw [toList_localKey_none] at hlist
      obtain ⟨hmember, -, hname⟩ := eq_of_append_cons_eq hlist hhash hhash'
      exact ⟨String.toList_injective hmember, String.toList_injective hname, rfl⟩
    | some n' =>
      rw [toList_localKey_some] at hlist
      exact absurd (eq_of_append_cons_eq hlist hhash (notMem_numeral (by decide))).2.2 (hname h)
  | some n =>
    rw [toList_localKey_some] at hlist
    cases number' with
    | none =>
      rw [toList_localKey_none member'] at hlist
      exact absurd (eq_of_append_cons_eq hlist (notMem_numeral (by decide)) hhash').2.2.symm
        (hname h')
    | some n' =>
      rw [toList_localKey_some] at hlist
      obtain ⟨hbase, -, hnumber⟩ := eq_of_append_cons_eq hlist (notMem_numeral (by decide))
        (notMem_numeral (by decide))
      rw [toList_localKey_none, toList_localKey_none] at hbase
      obtain ⟨hmember, -, hname⟩ := eq_of_append_cons_eq hbase hhash hhash'
      exact ⟨String.toList_injective hmember, String.toList_injective hname,
        numeral_injective hnumber⟩

end Names

/-! ## Origins -/

/-- What the key of a type or of a variable is put together from. -/
inductive Origin
  /-- A type that no type is around. -/
  | unitType (package name : String)
  /-- A type inside another, numbered if it is local or anonymous. -/
  | innerType (outer : String) (number : Option Nat) (name : String)
  /-- A variable that no type is around. -/
  | looseVariable (name : String)
  /-- A variable that is held by a type. -/
  | memberVariable (owner name : String)
  /-- A variable inside a member, numbered if it is not the first. -/
  | localVariable (member name : String) (number : Option Nat)
  deriving DecidableEq

namespace Origin

/-- The key that is put together from an origin. -/
def key : Origin → String
  | unitType package name => typeKey (unitName package name)
  | innerType outer number name => typeKey (innerName outer number name)
  | looseVariable name => name
  | memberVariable owner name => memberKey owner name
  | localVariable member name number => localKey member name number

/-- An origin whose names are plain. The names of types have no dollar
sign either, which is what joins them. -/
def Plain : Origin → Prop
  | unitType _ name | innerType _ _ name => Binding.Plain name ∧ '$' ∉ name.toList
  | looseVariable name | memberVariable _ name | localVariable _ name _ => Binding.Plain name

/-- An origin that is numbered or kept apart by its member, so that no
name alone leads to it. -/
def isPrivate : Origin → Bool
  | innerType _ number _ => number.isSome
  | localVariable .. => true
  | _ => false

/-- The last separator of a key. -/
def separator? : Origin → Option Char
  | unitType .. | innerType .. => some ';'
  | looseVariable _ => none
  | memberVariable .. => some '.'
  | localVariable .. => some '#'

/-- The separators that keys of types and variables end in. -/
def separators : List Char :=
  ['#', ';', '.']

theorem key_split {o : Origin} (h : o.Plain) {c : Char} (hc : o.separator? = some c) :
    ∃ xs ys, o.key.toList = xs ++ c :: ys ∧ ∀ d ∈ separators, d ∉ ys := by
  have hname {name : String} (h : Binding.Plain name) : ∀ d ∈ separators, d ∉ name.toList := by
    intro d hd
    exact h.clear d (by simp only [separators, List.mem_cons] at hd ⊢; tauto)
  cases o <;> cases hc
  case unitType package name => exact ⟨_, [], toList_typeKey _, by simp⟩
  case innerType outer number name => exact ⟨_, [], toList_typeKey _, by simp⟩
  case memberVariable owner name => exact ⟨_, _, toList_memberKey _ _, hname h⟩
  case localVariable member name number =>
    cases number with
    | none => exact ⟨_, _, toList_localKey_none _ _, hname h⟩
    | some n =>
      refine ⟨_, _, toList_localKey_some _ _ n, fun d hd => notMem_numeral ?_⟩
      simp only [separators, List.mem_cons, List.not_mem_nil, or_false] at hd
      rcases hd with rfl | rfl | rfl <;> rfl

theorem notMem_key_of_separator?_eq_none {o : Origin} (h : o.Plain) (hnone : o.separator? = none) :
    ∀ d ∈ separators, d ∉ o.key.toList := by
  cases o <;> cases hnone
  intro d hd
  exact Binding.Plain.clear h d (by simp only [separators, List.mem_cons] at hd ⊢; tauto)

theorem separator?_mem {o : Origin} {c : Char} (h : o.separator? = some c) : c ∈ separators := by
  cases o <;> cases h <;> decide

/-- Equal keys end in the same separator. -/
theorem separator?_eq_of_key_eq {o p : Origin} (ho : o.Plain) (hp : p.Plain)
    (heq : o.key = p.key) : o.separator? = p.separator? := by
  cases hc : o.separator? with
  | none =>
    cases hd : p.separator? with
    | none => rfl
    | some d =>
      obtain ⟨xs, ys, hsplit, -⟩ := key_split hp hd
      have hnot := notMem_key_of_separator?_eq_none ho hc d (separator?_mem hd)
      rw [heq, hsplit] at hnot
      simp at hnot
  | some c =>
    obtain ⟨xs, ys, hsplit, hys⟩ := key_split ho hc
    cases hd : p.separator? with
    | none =>
      have hnot := notMem_key_of_separator?_eq_none hp hd c (separator?_mem hc)
      rw [← heq, hsplit] at hnot
      simp at hnot
    | some d =>
      obtain ⟨xs', ys', hsplit', hys'⟩ := key_split hp hd
      rw [heq, hsplit'] at hsplit
      rw [(eq_of_append_cons_eq hsplit (hys' c (separator?_mem hc))
        (hys d (separator?_mem hd))).2.1]

/-- **A key has one origin.** -/
theorem key_inj {o p : Origin} (ho : o.Plain) (hp : p.Plain) (heq : o.key = p.key) : o = p := by
  have hsep := separator?_eq_of_key_eq ho hp heq
  cases o <;> cases p <;> first | cases hsep; done | skip
  case unitType.unitType =>
    obtain ⟨rfl, rfl⟩ := unitName_inj ho.1 hp.1 (typeKey_injective heq)
    rfl
  case unitType.innerType =>
    exact absurd (typeKey_injective heq) (unitName_ne_innerName hp.1 ho.2)
  case innerType.unitType =>
    exact absurd (typeKey_injective heq).symm (unitName_ne_innerName ho.1 hp.2)
  case innerType.innerType =>
    obtain ⟨rfl, rfl, rfl⟩ := innerName_inj ho.1 hp.1 ho.2 hp.2 (typeKey_injective heq)
    rfl
  case looseVariable.looseVariable => exact congrArg looseVariable heq
  case memberVariable.memberVariable =>
    obtain ⟨rfl, rfl⟩ := memberKey_inj ho hp heq
    rfl
  case localVariable.localVariable =>
    obtain ⟨rfl, rfl, rfl⟩ := localKey_inj ho hp heq
    rfl

end Origin

end Binding

end TreeBridge
