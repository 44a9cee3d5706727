import Mathlib.Data.List.Forall2
import TreeBridge.Proofs.Comparison.Folding
import TreeBridge.Proofs.Unified.Rendering
/-!
# Joints between literals

A literal may stand for a sum of literals: the text of the sum without its
joints has to be the literal. A joint is the closing quote of one literal,
a plus sign between blanks and the opening quote of the next, and it is
looked for in the text, where its five characters come up in two more
places. The content ` + ` has a quote on either side, and a content that
ends in `\" + ` brings along all but the last quote. Of what is erased
there, a quote or a backslash is left over, and no literal comes out.
-/

namespace TreeBridge

namespace Comparison

open Unified

/-- The closing quote of a literal, the plus sign behind it and the opening
quote of the next. -/
abbrev joint : List Char := ['"', ' ', '+', ' ', '"']

/-- The content of a literal in which every quote and every backslash is
part of an escape. -/
inductive Escaped : List Char → Prop
  | nil : Escaped []
  | plain {c : Char} {cs : List Char} (hquote : c ≠ '"') (hbackslash : c ≠ '\\')
      (h : Escaped cs) : Escaped (c :: cs)
  | escape (c : Char) {cs : List Char} (h : Escaped cs) : Escaped ('\\' :: c :: cs)

/-- A plus sign between blanks, the one content that looks like a joint with
its quotes. -/
abbrev bare : List Char := [' ', '+', ' ']

/-- Whether a content ends in an escaped quote, a plus sign and blanks, so
that a joint ends at its closing quote. -/
def Trails (content : List Char) : Prop :=
  ['"', ' ', '+', ' '] <:+ content

instance : DecidablePred Trails := fun _ => inferInstanceAs (Decidable (_ <:+ _))

/-- The text of a sum of literals behind its first quote. -/
def behindQuote (content : List Char) : List (List Char) → List Char
  | [] => content ++ ['"']
  | next :: rest => content ++ (joint ++ behindQuote next rest)

variable {c : Char} {cs ds rest u v w : List Char}

/-! ## Escapes -/

theorem Escaped.of_cons (h : Escaped (c :: cs)) (hbackslash : c ≠ '\\') : Escaped cs := by
  cases h with
  | plain _ _ h => exact h
  | escape => exact absurd rfl hbackslash

theorem Escaped.of_escape (h : Escaped ('\\' :: c :: cs)) : Escaped cs := by
  cases h with
  | plain _ hbackslash _ => exact absurd rfl hbackslash
  | escape _ h => exact h

theorem not_escaped_quote : ¬Escaped ('"' :: cs) := by
  intro h
  cases h with
  | plain hquote _ _ => exact hquote rfl

theorem not_escaped_backslash : ¬Escaped ['\\'] := by
  intro h
  cases h with
  | plain _ hbackslash _ => exact hbackslash rfl

/-- Whether a content is escaped can be read from the left. -/
instance decidableEscaped : DecidablePred Escaped
  | [] => isTrue .nil
  | [c] =>
    if hquote : c = '"' then isFalse (hquote ▸ not_escaped_quote)
    else if hbackslash : c = '\\' then isFalse (hbackslash ▸ not_escaped_backslash)
    else isTrue (.plain hquote hbackslash .nil)
  | c :: d :: cs =>
    if hquote : c = '"' then isFalse (hquote ▸ not_escaped_quote)
    else if hbackslash : c = '\\' then
      have := decidableEscaped cs
      decidable_of_iff (Escaped cs) (hbackslash ▸ ⟨.escape d, Escaped.of_escape⟩)
    else
      have := decidableEscaped (d :: cs)
      decidable_of_iff (Escaped (d :: cs)) ⟨.plain hquote hbackslash, fun h => h.of_cons hbackslash⟩

theorem Escaped.of_append (h : Escaped u) (huv : Escaped (u ++ v)) : Escaped v := by
  induction h with
  | nil => exact huv
  | plain _ hbackslash _ ih => exact ih (huv.of_cons hbackslash)
  | escape c _ ih => exact ih huv.of_escape

/-- What ends with the quote behind an escaped content goes on from the
start of any other. -/
theorem Escaped.split (hu : Escaped u) (hw : Escaped w) (h : u ++ v = w ++ ['"']) :
    ∃ x, Escaped x ∧ v = x ++ ['"'] := by
  rcases List.append_eq_append_iff.1 h with ⟨x, rfl, hv⟩ | ⟨x, rfl, hx⟩
  · exact ⟨x, hu.of_append hw, hv⟩
  · have hescaped := hw.of_append hu
    cases x with
    | nil => exact ⟨[], .nil, hx.symm⟩
    | cons d ds =>
      obtain ⟨rfl, -⟩ := List.cons.inj hx
      exact absurd hescaped not_escaped_quote

/-! ## Joints -/

theorem erase_nil : Text.erase joint 0 [] = [] := rfl

theorem erase_of_no_joint (h : ¬joint <+: c :: cs) :
    Text.erase joint 0 (c :: cs) = c :: Text.erase joint 0 cs := by
  have hprefix : joint.isPrefixOf (c :: cs) = false := by
    rwa [← Bool.not_eq_true, List.isPrefixOf_iff_prefix]
  rw [Text.erase, hprefix, Bool.and_false, if_neg Bool.false_ne_true]

theorem erase_of_ne (h : c ≠ '"') :
    Text.erase joint 0 (c :: cs) = c :: Text.erase joint 0 cs :=
  erase_of_no_joint fun hprefix => h (List.cons_prefix_cons.1 hprefix).1.symm

theorem erase_joint : Text.erase joint 0 (joint ++ cs) = Text.erase joint 0 cs := by
  simp [Text.erase, List.isPrefixOf]

/-- **Right before an escaped content** a joint begins only if the content
is nothing but a plus sign between blanks. -/
theorem no_joint_of_escaped (hw : Escaped w) (h : w ≠ bare) :
    ¬joint <+: c :: (w ++ '"' :: rest) := by
  intro hprefix
  have htail := (List.cons_prefix_cons.1 hprefix).2
  rcases w with _ | ⟨x, _ | ⟨y, _ | ⟨z, _ | ⟨q, w⟩⟩⟩⟩
  · simp at htail
  · simp at htail
  · simp at htail
  · simp only [List.cons_append, List.cons_prefix_cons] at htail
    obtain ⟨rfl, rfl, rfl, -⟩ := htail
    exact h rfl
  -- the fourth character is no quote, for no escape begins before it
  · simp only [List.cons_append, List.cons_prefix_cons] at htail
    obtain ⟨rfl, rfl, rfl, rfl, -⟩ := htail
    exact not_escaped_quote (((hw.of_cons (by decide)).of_cons (by decide)).of_cons (by decide))

/-! ## One content -/

/-- **A content that does not trail stays**: no joint begins in it. -/
theorem erase_content (hw : Escaped w) (h : ¬Trails w) :
    Text.erase joint 0 (w ++ '"' :: rest) = w ++ Text.erase joint 0 ('"' :: rest) := by
  induction hw with
  | nil => rfl
  | @plain c cs hquote _ hcs ih =>
    have hcs : ¬Trails cs := fun htrails => h (htrails.trans (List.suffix_cons c cs))
    rw [List.cons_append, erase_of_ne hquote, ih hcs, List.cons_append]
  | @escape c cs hcs ih =>
    have hsuffix : cs <:+ '\\' :: c :: cs := ⟨['\\', c], rfl⟩
    have hcs' : ¬Trails cs := fun htrails => h (htrails.trans hsuffix)
    have herase : Text.erase joint 0 (c :: (cs ++ '"' :: rest)) =
        c :: Text.erase joint 0 (cs ++ '"' :: rest) := by
      by_cases hquote : c = '"'
      · -- were the content behind the escaped quote bare, the whole would trail
        refine erase_of_no_joint (no_joint_of_escaped hcs fun heq => h ?_)
        rw [hquote, heq]
        exact ⟨['\\'], rfl⟩
      · exact erase_of_ne hquote
    rw [List.cons_append, List.cons_append, erase_of_ne (by decide), herase, ih hcs',
      List.cons_append, List.cons_append]

/-- A content that trails loses its end, with its closing quote, and a
backslash before it is left over. -/
theorem erase_content_of_trails (hw : Escaped w) (h : Trails w) :
    ∃ u, Escaped u ∧ w = u ++ '\\' :: ['"', ' ', '+', ' '] ∧
      ∀ rest, Text.erase joint 0 (w ++ '"' :: rest) = u ++ '\\' :: Text.erase joint 0 rest := by
  induction hw with
  | nil => exact absurd (List.suffix_nil.1 h) (by decide)
  | @plain c cs hquote hbackslash _ ih =>
    rcases List.suffix_cons_iff.1 h with heq | hcs
    · exact absurd (List.cons.inj heq).1.symm hquote
    · obtain ⟨u, hu, rfl, herase⟩ := ih hcs
      exact ⟨c :: u, .plain hquote hbackslash hu, rfl, fun rest => by
        rw [List.cons_append, erase_of_ne hquote, herase, List.cons_append]⟩
  | @escape c cs hcs ih =>
    rcases List.suffix_cons_iff.1 h with heq | hcons
    · exact absurd (List.cons.inj heq).1 (by decide)
    rcases List.suffix_cons_iff.1 hcons with heq | htrails
    · obtain ⟨rfl, rfl⟩ := List.cons.inj heq
      refine ⟨[], .nil, rfl, fun rest => ?_⟩
      rw [List.nil_append, List.cons_append, erase_of_ne (by decide)]
      exact congrArg _ erase_joint
    · obtain ⟨u, hu, rfl, herase⟩ := ih htrails
      have hne : u ++ '\\' :: ['"', ' ', '+', ' '] ≠ bare := fun heq => by
        simpa using congrArg List.length heq
      refine ⟨'\\' :: c :: u, .escape c hu, rfl, fun rest => ?_⟩
      rw [List.cons_append, List.cons_append, erase_of_ne (by decide),
        erase_of_no_joint (no_joint_of_escaped hcs hne), herase, List.cons_append,
        List.cons_append]

/-! ## The whole sum -/

theorem escaped_bare : Escaped bare :=
  .plain (by decide) (by decide) (.plain (by decide) (by decide)
    (.plain (by decide) (by decide) .nil))

theorem erase_bare : Text.erase joint 0 (bare ++ cs) = bare ++ Text.erase joint 0 cs := by
  rw [List.cons_append, List.cons_append, List.cons_append, erase_of_ne (by decide),
    erase_of_ne (by decide), erase_of_ne (by decide)]
  rfl

theorem erase_quote_end : Text.erase joint 0 ['"'] = ['"'] :=
  erase_of_no_joint fun hprefix => by simp at hprefix

variable {next : List (List Char)}

theorem behindQuote_cons (w d : List Char) (next : List (List Char)) :
    behindQuote w (d :: next) = w ++ '"' :: (bare ++ '"' :: behindQuote d next) :=
  rfl

/-- Behind a content stands its closing quote. -/
theorem exists_behindQuote (w : List Char) (next : List (List Char)) :
    ∃ rest, behindQuote w next = w ++ '"' :: rest := by
  cases next with
  | nil => exact ⟨[], rfl⟩
  | cons d next => exact ⟨_, behindQuote_cons w d next⟩

/-- The joint behind a content that does not trail goes. -/
theorem erase_behindQuote_cons {d : List Char} (hw : Escaped w) (h : ¬Trails w) :
    Text.erase joint 0 (behindQuote w (d :: next)) =
      w ++ Text.erase joint 0 (behindQuote d next) := by
  rw [behindQuote_cons, erase_content hw h]
  exact congrArg _ erase_joint

/-- **Without a trailing content** the joints go and nothing else. -/
theorem erase_behindQuote (hw : Escaped w) (hnext : ∀ d ∈ next, Escaped d)
    (h : ∀ d ∈ w :: next, ¬Trails d) :
    Text.erase joint 0 (behindQuote w next) = (w :: next).flatten ++ ['"'] := by
  induction next generalizing w with
  | nil =>
    rw [behindQuote, erase_content hw (h w List.mem_cons_self), erase_quote_end,
      List.flatten_singleton]
  | cons d next ih =>
    obtain ⟨hd, hnext⟩ := List.forall_mem_cons.1 hnext
    obtain ⟨hwtrails, hrest⟩ := List.forall_mem_cons.1 h
    rw [erase_behindQuote_cons hw hwtrails, ih hd hnext hrest]
    exact (List.append_assoc _ _ _).symm

theorem erase_behindQuote_ne_nil (hw : Escaped w) (hnext : ∀ d ∈ next, Escaped d) :
    Text.erase joint 0 (behindQuote w next) ≠ [] := by
  induction next generalizing w with
  | nil =>
    by_cases htrails : Trails w
    · obtain ⟨u, -, -, herase⟩ := erase_content_of_trails hw htrails
      rw [behindQuote, herase]
      simp
    · rw [behindQuote, erase_content hw htrails, erase_quote_end]
      simp
  | cons d next ih =>
    by_cases htrails : Trails w
    · obtain ⟨u, -, -, herase⟩ := erase_content_of_trails hw htrails
      obtain ⟨rest, hrest⟩ := exists_behindQuote w (d :: next)
      rw [hrest, herase]
      simp
    · obtain ⟨hd, hnext⟩ := List.forall_mem_cons.1 hnext
      rw [erase_behindQuote_cons hw htrails]
      exact List.append_ne_nil_of_right_ne_nil _ (ih hd hnext)

theorem erase_quote_behindQuote (hw : Escaped w) (h : w ≠ bare) :
    Text.erase joint 0 ('"' :: behindQuote w next) =
      '"' :: Text.erase joint 0 (behindQuote w next) := by
  obtain ⟨rest, hrest⟩ := exists_behindQuote w next
  rw [hrest]
  exact erase_of_no_joint (no_joint_of_escaped hw h)

/-- Before a bare content its opening quote begins a joint, which ends at the
closing quote. -/
theorem erase_quote_bare_last : Text.erase joint 0 ('"' :: behindQuote bare []) = [] :=
  (erase_joint : Text.erase joint 0 (joint ++ []) = _)

theorem erase_quote_bare_cons {d : List Char} :
    Text.erase joint 0 ('"' :: behindQuote bare (d :: next)) =
      bare ++ Text.erase joint 0 ('"' :: behindQuote d next) :=
  erase_joint.trans erase_bare

/-- An opening quote that is left over begins no escaped content, and is not
the last. -/
theorem erase_quote_behindQuote_ne_of_ne (hw : Escaped w) (hnext : ∀ d ∈ next, Escaped d)
    (hbare : w ≠ bare) {x : List Char} (hx : Escaped x) :
    Text.erase joint 0 ('"' :: behindQuote w next) ≠ x ++ ['"'] := by
  rw [erase_quote_behindQuote hw hbare]
  intro heq
  cases x with
  | nil => exact erase_behindQuote_ne_nil hw hnext (List.cons.inj heq).2
  | cons c x =>
    obtain ⟨rfl, -⟩ := List.cons.inj heq
    exact not_escaped_quote hx

/-- **Where a text begins with an opening quote too many**, no escaped
content comes out before the last quote. The bare contents in front lose
their quotes, and the quote of the first that is not bare is left over. -/
theorem erase_quote_behindQuote_ne (hw : Escaped w) (hnext : ∀ d ∈ next, Escaped d)
    {x : List Char} (hx : Escaped x) :
    Text.erase joint 0 ('"' :: behindQuote w next) ≠ x ++ ['"'] := by
  induction next generalizing w x with
  | nil =>
    by_cases hbare : w = bare
    · rw [hbare, erase_quote_bare_last]
      simp
    · exact erase_quote_behindQuote_ne_of_ne hw hnext hbare hx
  | cons d next ih =>
    by_cases hbare : w = bare
    · obtain ⟨hd, hnext⟩ := List.forall_mem_cons.1 hnext
      rw [hbare, erase_quote_bare_cons]
      intro heq
      obtain ⟨y, hy, hrest⟩ := escaped_bare.split hx heq
      exact ih hd hnext hy hrest
    · exact erase_quote_behindQuote_ne_of_ne hw hnext hbare hx

/-- **Where a content trails**, no escaped content comes out before the last
quote: the backslash that is left over takes the blank behind it along, and
the next opening quote is left over as well. -/
theorem erase_behindQuote_ne (hw : Escaped w) (hnext : ∀ d ∈ next, Escaped d)
    (h : ∃ d ∈ w :: next, Trails d) {x : List Char} (hx : Escaped x) :
    Text.erase joint 0 (behindQuote w next) ≠ x ++ ['"'] := by
  intro heq
  induction next generalizing w x with
  | nil =>
    obtain ⟨d, hd, htrails⟩ := h
    obtain rfl := List.mem_singleton.1 hd
    obtain ⟨u, hu, -, herase⟩ := erase_content_of_trails hw htrails
    rw [behindQuote, herase] at heq
    obtain ⟨y, -, hy⟩ := hu.split hx heq
    rw [erase_nil, List.singleton_eq_append_iff] at hy
    simp at hy
  | cons d next ih =>
    obtain ⟨hd, hnext⟩ := List.forall_mem_cons.1 hnext
    by_cases htrails : Trails w
    · obtain ⟨u, hu, -, herase⟩ := erase_content_of_trails hw htrails
      rw [behindQuote_cons, herase, erase_bare] at heq
      obtain ⟨y, hy, hrest⟩ := hu.split hx heq
      have hblank : Escaped ('\\' :: bare) := .escape _ (escaped_bare.of_cons (by decide))
      obtain ⟨z, hz, hquote⟩ := hblank.split hy hrest
      exact erase_quote_behindQuote_ne hd hnext hz hquote
    · rw [erase_behindQuote_cons hw htrails] at heq
      obtain ⟨y, hy, hrest⟩ := hw.split hx heq
      obtain ⟨e, he, hetrails⟩ := h
      have hmem : e ∈ d :: next :=
        (List.mem_cons.1 he).resolve_left fun heq => htrails (heq ▸ hetrails)
      exact ih hd hnext ⟨e, hmem, hetrails⟩ hy hrest

/-- **What erasing the joints leaves of a sum.** It is a literal exactly if
the first content is not bare and no content trails, and then it is the
literal of the joined contents. -/
theorem erase_sum_iff (hw : Escaped w) (hnext : ∀ d ∈ next, Escaped d) {x : List Char}
    (hx : Escaped x) :
    Text.erase joint 0 ('"' :: behindQuote w next) = '"' :: (x ++ ['"']) ↔
      x = (w :: next).flatten ∧ w ≠ bare ∧ ∀ d ∈ w :: next, ¬Trails d := by
  by_cases hbare : w = bare
  · subst hbare
    refine iff_of_false (fun heq => ?_) fun h => h.2.1 rfl
    cases next with
    | nil => rw [erase_quote_bare_last] at heq; cases heq
    | cons d next =>
      rw [erase_quote_bare_cons] at heq
      exact absurd (List.cons.inj heq).1 (by decide)
  · rw [erase_quote_behindQuote hw hbare, List.cons.injEq, eq_self, true_and]
    by_cases htrails : ∃ d ∈ w :: next, Trails d
    · refine iff_of_false (erase_behindQuote_ne hw hnext htrails hx) fun h => ?_
      obtain ⟨d, hd, hdtrails⟩ := htrails
      exact h.2.2 d hd hdtrails
    · have hclean : ∀ d ∈ w :: next, ¬Trails d := fun d hd htrail => htrails ⟨d, hd, htrail⟩
      rw [erase_behindQuote hw hnext hclean, List.append_cancel_right_eq]
      exact ⟨fun heq => ⟨heq.symm, hbare, hclean⟩, fun h => h.1.symm⟩

/-! ## Literals and their sums -/

/-- A literal with this content between its quotes, in which every quote and
every backslash is part of an escape. -/
structure IsLiteral (t : Tree) (content : List Char) : Prop where
  kind : t.kind = .stringLiteral (String.ofList ('"' :: (content ++ ['"'])))
  escaped : Escaped content

/-- A flat sum of literals with these contents. -/
structure IsSum (t : Tree) (first second : List Char) (more : List (List Char)) : Prop where
  kind : t.kind = .infixExpression (some .plus)
  left : ∃ l, t.child? .leftOperand = some l ∧ IsLiteral l first
  right : ∃ r, t.child? .rightOperand = some r ∧ IsLiteral r second
  extended : List.Forall₂ IsLiteral (t.list .extendedOperands) more

namespace IsLiteral

variable {t : Tree} {content : List Char}

theorem toList_render (h : IsLiteral t content) :
    t.render.toList = '"' :: (content ++ ['"']) := by
  rw [Tree.render_eq, h.kind]
  exact String.toList_ofList

theorem foldedString? (h : IsLiteral t content) :
    foldedString? t = some (String.ofList content) := by
  rw [foldedString?_of_literal h.kind, unquoted?, String.toList_ofList]
  simp

theorem isStringLiteral (h : IsLiteral t content) : isStringLiteral t = true := by
  rw [Comparison.isStringLiteral, h.kind]

end IsLiteral

theorem map_foldedString?_of_literals {ts : List Tree} {contents : List (List Char)}
    (h : List.Forall₂ IsLiteral ts contents) :
    ts.map foldedString? = (contents.map String.ofList).map some := by
  induction h with
  | nil => rfl
  | cons hliteral _ ih => rw [List.map_cons, hliteral.foldedString?, ih]; rfl

theorem escaped_of_literals {ts : List Tree} {contents : List (List Char)}
    (h : List.Forall₂ IsLiteral ts contents) : ∀ content ∈ contents, Escaped content := by
  induction h with
  | nil => exact List.forall_mem_nil _
  | cons hliteral _ ih => exact List.forall_mem_cons.2 ⟨hliteral.escaped, ih⟩

theorem all_isStringLiteral_of_literals {ts : List Tree} {contents : List (List Char)}
    (h : List.Forall₂ IsLiteral ts contents) : ts.all isStringLiteral = true := by
  induction h with
  | nil => rfl
  | cons hliteral _ ih => rw [List.all_cons, hliteral.isStringLiteral, ih]; rfl

/-- The texts of literals, each behind a plus sign. -/
theorem toList_join_of_literals {ts : List Tree} {contents : List (List Char)}
    (h : List.Forall₂ IsLiteral ts contents) :
    (String.join ((ts.map Tree.render).map fun text => " + " ++ text ++ "")).toList =
      contents.flatMap fun content => bare ++ '"' :: (content ++ ['"']) := by
  induction h with
  | nil => rfl
  | @cons t content _ _ hliteral _ ih =>
    rw [List.map_cons, List.map_cons, String.join_cons, String.toList_append, ih,
      List.flatMap_cons, String.append_empty, String.toList_append, hliteral.toList_render]
    rfl

theorem append_flatMap_eq_behindQuote (w : List Char) (next : List (List Char)) :
    w ++ '"' :: (next.flatMap fun content => bare ++ '"' :: (content ++ ['"'])) =
      behindQuote w next := by
  induction next generalizing w with
  | nil => rfl
  | cons d next ih =>
    rw [behindQuote, ← ih d, List.flatMap_cons]
    simp

namespace IsSum

variable {t : Tree} {first second : List Char} {more : List (List Char)}

theorem escaped (h : IsSum t first second more) :
    Escaped first ∧ ∀ content ∈ second :: more, Escaped content := by
  obtain ⟨l, -, hleft⟩ := h.left
  obtain ⟨r, -, hright⟩ := h.right
  exact ⟨hleft.escaped, List.forall_mem_cons.2 ⟨hright.escaped, escaped_of_literals h.extended⟩⟩

/-- The text of a sum begins with a quote, and behind it stand the contents
with the joints between them. -/
theorem toList_render (h : IsSum t first second more) :
    t.render.toList = '"' :: behindQuote first (second :: more) := by
  obtain ⟨l, hl, hleft⟩ := h.left
  obtain ⟨r, hr, hright⟩ := h.right
  have htext : t.render = l.render ++ " " ++ "+" ++ " " ++ r.render ++
      String.join (((t.list .extendedOperands).map Tree.render).map
        fun text => " + " ++ text ++ "") := by
    rw [Tree.render_eq, h.kind, ← Tree.texts_parts]
    change t.parts.opt .leftOperand ++ " " ++ "+" ++ " " ++ t.parts.opt .rightOperand ++ _ = _
    rw [Tree.opt_parts, Tree.opt_parts, hl, hr]
    rfl
  rw [htext, ← append_flatMap_eq_behindQuote, List.flatMap_cons,
    ← toList_join_of_literals h.extended]
  simp only [String.toList_append, hleft.toList_render, hright.toList_render]
  simp

/-- The value of a sum is its contents, one behind the other. -/
theorem foldedString? (h : IsSum t first second more) :
    foldedString? t = some (String.ofList (first :: second :: more).flatten) := by
  obtain ⟨l, hl, hleft⟩ := h.left
  obtain ⟨r, hr, hright⟩ := h.right
  have hmore := allSome?_eq_some_iff.2 (map_foldedString?_of_literals h.extended)
  rw [foldedString?_of_sum h.kind hl hr, hleft.foldedString?, hright.foldedString?, hmore]
  simp [String.ext_iff, String.toList_join, List.flatMap_map]

theorem isLiteralConcatenation (h : IsSum t first second more) :
    isLiteralConcatenation t = true := by
  obtain ⟨l, hl, hleft⟩ := h.left
  obtain ⟨r, hr, hright⟩ := h.right
  rw [Comparison.isLiteralConcatenation, h.kind, operands, hl, hr]
  simp [hleft.isStringLiteral, hright.isStringLiteral, all_isStringLiteral_of_literals h.extended]

theorem toList_joinedText (h : IsSum t first second more) :
    (joinedText t).toList = Text.erase joint 0 ('"' :: behindQuote first (second :: more)) := by
  rw [joinedText, String.toList_ofList, h.toList_render]
  rfl

end IsSum

/-! ## A literal and a sum -/

section

variable {l c : Tree} {content first second : List Char} {more : List (List Char)}
variable (hl : IsLiteral l content) (hc : IsSum c first second more)

include hl hc

theorem foldedString?_eq_iff :
    foldedString? l = foldedString? c ↔ content = (first :: second :: more).flatten := by
  rw [hl.foldedString?, hc.foldedString?, Option.some.injEq, String.ofList_inj]

/-- A literal may stand for a sum if its content is that of the sum and the
joints between the operands are the only ones in its text. -/
theorem toleratedOneWay_iff :
    toleratedOneWay l c = true ↔ content = (first :: second :: more).flatten ∧ first ≠ bare ∧
      ∀ d ∈ first :: second :: more, ¬Trails d := by
  rw [toleratedOneWay, hl.kind, hc.kind]
  dsimp only
  rw [hc.isLiteralConcatenation, Bool.true_and, beq_iff_eq, ← String.toList_inj,
    hc.toList_joinedText, String.toList_ofList]
  exact erase_sum_iff hc.escaped.1 hc.escaped.2 hl.escaped

end

/-- **When a literal may stand for a sum.** It does exactly if both have one
value, the first content of the sum is not ` + ` and no content of it ends
in `\" + `. -/
theorem tolerated_iff_foldedString?_eq {l c : Tree} {content first second : List Char}
    {more : List (List Char)} (hl : IsLiteral l content) (hc : IsSum c first second more) :
    tolerated l c = true ↔ foldedString? l = foldedString? c ∧ first ≠ bare ∧
      ∀ d ∈ first :: second :: more, ¬Trails d := by
  have hother : toleratedOneWay c l = false := by rw [toleratedOneWay, hl.kind, hc.kind]
  rw [tolerated, hother, Bool.or_false, toleratedOneWay_iff hl hc, foldedString?_eq_iff hl hc]

/-- A literal with this content. -/
def quoted (content : List Char) : Tree :=
  literal (String.ofList ('"' :: (content ++ ['"'])))

theorem isLiteral_quoted {content : List Char} (h : Escaped content) :
    IsLiteral (quoted content) content :=
  ⟨rfl, h⟩

theorem isSum_sum {first second : List Char} (hfirst : Escaped first) (hsecond : Escaped second) :
    IsSum (sum (quoted first) (quoted second)) first second [] where
  kind := rfl
  left := ⟨_, rfl, isLiteral_quoted hfirst⟩
  right := ⟨_, rfl, isLiteral_quoted hsecond⟩
  extended := .nil

/-- The literal `"a\" + b"` stands for the sum of `"a\""` and `" + b"`: no
content of the sum has the escaped quote with the plus sign behind it. -/
theorem tolerated_escapedQuote :
    IsLiteral (quoted "a\\\" + b".toList) "a\\\" + b".toList ∧
      IsSum (sum (quoted "a\\\"".toList) (quoted " + b".toList))
        "a\\\"".toList " + b".toList [] ∧
      tolerated (quoted "a\\\" + b".toList)
        (sum (quoted "a\\\"".toList) (quoted " + b".toList)) = true := by
  have hl : IsLiteral (quoted "a\\\" + b".toList) "a\\\" + b".toList :=
    isLiteral_quoted (by decide)
  have hc : IsSum (sum (quoted "a\\\"".toList) (quoted " + b".toList))
      "a\\\"".toList " + b".toList [] := isSum_sum (by decide) (by decide)
  refine ⟨hl, hc, (tolerated_iff_foldedString?_eq hl hc).2 ⟨?_, by decide, by decide⟩⟩
  rw [hl.foldedString?, hc.foldedString?]
  rfl

/-- Two sums that have the value of a literal, which may not stand for
them: one that begins with a plus sign between blanks, and one with a
content that ends in an escaped quote and such a plus sign. -/
theorem tolerated_lostQuote :
    foldedString? (quoted " + a".toList) =
        foldedString? (sum (quoted " + ".toList) (quoted "a".toList)) ∧
      tolerated (quoted " + a".toList)
        (sum (quoted " + ".toList) (quoted "a".toList)) = false ∧
      foldedString? (quoted "\\\" + a".toList) =
        foldedString? (sum (quoted "\\\" + ".toList) (quoted "a".toList)) ∧
      tolerated (quoted "\\\" + a".toList)
        (sum (quoted "\\\" + ".toList) (quoted "a".toList)) = false := by
  decide +kernel

end Comparison

end TreeBridge
