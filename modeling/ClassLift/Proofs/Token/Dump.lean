import ClassLift.Literal.Quotation
import ClassLift.Proofs.Token.Listing

set_option autoImplicit false

/-! # Dumps

The nested form of a tree determines its shape, and so does the compact form where no kind has a `<`
in it. Both are read from the front, whatever follows: a quoted text tells where it ends
(`quoted_inj`), so that after the value of a token one sees whether children follow, and after each
child whether another one does.

For slots this means that the texts are the same if and only if the slots are alike
(`Store.write_eq_iff_alike`).
-/

namespace ClassLift

variable {s : Store} {x y : Slot} {rest rest' : List Char}

/-! ## Quoted texts -/

theorem toList_quoted (a : String) : (quoted a).toList = quotedChars a.toList :=
  String.toList_ofList

/-- What is quoted is read off the front of a text, whatever follows it. -/
theorem quotedChars_inj {cs ds : List Char} (h : quotedChars cs ++ rest = quotedChars ds ++ rest') :
    cs = ds ∧ rest = rest' := by
  have hq := quoteFor_eq cs
  simp only [quotedChars, List.cons_append, List.append_assoc, List.nil_append,
    List.cons.injEq] at h
  obtain ⟨hquote, hbody⟩ := h
  rw [← hquote] at hbody
  -- the body ends at the first quote that is not escaped
  have hparts : some (quotedBody (quoteFor cs) cs, rest) =
      some (quotedBody (quoteFor cs) ds, rest') := by
    rw [← Literal.shortBody_quotedBody hq cs rest, ← Literal.shortBody_quotedBody hq ds rest', hbody]
  obtain ⟨hsame, hrest⟩ := Prod.mk.inj (Option.some.inj hparts)
  have hpoints : some (cs.map Char.toNat) = some (ds.map Char.toNat) := by
    rw [← Literal.unescape_quotedBody hq cs, ← Literal.unescape_quotedBody hq ds, hsame]
  exact ⟨(List.map_inj_right fun c d => Char.toNat_inj.mp).mp (Option.some.inj hpoints), hrest⟩

theorem quoted_inj {a b : String} (h : (quoted a).toList ++ rest = (quoted b).toList ++ rest') :
    a = b ∧ rest = rest' := by
  rw [toList_quoted, toList_quoted] at h
  obtain ⟨hchars, hrest⟩ := quotedChars_inj h
  exact ⟨String.toList_inj.mp hchars, hrest⟩

namespace Tree

/-! ## The nested form is read in one way -/

/-- The nested form of a token up to its value. -/
def nestedHead (depth : Int) (l : Label) : List Char :=
  '\n' :: ((repeated "    " depth).toList ++ ("TOKEN(".toList ++
    ((quoted l.kind).toList ++ (',' :: ' ' :: (quoted l.value).toList))))

theorem nestedHead_inj {depth : Int} {l m : Label}
    (h : nestedHead depth l ++ rest = nestedHead depth m ++ rest') :
    (l.kind = m.kind ∧ l.value = m.value) ∧ rest = rest' := by
  simp only [nestedHead, List.cons_append, List.append_assoc, List.cons.injEq,
    List.append_cancel_left_eq, true_and] at h
  obtain ⟨hkind, h⟩ := quoted_inj h
  obtain ⟨hvalue, h⟩ := quoted_inj (List.cons.inj (List.cons.inj h).2).2
  exact ⟨⟨hkind, hvalue⟩, h⟩

theorem toList_nested_leaf (depth : Int) (id : TokenId) (l : Label) (ks : List Tree) :
    (nested depth (node id l [] ks)).toList ++ rest = nestedHead depth l ++ ')' :: rest := by
  simp [nested, nestedHead]

theorem toList_nested_inner (depth : Int) (id : TokenId) (l : Label) (c : Tree) (cs ks : List Tree) :
    (nested depth (node id l (c :: cs) ks)).toList ++ rest =
      nestedHead depth l ++ ',' :: ' ' :: ((nested (depth + 1) c).toList ++
        ((nestedRest (depth + 1) cs).toList ++ ')' :: rest)) := by
  simp [nested, nestedHead]

theorem toList_nestedRest_cons (depth : Int) (t : Tree) (ts : List Tree) :
    (nestedRest depth (t :: ts)).toList ++ rest =
      ',' :: ' ' :: ((nested depth t).toList ++ ((nestedRest depth ts).toList ++ rest)) := by
  simp [nestedRest]

mutual

theorem nested_inj {rest rest' : List Char} (depth : Int) :
    ∀ t u : Tree, t.whole = true → u.whole = true →
      (t.nested depth).toList ++ rest = (u.nested depth).toList ++ rest' →
        t.shape = u.shape ∧ rest = rest'
  | absent, _ => by
      intro ht
      cases ht
  | node _ _ _ _, absent => by
      intro _ hu
      cases hu
  | node _ l [] _, node _ m [] _ => by
      intro _ _ h
      rw [toList_nested_leaf, toList_nested_leaf] at h
      obtain ⟨⟨hkind, hvalue⟩, h⟩ := nestedHead_inj h
      exact ⟨by rw [shape, shape, hkind, hvalue], (List.cons.inj h).2⟩
  | node _ l [] _, node _ m (d :: ds) _ => by
      intro _ _ h
      -- a bracket follows the value of the one token, a comma that of the other
      rw [toList_nested_leaf, toList_nested_inner] at h
      exact absurd (List.cons.inj (nestedHead_inj h).2).1 (by decide)
  | node _ l (c :: cs) _, node _ m [] _ => by
      intro _ _ h
      rw [toList_nested_leaf, toList_nested_inner] at h
      exact absurd (List.cons.inj (nestedHead_inj h).2).1 (by decide)
  | node _ l (c :: cs) _, node _ m (d :: ds) _ => by
      intro ht hu h
      rw [whole, allWhole, Bool.and_eq_true] at ht hu
      rw [toList_nested_inner, toList_nested_inner] at h
      obtain ⟨⟨hkind, hvalue⟩, h⟩ := nestedHead_inj h
      have hchildren := (List.cons.inj (List.cons.inj h).2).2
      obtain ⟨hfirst, h⟩ := nested_inj (depth + 1) c d ht.1 hu.1 hchildren
      obtain ⟨hrest, h⟩ := nestedRest_inj (depth + 1) cs ds ht.2 hu.2 h
      exact ⟨by rw [shape, shape, shapes, shapes, hkind, hvalue, hfirst, hrest], h⟩

/-- The further children end where a bracket follows. -/
theorem nestedRest_inj {rest rest' : List Char} (depth : Int) :
    ∀ ts us : List Tree, allWhole ts = true → allWhole us = true →
      (nestedRest depth ts).toList ++ ')' :: rest = (nestedRest depth us).toList ++ ')' :: rest' →
        shapes ts = shapes us ∧ rest = rest'
  | [], [] => by
      intro _ _ h
      exact ⟨rfl, (List.cons.inj h).2⟩
  | [], u :: us => by
      intro _ _ h
      rw [toList_nestedRest_cons] at h
      exact absurd (List.cons.inj h).1 (by decide)
  | t :: ts, [] => by
      intro _ _ h
      rw [toList_nestedRest_cons] at h
      exact absurd (List.cons.inj h).1 (by decide)
  | t :: ts, u :: us => by
      intro hts hus h
      rw [allWhole, Bool.and_eq_true] at hts hus
      rw [toList_nestedRest_cons, toList_nestedRest_cons] at h
      have hchild := (List.cons.inj (List.cons.inj h).2).2
      obtain ⟨hfirst, h⟩ := nested_inj depth t u hts.1 hus.1 hchild
      obtain ⟨hrest, h⟩ := nestedRest_inj depth ts us hts.2 hus.2 h
      exact ⟨by rw [shapes, shapes, hfirst, hrest], h⟩

end

mutual

/-- Nothing of a tree but its shape is written in the nested form. -/
theorem nested_congr (depth : Int) : ∀ t u : Tree, t.shape = u.shape →
    t.nested depth = u.nested depth
  | absent, absent, _ => rfl
  | absent, node _ _ _ _, h => by cases h
  | node _ _ _ _, absent, h => by cases h
  | node _ _ [] _, node _ _ [] _, h => by
      rw [shape, shape, Shape.token.injEq] at h
      rw [nested, nested, h.1, h.2.1]
  | node _ _ [] _, node _ _ (_ :: _) _, h => by
      rw [shape, shape, Shape.token.injEq] at h
      cases h.2.2
  | node _ _ (_ :: _) _, node _ _ [] _, h => by
      rw [shape, shape, Shape.token.injEq] at h
      cases h.2.2
  | node _ _ (c :: cs) _, node _ _ (d :: ds) _, h => by
      rw [shape, shape, Shape.token.injEq, shapes, shapes, List.cons.injEq] at h
      obtain ⟨hkind, hvalue, hfirst, hrest⟩ := h
      rw [nested, nested, hkind, hvalue, nested_congr (depth + 1) c d hfirst,
        nestedRest_congr (depth + 1) cs ds hrest]

theorem nestedRest_congr (depth : Int) : ∀ ts us : List Tree, shapes ts = shapes us →
    nestedRest depth ts = nestedRest depth us
  | [], [], _ => rfl
  | [], _ :: _, h => by cases h
  | _ :: _, [], h => by cases h
  | t :: ts, u :: us, h => by
      rw [shapes, shapes, List.cons.injEq] at h
      rw [nestedRest, nestedRest, nested_congr depth t u h.1, nestedRest_congr depth ts us h.2]

end

theorem nested_eq_iff {t u : Tree} (ht : t.whole = true) (hu : u.whole = true) (depth : Int) :
    t.nested depth = u.nested depth ↔ t.shape = u.shape := by
  constructor
  · intro h
    have h' : (t.nested depth).toList ++ [] = (u.nested depth).toList ++ [] := by rw [h]
    exact (nested_inj depth t u ht hu h').1
  · exact nested_congr depth t u

/-! ## The compact form is read in one way -/

mutual

/-- No kind in the tree has a `<` in it. -/
def plainKinds : Tree → Prop
  | absent => True
  | node _ l cs _ => '<' ∉ l.kind.toList ∧ allPlainKinds cs

/-- No kind in the trees has a `<` in it. -/
def allPlainKinds : List Tree → Prop
  | [] => True
  | t :: ts => plainKinds t ∧ allPlainKinds ts

end

/-- What stands before the first mark is read off the front of a text. -/
theorem before_mark_inj {mark : Char} {cs ds : List Char} (hcs : mark ∉ cs) (hds : mark ∉ ds)
    (h : cs ++ mark :: rest = ds ++ mark :: rest') : cs = ds ∧ rest = rest' := by
  induction cs generalizing ds with
  | nil =>
      cases ds with
      | nil => exact ⟨rfl, (List.cons.inj h).2⟩
      | cons d ds => exact absurd ((List.cons.inj h).1 ▸ List.mem_cons_self) hds
  | cons c cs ih =>
      cases ds with
      | nil => exact absurd ((List.cons.inj h).1 ▸ List.mem_cons_self) hcs
      | cons d ds =>
          obtain ⟨hfirst, htail⟩ := List.cons.inj h
          obtain ⟨hcsds, hrest⟩ := ih (fun hmem => hcs (List.mem_cons_of_mem _ hmem))
            (fun hmem => hds (List.mem_cons_of_mem _ hmem)) htail
          exact ⟨by rw [hfirst, hcsds], hrest⟩

/-- The compact form of a token up to the mark after its value. -/
def compactHead (l : Label) : List Char :=
  l.kind.toList ++ '<' :: ((quoted l.value).toList ++ ['>'])

theorem compactHead_inj {l m : Label} (hl : '<' ∉ l.kind.toList) (hm : '<' ∉ m.kind.toList)
    (h : compactHead l ++ rest = compactHead m ++ rest') :
    (l.kind = m.kind ∧ l.value = m.value) ∧ rest = rest' := by
  simp only [compactHead, List.append_assoc, List.cons_append, List.nil_append] at h
  obtain ⟨hkind, h⟩ := before_mark_inj hl hm h
  obtain ⟨hvalue, h⟩ := quoted_inj h
  exact ⟨⟨String.toList_inj.mp hkind, hvalue⟩, (List.cons.inj h).2⟩

theorem toList_compact_leaf (id : TokenId) (l : Label) (ks : List Tree) :
    (compact (node id l [] ks)).toList ++ rest = compactHead l ++ rest := by
  simp [compact, compactHead]

theorem toList_compact_inner (id : TokenId) (l : Label) (c : Tree) (cs ks : List Tree) :
    (compact (node id l (c :: cs) ks)).toList ++ rest =
      compactHead l ++ '\x7b' :: ((compact c).toList ++ ((compacts cs).toList ++ '\x7d' :: rest)) := by
  simp [compact, compactHead]

theorem toList_compacts_cons (t : Tree) (ts : List Tree) :
    (compacts (t :: ts)).toList ++ rest =
      ',' :: ((compact t).toList ++ ((compacts ts).toList ++ rest)) := by
  simp [compacts]

/-- No brace comes next. -/
def Unbraced (rest : List Char) : Prop := rest.head? ≠ some '\x7b'

/-- After a child comes a comma, or the brace that closes the row. -/
theorem unbraced_compacts (ts : List Tree) (rest : List Char) :
    Unbraced ((compacts ts).toList ++ '\x7d' :: rest) := by
  cases ts with
  | nil =>
      show some '\x7d' ≠ some '\x7b'
      decide
  | cons t ts =>
      rw [Unbraced, toList_compacts_cons]
      show some ',' ≠ some '\x7b'
      decide

mutual

theorem compact_inj {rest rest' : List Char} (hrest : Unbraced rest) (hrest' : Unbraced rest') :
    ∀ t u : Tree, t.whole = true → u.whole = true → t.plainKinds → u.plainKinds →
      t.compact.toList ++ rest = u.compact.toList ++ rest' → t.shape = u.shape ∧ rest = rest'
  | absent, _ => by
      intro ht
      cases ht
  | node _ _ _ _, absent => by
      intro _ hu
      cases hu
  | node _ l [] _, node _ m [] _ => by
      intro _ _ hpt hpu h
      rw [toList_compact_leaf, toList_compact_leaf] at h
      obtain ⟨⟨hkind, hvalue⟩, h⟩ := compactHead_inj hpt.1 hpu.1 h
      exact ⟨by rw [shape, shape, hkind, hvalue], h⟩
  | node _ l [] _, node _ m (d :: ds) _ => by
      intro _ _ hpt hpu h
      -- a brace follows the value of a token with children only
      rw [toList_compact_leaf, toList_compact_inner] at h
      obtain ⟨-, rfl⟩ := compactHead_inj hpt.1 hpu.1 h
      exact absurd rfl hrest
  | node _ l (c :: cs) _, node _ m [] _ => by
      intro _ _ hpt hpu h
      rw [toList_compact_leaf, toList_compact_inner] at h
      obtain ⟨-, rfl⟩ := compactHead_inj hpt.1 hpu.1 h
      exact absurd rfl hrest'
  | node _ l (c :: cs) _, node _ m (d :: ds) _ => by
      intro ht hu hpt hpu h
      rw [whole, allWhole, Bool.and_eq_true] at ht hu
      rw [toList_compact_inner, toList_compact_inner] at h
      obtain ⟨⟨hkind, hvalue⟩, h⟩ := compactHead_inj hpt.1 hpu.1 h
      obtain ⟨hfirst, h⟩ := compact_inj (unbraced_compacts cs rest) (unbraced_compacts ds rest') c d
        ht.1 hu.1 hpt.2.1 hpu.2.1 (List.cons.inj h).2
      obtain ⟨hall, h⟩ := compacts_inj cs ds ht.2 hu.2 hpt.2.2 hpu.2.2 h
      exact ⟨by rw [shape, shape, shapes, shapes, hkind, hvalue, hfirst, hall], h⟩

/-- The further children end where a brace closes the row. -/
theorem compacts_inj {rest rest' : List Char} :
    ∀ ts us : List Tree, allWhole ts = true → allWhole us = true → allPlainKinds ts →
      allPlainKinds us →
      (compacts ts).toList ++ '\x7d' :: rest = (compacts us).toList ++ '\x7d' :: rest' →
        shapes ts = shapes us ∧ rest = rest'
  | [], [] => by
      intro _ _ _ _ h
      exact ⟨rfl, (List.cons.inj h).2⟩
  | [], u :: us => by
      intro _ _ _ _ h
      rw [toList_compacts_cons] at h
      exact absurd (List.cons.inj h).1 (by decide)
  | t :: ts, [] => by
      intro _ _ _ _ h
      rw [toList_compacts_cons] at h
      exact absurd (List.cons.inj h).1 (by decide)
  | t :: ts, u :: us => by
      intro hts hus hpt hpu h
      rw [allWhole, Bool.and_eq_true] at hts hus
      rw [toList_compacts_cons, toList_compacts_cons] at h
      obtain ⟨hfirst, h⟩ := compact_inj (unbraced_compacts ts rest) (unbraced_compacts us rest') t u
        hts.1 hus.1 hpt.1 hpu.1 (List.cons.inj h).2
      obtain ⟨hall, h⟩ := compacts_inj ts us hts.2 hus.2 hpt.2 hpu.2 h
      exact ⟨by rw [shapes, shapes, hfirst, hall], h⟩

end

mutual

/-- Nothing of a tree but its shape is written in the compact form. -/
theorem compact_congr : ∀ t u : Tree, t.shape = u.shape → t.compact = u.compact
  | absent, absent, _ => rfl
  | absent, node _ _ _ _, h => by cases h
  | node _ _ _ _, absent, h => by cases h
  | node _ _ [] _, node _ _ [] _, h => by
      rw [shape, shape, Shape.token.injEq] at h
      rw [compact, compact, h.1, h.2.1]
  | node _ _ [] _, node _ _ (_ :: _) _, h => by
      rw [shape, shape, Shape.token.injEq] at h
      cases h.2.2
  | node _ _ (_ :: _) _, node _ _ [] _, h => by
      rw [shape, shape, Shape.token.injEq] at h
      cases h.2.2
  | node _ _ (c :: cs) _, node _ _ (d :: ds) _, h => by
      rw [shape, shape, Shape.token.injEq, shapes, shapes, List.cons.injEq] at h
      obtain ⟨hkind, hvalue, hfirst, hrest⟩ := h
      rw [compact, compact, hkind, hvalue, compact_congr c d hfirst, compacts_congr cs ds hrest]

theorem compacts_congr : ∀ ts us : List Tree, shapes ts = shapes us → compacts ts = compacts us
  | [], [], _ => rfl
  | [], _ :: _, h => by cases h
  | _ :: _, [], h => by cases h
  | t :: ts, u :: us, h => by
      rw [shapes, shapes, List.cons.injEq] at h
      rw [compacts, compacts, compact_congr t u h.1, compacts_congr ts us h.2]

end

theorem compact_eq_iff {t u : Tree} (ht : t.whole = true) (hu : u.whole = true)
    (hpt : t.plainKinds) (hpu : u.plainKinds) : t.compact = u.compact ↔ t.shape = u.shape := by
  constructor
  · intro h
    have h' : t.compact.toList ++ [] = u.compact.toList ++ [] := by rw [h]
    have hend : Unbraced [] := fun h => by cases h
    exact (compact_inj hend hend t u ht hu hpt hpu h').1
  · exact compact_congr t u

theorem allPlainKinds_map {slots : List Slot} {f : Slot → Tree}
    (h : ∀ slot ∈ slots, (f slot).plainKinds) : allPlainKinds (slots.map f) := by
  induction slots with
  | nil => trivial
  | cons slot slots ih =>
      obtain ⟨hfirst, hrest⟩ := List.forall_mem_cons.mp h
      exact ⟨hfirst, ih hrest⟩

end Tree

/-! ## Dumps of slots -/

namespace Store

/-- No kind of a token that is reached from the slot has a `<` in it. -/
def PlainKinds (s : Store) (x : Slot) : Prop :=
  ∀ t, s.Reaches x t → '<' ∉ (s.cell t).label.kind.toList

theorem Fits.plainKinds {n : Nat} (h : s.Fits n x) (hp : s.PlainKinds x) :
    (s.treeTo n x).plainKinds := by
  induction h with
  | absent n => cases n <;> trivial
  | @token n t _ ih =>
      refine ⟨hp t (.refl s t), Tree.allPlainKinds_map fun c hc => ih c hc fun u hu => ?_⟩
      exact hp u (hu.of_child hc)

theorem Acyclic.write_eq (h : s.Acyclic x) (hg : s.Gapless x) (style : Tree.Style) (depth : Int)
    (pad : String) : s.write style depth pad x = .ok ((s.tree x).render style depth pad) := by
  rw [write, h.whole hg]
  rfl

/-- The text of a token is its compact form. -/
theorem Acyclic.describe_eq (h : s.Acyclic x) (hg : s.Gapless x) :
    s.describe x = .ok (s.tree x).compact := by
  cases x with
  | none => exact absurd rfl hg.present
  | some t => exact h.write_eq hg .compact 0 ""

/-- **A dump determines the shape.** Acyclic slots without gaps can be written, and the nested forms,
from whatever depth, are the same if and only if the slots are alike; and so are the texts of the
tokens, where no kind has a `<` in it. -/
theorem write_eq_iff_alike (hx : s.Acyclic x) (hy : s.Acyclic y) (hgx : s.Gapless x)
    (hgy : s.Gapless y) :
    (∀ depth pad, ∃ a b, s.write .nested depth pad x = .ok a ∧ s.write .nested depth pad y = .ok b ∧
        (a = b ↔ s.alike x y = true)) ∧
      (s.PlainKinds x → s.PlainKinds y →
        ∃ a b, s.describe x = .ok a ∧ s.describe y = .ok b ∧ (a = b ↔ s.alike x y = true)) := by
  have hwhole := hx.whole hgx
  have hwhole' := hy.whole hgy
  constructor
  · intro depth pad
    refine ⟨_, _, hx.write_eq hgx _ _ _, hy.write_eq hgy _ _ _, ?_⟩
    rw [hx.alike_iff hy]
    exact Tree.nested_eq_iff hwhole hwhole' depth
  · intro hpx hpy
    refine ⟨_, _, hx.describe_eq hgx, hy.describe_eq hgy, ?_⟩
    rw [hx.alike_iff hy]
    exact Tree.compact_eq_iff hwhole hwhole' (hx.fits.plainKinds hpx) (hy.fits.plainKinds hpy)

theorem sharedNames_plainKinds :
    sharedNames.PlainKinds (some 4) ∧ sharedNames.PlainKinds (some 5) := by
  have hcells : ∀ t < sharedNames.size, '<' ∉ (sharedNames.cell t).label.kind.toList := by decide
  constructor
  · intro t ht
    exact hcells t (sharedNames_full.1.lt_size t (sharedNames_full.1.mem_of_reaches ht))
  · intro t ht
    exact hcells t (sharedNames_full.2.lt_size t (sharedNames_full.2.mem_of_reaches ht))

theorem write_eq_iff_alike_sharedNames :
    (∀ depth pad, ∃ a b, sharedNames.write .nested depth pad (some 4) = .ok a ∧
        sharedNames.write .nested depth pad (some 5) = .ok b ∧
        (a = b ↔ sharedNames.alike (some 4) (some 5) = true)) ∧
      ∃ a b, sharedNames.describe (some 4) = .ok a ∧ sharedNames.describe (some 5) = .ok b ∧
        (a = b ↔ sharedNames.alike (some 4) (some 5) = true) := by
  obtain ⟨hnested, hcompact⟩ := write_eq_iff_alike sharedNames_full.1.acyclic
    sharedNames_full.2.acyclic sharedNames_gapless.1 sharedNames_gapless.2
  exact ⟨hnested, hcompact sharedNames_plainKinds.1 sharedNames_plainKinds.2⟩

end Store

end ClassLift
