import ClassLift.Proofs.Token.Graft
import ClassLift.Proofs.Token.Whole

set_option autoImplicit false

/-! # Copies that cannot fail

A copy of a token fails only where something is missing below it. Comments that come to an end
and have no gaps can be copied (`copyComments_succeeds`), and edits elsewhere do not change this
(`Store.Copyable.frame`).
-/

namespace ClassLift

variable {s s' : Store} {kept edited : TokenId → Prop} {roots slots : List Slot} {slot : Slot}
  {ids : List TokenId} {t : TokenId}

/-! ## Copies of comments -/

/-- The comments of the token, and what is linked to them, come to an end and have no gaps, and
all these tokens are kept. -/
def Store.Copyable (s : Store) (kept : TokenId → Prop) (t : TokenId) : Prop :=
  none ∉ (s.cell t).comments ∧ ∃ ids, Spans Cell.links s (s.cell t).comments ids ∧ ids.Nodup ∧
    ∀ u ∈ ids, none ∉ (s.cell u).links ∧ kept u

/-- In the slots stand tokens with comments that can be copied. -/
def Store.CanCopy (s : Store) (kept : TokenId → Prop) (slots : List Slot) : Prop :=
  ∀ slot ∈ slots, Stands (fun t => t < s.size ∧ s.Copyable kept t) slot

theorem Frame.spans_links (h : Frame s s' edited) (hs : Spans Cell.links s roots ids)
    (hn : ∀ u ∈ ids, ¬ edited u) : Spans Cell.links s' roots ids :=
  hs.frame h.size_le fun u hu => by rw [h.cell (hs.lt_size u hu) (hn u hu)]

theorem Store.Copyable.frame (h : s.Copyable kept t) (hf : Frame s s' edited) (ht : t < s.size)
    (hkept : ∀ u, kept u → ¬ edited u) : s'.Copyable kept t := by
  obtain ⟨hpresent, ids, hspans, hn, hall⟩ := h
  have hcomments := hf.comments t ht
  refine ⟨hcomments ▸ hpresent, ids, ?_, hn, fun u hu => ⟨?_, (hall u hu).2⟩⟩
  · rw [hcomments]
    exact hf.spans_links hspans fun u hu => hkept u (hall u hu).2
  · rw [hf.cell (hspans.lt_size u hu) (hkept u (hall u hu).2)]
    exact (hall u hu).1

theorem Store.CanCopy.frame (h : s.CanCopy kept slots) (hf : Frame s s' edited)
    (hkept : ∀ u, kept u → ¬ edited u) : s'.CanCopy kept slots := by
  intro slot hslot
  obtain ⟨t, rfl, ht, hcopy⟩ := h slot hslot
  exact ⟨t, rfl, Nat.lt_of_lt_of_le ht hf.size_le, hcopy.frame hf ht hkept⟩

/-- In an unshared tree without gaps, the comments of the tokens found through children alone can
be copied; the tokens that are not found so are kept. -/
theorem Store.copyable_of_spans {root : TokenId} {all old : List TokenId}
    (hall : Spans Cell.links s [some root] all) (hn : all.Nodup)
    (hpresent : ∀ u ∈ all, none ∉ (s.cell u).links)
    (hold : Spans Cell.children s [some root] old) (ht : t ∈ old) :
    s.Copyable (fun u => u ∈ all ∧ u ∉ old) t := by
  have hsub : ∀ u ∈ old, u ∈ all := by
    obtain ⟨old', hold', hsub⟩ := hall.restrict Cell.children_sublist_links
    rw [hold.unique hold']
    exact hsub.subset
  -- what is found through children has its only link in a list of children
  have hlinked : ∀ v ∈ old, ∀ p ∈ all, some v ∈ (s.cell p).links →
      p ∈ old ∧ some v ∈ (s.cell p).children := by
    intro v hv p hp hlink
    rcases hold.exists_parent hv with hroot | ⟨q, hq, hchild⟩
    · obtain rfl := Option.some.inj (List.mem_singleton.mp hroot)
      exact absurd hlink (hall.root_not_linked hn hp)
    · have hlink' := (Cell.children_sublist_links _).subset hchild
      obtain rfl := hall.parent_unique hn hp (hsub q hq) hlink hlink'
      exact ⟨hq, hchild⟩
  obtain ⟨below, hbelow, hinfix⟩ := hall.below_mem (hsub t ht)
  obtain ⟨-, found, heq, hfound⟩ := hbelow.of_singleton
  obtain ⟨-, rfl⟩ := List.cons_eq_cons.mp heq
  have hnbelow : below.Nodup := (List.nodup_cons.mp (hn.sublist hinfix.sublist)).2
  obtain ⟨first, ids, rfl, hfirst, hids⟩ := hfound.of_append
  have hmem : ∀ u ∈ ids, u ∈ all := fun u hu =>
    hinfix.subset (List.mem_cons_of_mem t (List.mem_append_right _ hu))
  refine ⟨fun hnone => hpresent t (hsub t ht) (List.mem_append_right _ hnone), ids, hids,
    (List.nodup_append.mp hnbelow).2.1, fun u hu => ⟨hpresent u (hmem u hu), hmem u hu, ?_⟩⟩
  revert u
  refine hids.forall_of_links (fun u hu hcontra => ?_) fun p hp hnot u hu hcontra => ?_
  · obtain ⟨-, hchild⟩ :=
      hlinked u hcontra t (hsub t ht) (List.mem_append_right _ hu)
    exact (List.nodup_append.mp hnbelow).2.2 u (hfirst.root_mem hchild) u (hids.root_mem hu) rfl
  · exact hnot (hlinked u hcontra p (hmem p hp) hu).1

/-- Comments that can be copied are copied. -/
theorem Edit.copyComments_succeeds (h : s.CanCopy kept slots) :
    ∃ copies s', (copyComments slots).run.run s = (.ok copies, s') := by
  refine copyComments_of_annotated fun slot hslot => ?_
  obtain ⟨t, rfl, ht, hpresent, ids, hspans, hn, hall⟩ := h slot hslot
  refine ⟨t, rfl, ht, fun comment hcomment => ?_⟩
  obtain ⟨u, rfl⟩ : ∃ u, comment = some u :=
    Option.ne_none_iff_exists'.mp fun he => hpresent (he ▸ hcomment)
  have hwhole := hspans.whole (fun v hv => (hall v hv).1) u (hspans.root_mem hcomment)
  exact ⟨u, rfl, hwhole.mono (hspans.length_le_size hn)⟩

end ClassLift
