import ClassLift.Proofs.Token.Spans
import Mathlib.Data.List.Nodup
import Mathlib.Data.List.ReduceOption

set_option autoImplicit false

/-! # Trees that change below one token

In a tree without shared tokens every token but the roots stands below exactly one other
(`Spans.parent_unique`). When the links of one token change, the list of all tokens changes right
after this token and nowhere else (`Spans.graft`).
-/

namespace ClassLift

open List

namespace Spans

variable {links : Cell → List Slot} {s s' : Store} {roots : List Slot} {t u p q : TokenId}
  {ids below below' before after : List TokenId}

/-! ## Parents -/

/-- The tokens found are the roots and what is linked to the tokens found, each as often. -/
theorem perm_links (h : Spans links s roots ids) :
    ids ~ roots.reduceOption ++ ids.flatMap fun t => (links (s.cell t)).reduceOption := by
  induction h with
  | nil => exact .refl _
  | absent _ ih => rwa [List.reduceOption_cons_of_none]
  | @token t slots below ids _ _ _ ihdown ihnext =>
      rw [List.reduceOption_cons_of_some, List.flatMap_cons, List.flatMap_append, List.cons_append,
        ← List.append_assoc, ← List.append_assoc]
      refine List.Perm.cons t ?_
      calc below ++ ids
          ~ ((links (s.cell t)).reduceOption ++
                below.flatMap fun u => (links (s.cell u)).reduceOption) ++
              (slots.reduceOption ++ ids.flatMap fun u => (links (s.cell u)).reduceOption) :=
            ihdown.append ihnext
        _ ~ (slots.reduceOption ++ (links (s.cell t)).reduceOption) ++
              ((below.flatMap fun u => (links (s.cell u)).reduceOption) ++
                ids.flatMap fun u => (links (s.cell u)).reduceOption) :=
            (perm_exchange _ _ _ _).trans (List.perm_append_comm.append_right _)
        _ ~ _ := by rw [List.append_assoc, List.append_assoc, List.append_assoc]

/-- No token is linked to two tokens. -/
theorem parent_unique (h : Spans links s roots ids) (hn : ids.Nodup) (hp : p ∈ ids) (hq : q ∈ ids)
    (hup : some u ∈ links (s.cell p)) (huq : some u ∈ links (s.cell q)) : p = q := by
  have hall := (List.nodup_append.mp (h.perm_links.nodup_iff.mp hn)).2.1
  have hdisjoint := (List.nodup_flatMap.mp hall).2
  have : Std.Symm (Function.onFun List.Disjoint fun t => (links (s.cell t)).reduceOption) :=
    ⟨fun _ _ hd _ hv hw => hd hw hv⟩
  by_contra hne
  exact hdisjoint.forall hp hq hne (List.reduceOption_mem_iff.mpr hup)
    (List.reduceOption_mem_iff.mpr huq)

/-- The root is linked to no token. -/
theorem root_not_linked (h : Spans links s [some t] ids) (hn : ids.Nodup) (hp : p ∈ ids) :
    some t ∉ links (s.cell p) := by
  intro hmem
  have hall := List.nodup_append.mp (h.perm_links.nodup_iff.mp hn)
  refine hall.2.2 t (List.reduceOption_mem_iff.mpr List.mem_cons_self) t ?_ rfl
  exact List.mem_flatMap.mpr ⟨p, hp, List.reduceOption_mem_iff.mpr hmem⟩

/-- A token that was found is a root, or linked to a token that was found. -/
theorem exists_parent (h : Spans links s roots ids) (hu : u ∈ ids) :
    some u ∈ roots ∨ ∃ p ∈ ids, some u ∈ links (s.cell p) := by
  rcases List.mem_append.mp (h.perm_links.mem_iff.mp hu) with hu | hu
  · exact Or.inl (List.reduceOption_mem_iff.mp hu)
  · obtain ⟨p, hp, hu⟩ := List.mem_flatMap.mp hu
    exact Or.inr ⟨p, hp, List.reduceOption_mem_iff.mp hu⟩

/-- What holds of the roots, and with a token of all that is linked to it, holds of all tokens
found. -/
theorem forall_of_links {P : TokenId → Prop} (h : Spans links s roots ids)
    (hroots : ∀ u, some u ∈ roots → P u)
    (hlinks : ∀ t ∈ ids, P t → ∀ u, some u ∈ links (s.cell t) → P u) : ∀ u ∈ ids, P u := by
  induction h with
  | nil => simp
  | absent _ ih => exact ih (fun u hu => hroots u (List.mem_cons_of_mem _ hu)) hlinks
  | @token t slots below ids _ _ _ ihdown ihnext =>
      have ht : P t := hroots t List.mem_cons_self
      intro u hu
      rcases List.mem_cons.mp hu with rfl | hu
      · exact ht
      rcases List.mem_append.mp hu with hu | hu
      · refine ihdown (fun v hv => hlinks t List.mem_cons_self ht v hv) (fun v hv => ?_) u hu
        exact hlinks v (List.mem_cons_of_mem _ (List.mem_append_left _ hv))
      · refine ihnext (fun v hv => hroots v (List.mem_cons_of_mem _ hv)) (fun v hv => ?_) u hu
        exact hlinks v (List.mem_cons_of_mem _ (List.mem_append_right _ hv))

/-! ## Changes below one token -/

/-- A list without duplicates is split at a member in one way only. -/
theorem append_cons_unique {x x' z z' : List TokenId} (hn : (x ++ t :: z).Nodup)
    (h : x ++ t :: z = x' ++ t :: z') : x = x' ∧ z = z' := by
  have hnot := (List.nodup_cons.mp (List.nodup_middle.mp hn)).1
  rw [List.mem_append, not_or] at hnot
  obtain ⟨hx, -, hz⟩ := (List.append_cons_inj_of_notMem hnot.1 hnot.2).mp h
  exact ⟨hx, hz⟩

/-- When the links of the token `t` change, other tokens are found below it, and all others are
found as before. -/
theorem graft (h : Spans links s roots ids) (hn : ids.Nodup)
    (hids : ids = before ++ t :: (below ++ after))
    (hbelow : Spans links s (links (s.cell t)) below) (hsize : s.size ≤ s'.size)
    (hsame : ∀ u ∈ before ++ after, links (s'.cell u) = links (s.cell u))
    (hnew : Spans links s' (links (s'.cell t)) below') :
    Spans links s' roots (before ++ t :: (below' ++ after)) := by
  induction h generalizing before after with
  | nil => simp at hids
  | absent _ ih => exact (ih hn hids hsame).absent
  | @token top slots first rest lt down next ihdown ihnext =>
      obtain ⟨-, hn⟩ := List.nodup_cons.mp hn
      obtain ⟨hnfirst, hnrest, -⟩ := List.nodup_append.mp hn
      have lt' := Nat.lt_of_lt_of_le lt hsize
      cases before with
      | nil =>
          obtain ⟨rfl, heq⟩ := List.cons_eq_cons.mp hids
          obtain rfl := down.unique hbelow
          obtain rfl := List.append_cancel_left heq
          exact .token lt' hnew (next.frame hsize hsame)
      | cons b before =>
          obtain ⟨rfl, heq⟩ := List.cons_eq_cons.mp hids
          have htop : links (s'.cell top) = links (s.cell top) := hsame top (by simp)
          have ht : t ∈ first ++ rest := heq ▸ by simp
          rcases List.mem_append.mp ht with ht | ht
          · -- the token is found below the first root
            obtain ⟨x, _, y, rfl, hfound⟩ := down.split_mem ht
            obtain rfl := hfound.unique hbelow
            rw [List.append_assoc, List.cons_append] at heq hn
            obtain ⟨rfl, htail⟩ := append_cons_unique hn heq
            rw [List.append_assoc] at htail
            obtain rfl := List.append_cancel_left htail
            have hdown := ihdown hnfirst rfl fun u hu => hsame u (by
              rcases List.mem_append.mp hu with hu | hu <;> simp [hu])
            have hrest := next.frame hsize fun u hu => hsame u (by simp [hu])
            rw [← htop] at hdown
            simpa using Spans.token lt' hdown hrest
          · -- the token is found from the later roots
            obtain ⟨x, _, y, rfl, hfound⟩ := next.split_mem ht
            obtain rfl := hfound.unique hbelow
            rw [← List.append_assoc] at heq hn
            obtain ⟨rfl, htail⟩ := append_cons_unique hn heq
            obtain rfl := List.append_cancel_left htail
            have hrest := ihnext hnrest rfl fun u hu => hsame u (by
              rcases List.mem_append.mp hu with hu | hu <;> simp [hu])
            have hdown := down.frame hsize fun u hu => hsame u (by simp [hu])
            rw [← htop] at hdown
            simpa using Spans.token lt' hdown hrest

end Spans

end ClassLift
