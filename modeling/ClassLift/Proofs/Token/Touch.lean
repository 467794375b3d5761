import ClassLift.Proofs.Statement.Form
import ClassLift.Proofs.Token.Frame
import Mathlib.Logic.Relation

set_option autoImplicit false

/-! # Single edits

A conversion changes the store one token at a time: it makes a new token, or it changes the children
of one token in one of five ways (`Store.Changes`). `Store.Touches` is any number of such edits. They
leave the labels and the comments of all tokens as they are, and the children of all tokens but those
that may be edited (`Touches.label`, `Touches.children`).

An edit touches only some tokens if it does so from where it starts, whether it succeeds or stops
(`Edit.Touching`). Tokens may be shared, and slots may be empty.
-/

namespace ClassLift

/-- The kinds of the tokens that a visit edits. -/
def Kind.edited : List Kind :=
  [Kind.sourceFile, Kind.block, Kind.exportDecl, Kind.call, Kind.arguments]

theorem Kind.edited_of_container {kind : Kind} (h : kind ∈ [Kind.sourceFile, Kind.block]) :
    kind ∈ Kind.edited := by
  revert kind
  decide

theorem Kind.not_edited_of_function {kind : Kind}
    (h : kind ∈ [Kind.functionDecl, Kind.anonymousFunction]) : kind ∉ Kind.edited := by
  revert kind
  decide

namespace Store

/-- What may become of the children of a token; the new tokens are those that are not in `s₀`.

* A source file or a block gets a new class in the place of a function or of a variable declaration,
  or it loses an assignment or a call.
* An export gets a new class in the place of a function that is its first child.
* A call of two children gets the new word `super` as its first child.
* An argument list loses `this` as its first child. -/
inductive Changes (s₀ s : Store) (t : TokenId) : List Slot → List Slot → Prop where
  | converted {before after : List Slot} {slot : Slot} {c : TokenId}
      (kind : s.isContainer (some t) = true)
      (declares : s.hasKind Kind.functionDecl slot = true ∨ s.hasKind Kind.varDecl slot = true)
      (new : s₀.size ≤ c) (made : s.hasKind Kind.classDecl (some c) = true) :
      Changes s₀ s t (before ++ slot :: after) (before ++ some c :: after)
  | dropped {before after : List Slot} {slot : Slot} (kind : s.isContainer (some t) = true)
      (statement : s.hasKind Kind.assign slot = true ∨ s.hasKind Kind.call slot = true) :
      Changes s₀ s t (before ++ slot :: after) (before ++ after)
  | exported {rest : List Slot} {slot : Slot} {c : TokenId}
      (kind : s.hasKind Kind.exportDecl (some t) = true)
      (declares : s.hasKind Kind.functionDecl slot = true) (new : s₀.size ≤ c)
      (made : s.hasKind Kind.classDecl (some c) = true) :
      Changes s₀ s t (slot :: rest) (some c :: rest)
  | called {callee arguments : Slot} {w : TokenId} (kind : s.hasKind Kind.call (some t) = true)
      (new : s₀.size ≤ w) (word : s.isToken Kind.keyword "super" (some w) = true)
      (leaf : (s.cell w).children = []) :
      Changes s₀ s t [callee, arguments] [some w, arguments]
  | shortened {this : Slot} {rest : List Slot} (kind : s.hasKind Kind.arguments (some t) = true)
      (first : s.isThis this = true) : Changes s₀ s t (this :: rest) rest

/-- One edit, of the token `t`: it is made, or its children change. -/
inductive Touch (s₀ s : Store) : TokenId → Store → Prop where
  | made (c : Cell) : Touch s₀ s s.size (s.push c)
  | changed {t : TokenId} {children : List Slot} (lt : t < s.size)
      (h : s₀.Changes s t (s.cell t).children children) :
      Touch s₀ s t (s.set t { s.cell t with children })

/-- Any number of edits of new tokens and of those in `edited`. -/
def Touches (s₀ : Store) (edited : TokenId → Prop) : Store → Store → Prop :=
  Relation.ReflTransGen fun s s' => ∃ t, s₀.Touch s t s' ∧ (t < s.size → edited t)

/-- A token that may change is of a certain kind. -/
theorem Changes.kind_mem {s₀ s : Store} {t : TokenId} {children children' : List Slot}
    (h : s₀.Changes s t children children') : (s.cell t).label.kind ∈ Kind.edited := by
  cases h with
  | converted kind => exact Kind.edited_of_container (kind_mem_of_isContainer kind)
  | dropped kind => exact Kind.edited_of_container (kind_mem_of_isContainer kind)
  | exported kind => exact kind_mem_of_hasKind kind (by decide)
  | called kind => exact kind_mem_of_hasKind kind (by decide)
  | shortened kind => exact kind_mem_of_hasKind kind (by decide)

namespace Touch

variable {s₀ s s' : Store} {t u : TokenId}

theorem size_le (h : s₀.Touch s t s') : s.size ≤ s'.size := by
  cases h with
  | made c => exact Nat.le_of_lt (by simp)
  | changed => exact Nat.le_of_eq (size_set s t _).symm

theorem label (h : s₀.Touch s t s') (hu : u < s.size) : (s'.cell u).label = (s.cell u).label := by
  cases h with
  | made c => rw [cell_push_lt s c u hu]
  | changed lt =>
      by_cases he : u = t
      · rw [he, cell_set_eq s t _ lt]
      · rw [cell_set_ne s t u _ he]

theorem comments (h : s₀.Touch s t s') (hu : u < s.size) :
    (s'.cell u).comments = (s.cell u).comments := by
  cases h with
  | made c => rw [cell_push_lt s c u hu]
  | changed lt =>
      by_cases he : u = t
      · rw [he, cell_set_eq s t _ lt]
      · rw [cell_set_ne s t u _ he]

theorem children (h : s₀.Touch s t s') (hu : u < s.size) (hne : u ≠ t) :
    (s'.cell u).children = (s.cell u).children := by
  cases h with
  | made c => rw [cell_push_lt s c u hu]
  | changed => rw [cell_set_ne s t u _ hne]

/-- A token of another kind than those that are edited is as before. -/
theorem cell_of_kind (h : s₀.Touch s t s') (hu : u < s.size)
    (hk : (s.cell u).label.kind ∉ Kind.edited) : s'.cell u = s.cell u := by
  cases h with
  | made c => rw [cell_push_lt s c u hu]
  | changed lt hchange =>
      by_cases he : u = t
      · subst he
        exact absurd hchange.kind_mem hk
      · rw [cell_set_ne s t u _ he]

end Touch

namespace Touches

variable {s₀ s s' s'' : Store} {edited edited' : TokenId → Prop} {u : TokenId} {slot : Slot}

theorem refl (s₀ : Store) (edited : TokenId → Prop) (s : Store) : s₀.Touches edited s s :=
  Relation.ReflTransGen.refl

theorem trans (h : s₀.Touches edited s s') (h' : s₀.Touches edited s' s'') :
    s₀.Touches edited s s'' := Relation.ReflTransGen.trans h h'

theorem single {t : TokenId} (h : s₀.Touch s t s') (ht : t < s.size → edited t) :
    s₀.Touches edited s s' := Relation.ReflTransGen.single ⟨t, h, ht⟩

theorem push (s₀ : Store) (edited : TokenId → Prop) (s : Store) (c : Cell) :
    s₀.Touches edited s (s.push c) := single (.made c) fun h => absurd h (Nat.lt_irrefl _)

theorem mono (h : s₀.Touches edited s s') (he : ∀ t, edited t → edited' t) :
    s₀.Touches edited' s s' := by
  induction h with
  | refl => exact .refl _ _ _
  | tail _ htouch ih =>
      obtain ⟨t, htouch, hedited⟩ := htouch
      exact ih.trans (single htouch fun hlt => he t (hedited hlt))

theorem size_le (h : s₀.Touches edited s s') : s.size ≤ s'.size := by
  induction h with
  | refl => exact Nat.le_refl _
  | tail _ htouch ih =>
      obtain ⟨t, htouch, -⟩ := htouch
      exact Nat.le_trans ih htouch.size_le

theorem label (h : s₀.Touches edited s s') (hu : u < s.size) :
    (s'.cell u).label = (s.cell u).label := by
  induction h with
  | refl => rfl
  | tail hsteps htouch ih =>
      obtain ⟨t, htouch, -⟩ := htouch
      have hsize := size_le hsteps
      rw [htouch.label (Nat.lt_of_lt_of_le hu hsize), ih]

theorem comments (h : s₀.Touches edited s s') (hu : u < s.size) :
    (s'.cell u).comments = (s.cell u).comments := by
  induction h with
  | refl => rfl
  | tail hsteps htouch ih =>
      obtain ⟨t, htouch, -⟩ := htouch
      have hsize := size_le hsteps
      rw [htouch.comments (Nat.lt_of_lt_of_le hu hsize), ih]

theorem children (h : s₀.Touches edited s s') (hu : u < s.size) (hn : ¬ edited u) :
    (s'.cell u).children = (s.cell u).children := by
  induction h with
  | refl => rfl
  | tail hsteps htouch ih =>
      obtain ⟨t, htouch, hedited⟩ := htouch
      have hlt := Nat.lt_of_lt_of_le hu (size_le hsteps)
      rw [htouch.children hlt fun he => hn (he ▸ hedited (he ▸ hlt)), ih]

/-- A token of another kind than those that are edited is as before. -/
theorem cell_of_kind (h : s₀.Touches edited s s') (hu : u < s.size)
    (hk : (s.cell u).label.kind ∉ Kind.edited) : s'.cell u = s.cell u := by
  induction h with
  | refl => rfl
  | tail hsteps htouch ih =>
      obtain ⟨t, htouch, -⟩ := htouch
      have hlt := Nat.lt_of_lt_of_le hu (size_le hsteps)
      rw [htouch.cell_of_kind hlt (by rwa [ih]), ih]

/-- A token keeps its kind and its value. -/
theorem label? (h : s₀.Touches edited s s') (hu : u < s.size) :
    s'.label? (some u) = s.label? (some u) := congrArg some (h.label hu)

theorem hasKind (h : s₀.Touches edited s s') {kind : Kind} (hk : s.hasKind kind slot = true)
    (hne : kind ≠ "") : s'.hasKind kind slot = true := by
  obtain ⟨u, rfl, -⟩ := exists_token_of_hasKind hk
  have hlt := lt_size_of_hasKind hk hne
  rw [Store.hasKind, h.label? hlt]
  exact hk

theorem isToken (h : s₀.Touches edited s s') {kind : Kind} {value : String}
    (hk : s.isToken kind value slot = true) (hne : kind ≠ "") : s'.isToken kind value slot = true := by
  have hkind := hasKind_of_isToken hk
  obtain ⟨u, rfl, -⟩ := exists_token_of_hasKind hkind
  have hlt := lt_size_of_hasKind hkind hne
  rw [Store.isToken, h.label? hlt]
  exact hk

theorem isContainer (h : s₀.Touches edited s s') (hk : s.isContainer slot = true) :
    s'.isContainer slot = true := by
  rcases Bool.or_eq_true_iff.mp hk with hk | hk
  · exact Bool.or_eq_true_iff.mpr (Or.inl (h.hasKind hk (by decide)))
  · exact Bool.or_eq_true_iff.mpr (Or.inr (h.hasKind hk (by decide)))

end Touches

/-! ## New children -/

/-- In the slot is a new token: a word, or a class among the statements of the token `t`. -/
def IsAddition (s₀ s : Store) (t : TokenId) (slot : Slot) : Prop :=
  ∃ v, slot = some v ∧ s₀.size ≤ v ∧ v < s.size ∧
    (s.IsWord v ∨ (s.hasKind Kind.classDecl slot = true ∧ s.HoldsStatements t))

theorem holdsStatements_of_export {s : Store} {t : TokenId}
    (h : s.hasKind Kind.exportDecl (some t) = true) : s.HoldsStatements t := by
  have hkind := kind_of_hasKind h
  rw [HoldsStatements, hkind]
  decide

theorem holdsStatements_of_container {s : Store} {t : TokenId}
    (h : s.isContainer (some t) = true) : s.HoldsStatements t := by
  rw [HoldsStatements]
  rcases isContainer_some.mp h with hkind | hkind <;> rw [hkind] <;> decide

theorem IsAddition.later {s₀ s s' : Store} {edited : TokenId → Prop} {t : TokenId} {slot : Slot}
    (h : s₀.IsAddition s t slot) (hs : s₀.Touches edited s s') (ht : t < s.size) :
    s₀.IsAddition s' t slot := by
  obtain ⟨v, rfl, hnew, hlt, hkind⟩ := h
  refine ⟨v, rfl, hnew, Nat.lt_of_lt_of_le hlt hs.size_le, ?_⟩
  rcases hkind with hword | ⟨hclass, hholds⟩
  · have hcell := hs.cell_of_kind hlt (by rw [hword.1]; decide)
    exact Or.inl (by rwa [IsWord, hcell])
  · exact Or.inr ⟨hs.hasKind hclass (by decide), by rwa [HoldsStatements, hs.label ht]⟩

/-- What an edit puts among the children of a token is new. -/
theorem Changes.kept {s₀ s : Store} {t : TokenId} {children children' : List Slot}
    (h : s₀.Changes s t children children') {slot : Slot} (hslot : slot ∈ children') :
    slot ∈ children ∨ s₀.IsAddition s t slot := by
  cases h with
  | @converted before after old c kind declares new made =>
      rcases List.mem_append.mp hslot with hslot | hslot
      · exact Or.inl (List.mem_append_left _ hslot)
      rcases List.mem_cons.mp hslot with rfl | hslot
      · exact Or.inr ⟨c, rfl, new, lt_size_of_hasKind made (by decide),
          Or.inr ⟨made, holdsStatements_of_container kind⟩⟩
      · exact Or.inl (List.mem_append_right _ (List.mem_cons_of_mem _ hslot))
  | dropped =>
      rcases List.mem_append.mp hslot with hslot | hslot
      · exact Or.inl (List.mem_append_left _ hslot)
      · exact Or.inl (List.mem_append_right _ (List.mem_cons_of_mem _ hslot))
  | @exported rest old c kind declares new made =>
      rcases List.mem_cons.mp hslot with rfl | hslot
      · exact Or.inr ⟨c, rfl, new, lt_size_of_hasKind made (by decide),
          Or.inr ⟨made, holdsStatements_of_export kind⟩⟩
      · exact Or.inl (List.mem_cons_of_mem _ hslot)
  | @called callee arguments w kind new word leaf =>
      rcases List.mem_cons.mp hslot with rfl | hslot
      · have hword := hasKind_of_isToken word
        have hkeyword := kind_of_hasKind hword
        exact Or.inr ⟨w, rfl, new, lt_size_of_hasKind hword (by decide), Or.inl ⟨hkeyword, leaf⟩⟩
      · exact Or.inl (List.mem_cons_of_mem _ hslot)
  | shortened => exact Or.inl (List.mem_cons_of_mem _ hslot)

namespace Touches

variable {s₀ s s' : Store} {edited : TokenId → Prop} {u : TokenId} {slot : Slot}

/-- What is a child now was one before, or is new. -/
theorem kept (h : s₀.Touches edited s s') (hu : u < s.size) (hslot : slot ∈ (s'.cell u).children) :
    slot ∈ (s.cell u).children ∨ s₀.IsAddition s' u slot := by
  induction h with
  | refl => exact Or.inl hslot
  | @tail s₁ s₂ hsteps htouch ih =>
      obtain ⟨t, htouch, hedited⟩ := htouch
      have hlast : s₀.Touches edited s₁ s₂ := .single htouch hedited
      have hlt := Nat.lt_of_lt_of_le hu (size_le hsteps)
      have hnext : slot ∈ (s₁.cell u).children →
          slot ∈ (s.cell u).children ∨ s₀.IsAddition s₂ u slot := fun h =>
        (ih h).imp_right (·.later hlast hlt)
      by_cases he : u = t
      · subst he
        cases htouch with
        | made => exact absurd hlt (Nat.lt_irrefl _)
        | changed lt hchange =>
            rw [cell_set_eq s₁ u _ lt] at hslot
            exact (hchange.kept hslot).elim hnext fun hnew => Or.inr (hnew.later hlast hlt)
      · rw [htouch.children hlt he] at hslot
        exact hnext hslot

/-- A child that is no word and no class was one before. -/
theorem mem_of_kind (h : s₀.Touches edited s s') (hu : u < s.size) {v : TokenId}
    (hv : some v ∈ (s'.cell u).children)
    (hk : (s'.cell v).label.kind ∉ [Kind.classDecl, Kind.keyword]) : some v ∈ (s.cell u).children := by
  refine (h.kept hu hv).resolve_right ?_
  rintro ⟨_, heq, -, -, hword | ⟨hclass, -⟩⟩
  · cases heq
    exact hk (by rw [hword.1]; decide)
  · have hkind := kind_of_hasKind hclass
    exact hk (by rw [hkind]; decide)

/-- Single edits leave alone what any edits do. -/
theorem frame (h : s.Touches edited s s') :
    Frame s s' fun u => edited u ∧ (s.cell u).label.kind ∈ Kind.edited where
  size_le := h.size_le
  label t ht := h.label ht
  comments t ht := h.comments ht
  children t ht hn := by
    by_cases hk : (s.cell t).label.kind ∈ Kind.edited
    · exact h.children ht fun he => hn ⟨he, hk⟩
    · rw [h.cell_of_kind ht hk]
  kept t ht slot hslot := by
    refine (h.kept ht hslot).imp_right ?_
    rintro ⟨v, rfl, hnew, hlt, hkind⟩
    refine ⟨v, mem_fresh.mpr ⟨hnew, hlt⟩, rfl, hkind.imp_right fun hclass => ?_⟩
    rw [HoldsStatements, ← h.label ht]
    exact hclass.2

end Touches

/-! ## What is kept -/

/-- All tokens of `s₀` are still there with their labels and their comments, and the children of
each of them changed only in the five ways. -/
structure Keeps (s₀ s : Store) : Prop where
  size_le : s₀.size ≤ s.size
  label : ∀ t < s₀.size, (s.cell t).label = (s₀.cell t).label
  comments : ∀ t < s₀.size, (s.cell t).comments = (s₀.cell t).comments
  children : ∀ t < s₀.size,
    Relation.ReflTransGen (s₀.Changes s t) (s₀.cell t).children (s.cell t).children

/-- Changes that were possible stay possible when the labels stay. -/
theorem Changes.later {s₀ s s' : Store} {edited : TokenId → Prop} {t : TokenId}
    {children children' : List Slot} (hc : s₀.Changes s t children children')
    (h : s₀.Touches edited s s') : s₀.Changes s' t children children' := by
  cases hc with
  | converted kind declares new made =>
      exact .converted (h.isContainer kind)
        (declares.imp (h.hasKind · (by decide)) (h.hasKind · (by decide))) new
        (h.hasKind made (by decide))
  | dropped kind statement =>
      exact .dropped (h.isContainer kind)
        (statement.imp (h.hasKind · (by decide)) (h.hasKind · (by decide)))
  | exported kind declares new made =>
      exact .exported (h.hasKind kind (by decide)) (h.hasKind declares (by decide)) new
        (h.hasKind made (by decide))
  | @called _ _ w kind new word leaf =>
      have hlt : w < s.size := lt_size_of_hasKind (hasKind_of_isToken word) (by decide)
      refine .called (h.hasKind kind (by decide)) new (h.isToken word (by decide)) ?_
      rw [h.cell_of_kind hlt, leaf]
      -- the word is no token that is ever edited
      have hkind := kind_of_hasKind (hasKind_of_isToken word)
      rw [hkind]
      decide
  | shortened kind first => exact .shortened (h.hasKind kind (by decide)) (h.isToken first (by decide))

theorem Keeps.refl (s : Store) : s.Keeps s :=
  ⟨Nat.le_refl _, fun _ _ => rfl, fun _ _ => rfl, fun _ _ => .refl⟩

/-- One more edit keeps what was kept. -/
theorem Keeps.touch {s₀ s s' : Store} {t : TokenId} (h : s₀.Keeps s) (htouch : s₀.Touch s t s') :
    s₀.Keeps s' := by
  have hsteps : s₀.Touches (fun _ => True) s s' := .single htouch fun _ => trivial
  have hlt : ∀ u < s₀.size, u < s.size := fun u hu => Nat.lt_of_lt_of_le hu h.size_le
  refine ⟨Nat.le_trans h.size_le htouch.size_le, fun u hu => ?_, fun u hu => ?_, fun u hu => ?_⟩
  · rw [htouch.label (hlt u hu), h.label u hu]
  · rw [htouch.comments (hlt u hu), h.comments u hu]
  · have hbefore : Relation.ReflTransGen (s₀.Changes s' u) (s₀.cell u).children (s.cell u).children := by
      refine Relation.ReflTransGen.head_induction_on (h.children u hu) .refl ?_
      exact fun hchange _ ih => .head (hchange.later hsteps) ih
    by_cases he : u = t
    · subst he
      cases htouch with
      | made => exact absurd (hlt _ hu) (Nat.lt_irrefl _)
      | changed lt hchange =>
          rw [cell_set_eq s u _ lt]
          exact hbefore.tail (hchange.later hsteps)
    · rw [htouch.children (hlt u hu) he]
      exact hbefore

theorem Touches.keeps {s₀ s : Store} {edited : TokenId → Prop} (h : s₀.Touches edited s₀ s) :
    s₀.Keeps s := by
  induction h with
  | refl => exact .refl _
  | tail _ htouch ih =>
      obtain ⟨t, htouch, -⟩ := htouch
      exact ih.touch htouch

/-- The store was made by single edits of the store `s₀`, and after each of them all tokens of `s₀`
were as they are to be. -/
def Moment (s₀ s : Store) : Prop :=
  Relation.ReflTransGen (fun s s' => ∃ t, s₀.Touch s t s' ∧ s₀.Keeps s') s₀ s

theorem Touches.moment {s₀ s : Store} {edited : TokenId → Prop} (h : s₀.Touches edited s₀ s) :
    s₀.Moment s := by
  induction h with
  | refl => exact .refl
  | tail hsteps htouch ih =>
      obtain ⟨t, htouch, -⟩ := htouch
      exact ih.tail ⟨t, htouch, (keeps hsteps).touch htouch⟩

end Store

/-! ## Edits -/

namespace Edit

variable {α β : Type} {s₀ s s' : Store} {edited : TokenId → Prop}

/-- From this store, the edit touches only new tokens and those in `edited`, however it ends. -/
def Touching (s₀ : Store) (edited : TokenId → Prop) (s : Store) (e : Edit α) : Prop :=
  s₀.Touches edited s (e.run.run s).2

namespace Touching

variable {e : Edit α} {f : α → Edit β}

theorem of_run {r : Except Fault α} (hrun : e.run.run s = (r, s')) (h : s₀.Touches edited s s') :
    Touching s₀ edited s e := by
  rw [Touching, hrun]
  exact h

theorem size_le_of_run {r : Except Fault α} (h : Touching s₀ edited s e)
    (hrun : e.run.run s = (r, s')) : s.size ≤ s'.size := by
  rw [Touching, hrun] at h
  exact h.size_le

/-- An edit that changes nothing. -/
theorem of_same (h : (e.run.run s).2 = s) : Touching s₀ edited s e := by
  rw [Touching, h]
  exact .refl _ _ _

theorem bind (he : Touching s₀ edited s e)
    (hf : ∀ a s₁, e.run.run s = (.ok a, s₁) → s₀.Touches edited s s₁ → Touching s₀ edited s₁ (f a)) :
    Touching s₀ edited s (e >>= f) := by
  rw [Touching, run_run_bind]
  rw [Touching] at he
  rcases hrun : e.run.run s with ⟨r, s₁⟩
  rw [hrun] at he
  cases r with
  | error fault => exact he
  | ok a => exact he.trans (hf a s₁ hrun he)

/-- The first part changes nothing. -/
theorem read_bind (he : (e.run.run s).2 = s)
    (hf : ∀ a, e.run.run s = (.ok a, s) → Touching s₀ edited s (f a)) :
    Touching s₀ edited s (e >>= f) := by
  refine (of_same he).bind fun a s₁ hrun _ => ?_
  obtain rfl : s₁ = s := by rw [← he, hrun]
  exact hf a hrun

theorem pure (a : α) : Touching s₀ edited s (pure a) := of_same rfl

theorem create (c : Cell) : Touching s₀ edited s (create c) := .push _ _ _ _

end Touching

end Edit

end ClassLift
