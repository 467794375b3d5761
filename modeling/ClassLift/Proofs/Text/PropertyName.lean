import ClassLift.Text.Word

set_option autoImplicit false

/-! # The characters of property names

A property name is an identifier name, or an identifier name and one line feed
(`isPropertyName_iff`). So each of its characters is a name character or that line feed; in
particular none of them is a carriage return, a backslash or another ASCII character that
names do not have (`not_mem_of_isPropertyName`).
-/

namespace ClassLift

/-- Are the characters an identifier name, from the first to the last? -/
def isWholeName : List Char → Bool
  | [] => false
  | c :: rest => isNameStart c && rest.all isNamePart

/-! ## The end of a name -/

theorem isNameTail_iff {cs : List Char} :
    isNameTail cs = true ↔
      ∃ body, body.all isNamePart = true ∧ (cs = body ∨ cs = body ++ ['\n']) := by
  constructor
  · intro h
    induction cs with
    | nil => exact ⟨[], rfl, .inl rfl⟩
    | cons c cs ih =>
        by_cases final : c = '\n' ∧ cs = []
        · obtain ⟨rfl, rfl⟩ := final
          exact ⟨[], rfl, .inr rfl⟩
        · rw [isNameTail.eq_3 c cs (by simpa using final), Bool.and_eq_true] at h
          obtain ⟨body, hbody, hcs⟩ := ih h.2
          refine ⟨c :: body, by simp [h.1, hbody], ?_⟩
          exact hcs.imp (congrArg (c :: ·)) (congrArg (c :: ·))
  · rintro ⟨body, hbody, hcs⟩
    induction body generalizing cs with
    | nil => rcases hcs with rfl | rfl <;> rfl
    | cons c body ih =>
        simp only [List.all_cons, Bool.and_eq_true] at hbody
        -- a name character is no line feed, so the tail does not end with it
        have part : ∀ rest, isNameTail (c :: rest) = (isNamePart c && isNameTail rest) := by
          intro rest
          refine isNameTail.eq_3 c rest fun feed _ => ?_
          rw [feed] at hbody
          exact absurd hbody.1 (by decide)
        rcases hcs with rfl | rfl
        · rw [part, hbody.1, ih hbody.2 (.inl rfl)]
          rfl
        · rw [List.cons_append, part, hbody.1, ih hbody.2 (.inr rfl)]
          rfl

theorem isPropertyName_iff {name : String} :
    isPropertyName name = true ↔
      ∃ body, isWholeName body = true ∧ (name.toList = body ∨ name.toList = body ++ ['\n']) := by
  unfold isPropertyName
  cases name.toList with
  | nil =>
      constructor
      · intro h
        cases h
      · rintro ⟨body, hbody, h | h⟩
        · rw [← h] at hbody
          cases hbody
        · simp at h
  | cons c rest =>
      -- the tail may end in a line feed, and then so does the name
      simp only [Bool.and_eq_true, isNameTail_iff]
      constructor
      · rintro ⟨hstart, body, hbody, hrest⟩
        refine ⟨c :: body, by simp [isWholeName, hstart, hbody], ?_⟩
        exact hrest.imp (congrArg (c :: ·)) (congrArg (c :: ·))
      · rintro ⟨body, hbody, hname⟩
        cases body with
        | nil => cases hbody
        | cons d body =>
            simp only [isWholeName, Bool.and_eq_true] at hbody
            simp only [List.cons_append, List.cons.injEq] at hname
            have hd : c = d := by
              rcases hname with h | h
              · exact h.1
              · exact h.1
            subst hd
            exact ⟨hbody.1, body, hbody.2, hname.imp And.right And.right⟩

/-! ## Single characters -/

theorem toNat_lt_of_isAlpha {c : Char} (h : c.isAlpha = true) : c.toNat < 0x80 := by
  have letter : c.isUpper = true ∨ c.isLower = true := (Bool.or_eq_true _ _).mp h
  rcases letter with upper | lower
  · have last : c.val ≤ 'Z'.val := (of_decide_eq_true upper).2
    exact Nat.lt_of_le_of_lt (UInt32.le_iff_toNat_le.mp last) (by decide)
  · have last : c.val ≤ 'z'.val := of_decide_eq_true ((Bool.and_eq_true _ _).mp lower).2
    exact Nat.lt_of_le_of_lt (UInt32.le_iff_toNat_le.mp last) (by decide)

theorem isNamePart_of_isNameStart {c : Char} (h : isNameStart c = true) : isNamePart c = true := by
  simp only [isNameStart, Bool.or_eq_true, beq_iff_eq] at h
  simp only [isNamePart, isWordChar, Bool.or_eq_true, beq_iff_eq]
  rcases h with (h | h) | h
  · left; right
    simp [isAlphanumeric, toNat_lt_of_isAlpha h, Char.isAlphanum, h]
  · exact .inl (.inl h)
  · exact .inr h

theorem isNamePart_of_isWholeName {body : List Char} (h : isWholeName body = true) :
    ∀ c ∈ body, isNamePart c = true := by
  cases body with
  | nil => cases h
  | cons d rest =>
      simp only [isWholeName, Bool.and_eq_true, List.all_eq_true] at h
      intro c hc
      rcases List.mem_cons.mp hc with rfl | hc
      · exact isNamePart_of_isNameStart h.1
      · exact h.2 c hc

/-- A character that is neither a name character nor a line feed is in no property name. -/
theorem not_mem_of_isPropertyName {name : String} {c : Char} (h : isPropertyName name = true)
    (hc : isNamePart c = false ∧ c ≠ '\n') : c ∉ name.toList := by
  obtain ⟨body, hbody, hname⟩ := isPropertyName_iff.mp h
  have outside : c ∉ body := fun hmem => by
    rw [isNamePart_of_isWholeName hbody c hmem] at hc
    exact absurd hc.1 (by decide)
  rcases hname with hname | hname
  · rwa [hname]
  · rw [hname, List.mem_append, List.mem_singleton]
    rintro (hmem | feed)
    · exact outside hmem
    · exact hc.2 feed

end ClassLift
