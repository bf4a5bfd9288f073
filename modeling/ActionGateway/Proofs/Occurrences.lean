import ActionGateway.Text.Search

/-!
# First occurrences

Where a search ends follows from two facts: that the pattern stands there, and that it stands
nowhere before. The second one is about all places before, those included at which the pattern would
reach into itself. A pattern whose **first byte does not come back** in it (`Bytes.StandsApart`)
never does: two of its occurrences have no byte in common. Delimiters and words are such patterns,
and for them it is enough that what comes before does not hold the pattern (`Bytes.cut?_append`).

The statements go by what the search is defined as on lists (`firstCut?`): it looks at the front,
and if the pattern does not begin there, goes one byte further.
-/

namespace ActionGateway

namespace Bytes

/-- The first byte of the pattern does not come back in it. -/
def StandsApart (pattern : Bytes) : Prop :=
  ∃ first rest, pattern = first :: rest ∧ first ∉ rest

variable {c : UInt8} {tail pattern before after front back : Bytes}

/-- Such a pattern has a first byte. -/
theorem StandsApart.ne_nil (hpattern : StandsApart pattern) : pattern ≠ [] := by
  obtain ⟨first, rest, rfl, -⟩ := hpattern
  exact List.cons_ne_nil first rest

/-- An occurrence that follows another one follows all of it. -/
theorem StandsApart.prefix_of_append_eq (hpattern : StandsApart pattern)
    (h : pattern ++ after = front ++ (pattern ++ back)) : front = [] ∨ pattern <+: front := by
  obtain ⟨c, tail, rfl, hc⟩ := hpattern
  rcases front with _ | ⟨b, front⟩
  · exact .inl rfl
  · right
    rcases List.append_eq_append_iff.mp h with ⟨rest, hfront, -⟩ | ⟨rest, hpattern, hrest⟩
    · exact ⟨rest, hfront.symm⟩
    · rcases rest with _ | ⟨d, rest⟩
      · exact ⟨[], by rw [hpattern, List.append_nil, List.append_nil]⟩
      · -- the second occurrence would begin in the tail of the first
        obtain ⟨-, htail⟩ := List.cons.inj hpattern
        obtain ⟨rfl, -⟩ := List.cons.inj hrest
        exact absurd (htail ▸ List.mem_append_right front List.mem_cons_self) hc

/-! ## Cutting

A search cuts the bytes in two, before and after the first place of the pattern. The inductions are
on what comes before that place: each byte of it is passed over, because the pattern does not begin
there. -/

/-- Where the pattern does not begin, the search goes on behind the first byte. -/
theorem firstCut?_cons_of_not_begins {b : UInt8} (h : ¬ pattern <+: b :: front) :
    firstCut? pattern (b :: front) =
      (firstCut? pattern front).map fun cut => (b :: cut.1, cut.2) := by
  have hafter : after? pattern (b :: front) = none := by
    refine Option.eq_none_iff_forall_ne_some.mpr fun rest hrest => h ?_
    exact ⟨rest, (after?_eq_some_iff.mp hrest).symm⟩
  simp only [firstCut?, hafter]

/-- Bytes that do not hold the pattern are not cut. -/
theorem cut?_eq_none (h : ¬ pattern <:+: front) : cut? pattern front = none := by
  rw [cut?_eq_firstCut?]
  induction front with
  | nil =>
    have hafter : after? pattern [] = none := by
      refine Option.eq_none_iff_forall_ne_some.mpr fun rest hrest => h ?_
      exact ⟨[], rest, by rw [List.nil_append, (after?_eq_some_iff.mp hrest)]⟩
    simp only [firstCut?, hafter, Option.map_none]
  | cons b front ih =>
    rw [List.infix_cons_iff, not_or] at h
    rw [firstCut?_cons_of_not_begins h.1, ih h.2, Option.map_none]

/-- **The bytes are cut where the pattern first stands.** It is not enough that the pattern does not
occur in what comes before: an occurrence could begin there and end in the pattern itself, unless
the pattern stands apart. -/
theorem cut?_append (hpattern : StandsApart pattern) (h : ¬ pattern <:+: front) (back : Bytes) :
    cut? pattern (front ++ (pattern ++ back)) = some (front, back) := by
  rw [cut?_eq_firstCut?]
  induction front with
  | nil => exact firstCut?_of_after?_eq_some (after?_eq_some_iff.mpr rfl)
  | cons b front ih =>
    rw [List.infix_cons_iff, not_or] at h
    -- an occurrence that began here would reach into the one that follows, or lie before it
    have hbegins : ¬ pattern <+: b :: (front ++ (pattern ++ back)) := by
      rintro ⟨rest, hrest⟩
      rw [← List.cons_append] at hrest
      rcases hpattern.prefix_of_append_eq hrest with hnil | hfront
      · cases hnil
      · exact h.1 hfront
    rw [List.cons_append, firstCut?_cons_of_not_begins hbegins, ih h.2, Option.map_some]

/-- Bytes among which the first one of the pattern is not are passed over. -/
theorem firstCut?_append_of_not_mem (h : c ∉ front) (back : Bytes) :
    firstCut? (c :: tail) (front ++ back) =
      (firstCut? (c :: tail) back).map fun cut => (front ++ cut.1, cut.2) := by
  induction front with
  | nil => exact Option.map_id'.symm
  | cons b front ih =>
    obtain ⟨hb, hfront⟩ := List.ne_and_not_mem_of_not_mem_cons h
    have hbegins : ¬ c :: tail <+: b :: (front ++ back) :=
      fun hbegins => hb (List.cons_prefix_cons.mp hbegins).1
    rw [List.cons_append, firstCut?_cons_of_not_begins hbegins, ih hfront, Option.map_map]
    rfl

/-! ## Occurrences

Where a pattern stands in bytes that are put together, it stands in one of the two parts, or across
the seam. A byte at the seam that the pattern does not hold rules the latter out. -/

/-- Where a pattern stands at all, there is a first place. -/
theorem exists_first_of_holds (hpattern : pattern ≠ []) (h : pattern <:+: front) :
    ∃ before after, front = before ++ (pattern ++ after) ∧ ¬ pattern <:+: before := by
  induction front with
  | nil => exact absurd (List.infix_nil.mp h) hpattern
  | cons b front ih =>
    by_cases hbegins : pattern <+: b :: front
    · obtain ⟨after, hafter⟩ := hbegins
      exact ⟨[], after, hafter.symm, fun hnil => hpattern (List.infix_nil.mp hnil)⟩
    · obtain ⟨before, after, rfl, hbefore⟩ := ih ((List.infix_cons_iff.mp h).resolve_left hbegins)
      refine ⟨b :: before, after, rfl, fun hholds => ?_⟩
      rcases List.infix_cons_iff.mp hholds with hstart | hholds
      · exact hbegins (hstart.trans (List.prefix_append (b :: before) (pattern ++ after)))
      · exact hbefore hholds

/-- A pattern without the separator stands before it or after it. -/
theorem infix_append_cons_iff {separator : UInt8} (hpattern : pattern ≠ [])
    (h : separator ∉ pattern) :
    pattern <:+: front ++ separator :: back ↔ pattern <:+: front ∨ pattern <:+: back := by
  constructor
  · rintro ⟨before, after, heq⟩
    rw [List.append_assoc] at heq
    -- the occurrence begins before the separator, or after it
    rcases List.append_eq_append_iff.mp heq with ⟨rest, hfront, hrest⟩ | ⟨rest, hbefore, hrest⟩
    · rcases List.append_eq_append_iff.mp hrest with ⟨more, hmore, -⟩ | ⟨more, hmore, hback⟩
      · exact .inl ⟨before, more, by rw [hfront, hmore, List.append_assoc]⟩
      · rcases more with _ | ⟨d, more⟩
        · rw [List.append_nil] at hmore
          exact .inl ⟨before, [], by rw [hfront, hmore, List.append_nil]⟩
        · obtain ⟨rfl, -⟩ := List.cons.inj hback
          exact absurd (hmore ▸ List.mem_append_right rest List.mem_cons_self) h
    · rcases rest with _ | ⟨d, rest⟩
      · rcases pattern with _ | ⟨p, pattern⟩
        · exact absurd rfl hpattern
        · obtain ⟨rfl, -⟩ := List.cons.inj hrest
          exact absurd List.mem_cons_self h
      · obtain ⟨-, hback⟩ := List.cons.inj hrest
        refine .inr ⟨rest, after, ?_⟩
        rw [hback]
        exact List.append_assoc rest pattern after
  · rintro (hfront | hback)
    · exact hfront.trans (List.prefix_append _ _).isInfix
    · exact hback.trans ((List.suffix_cons _ _).trans (List.suffix_append _ _)).isInfix

/-- **Twice in a row** a pattern stands right after its first occurrence, or later. This is what
tells an overlooked file from one that is found. -/
theorem StandsApart.twice_infix_iff (hpattern : StandsApart pattern) (h : ¬ pattern <:+: before) :
    pattern ++ pattern <:+: before ++ (pattern ++ after) ↔
      pattern <+: after ∨ pattern ++ pattern <:+: after := by
  constructor
  · rintro ⟨front, back, heq⟩
    rw [List.append_assoc, List.append_assoc] at heq
    -- the two in a row begin before the first occurrence ends, or after it
    rcases List.append_eq_append_iff.mp heq with ⟨rest, hbefore, hrest⟩ | ⟨rest, -, hrest⟩
    · rcases hpattern.prefix_of_append_eq hrest with rfl | hbegins
      · exact .inl ⟨back, List.append_cancel_left hrest⟩
      · exact absurd (hbegins.isInfix.trans (hbefore ▸ (List.suffix_append front rest).isInfix)) h
    · rcases hpattern.prefix_of_append_eq hrest with rfl | ⟨more, rfl⟩
      · exact .inl ⟨back, (List.append_cancel_left hrest).symm⟩
      · rw [List.append_assoc] at hrest
        refine .inr ⟨more, back, ?_⟩
        rw [List.append_cancel_left hrest, List.append_assoc, List.append_assoc]
  · rintro (⟨back, rfl⟩ | hafter)
    · exact ⟨before, back, by simp only [List.append_assoc]⟩
    · exact hafter.trans ((List.suffix_append _ _).trans (List.suffix_append _ _)).isInfix

end Bytes

end ActionGateway
