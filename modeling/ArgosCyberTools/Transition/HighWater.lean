import ArgosCyberTools.Transition.Lockstep

/-!
# High-water marks

A record keeps, for each name, the highest mark it was ever offered.  Marks
are compared by their rank, so that two marks may count as equally high; the
one recorded first then stays.  An offer that is below the record under some
name is refused as a whole.
-/

namespace Transition.HighWater

variable {Name Mark Rank : Type*} [LinearOrder Rank] (rank : Mark → Rank)

/-- What is recorded, or offered, under each name. -/
abbrev Marks (Name Mark : Type*) := Name → Option Mark

/-- Some name is offered a mark below the recorded one. -/
def Lowers (offered recorded : Marks Name Mark) : Prop :=
  ∃ name mark highest, offered name = some mark ∧
    recorded name = some highest ∧ rank mark < rank highest

/-- The higher of two marks; the recorded one, if they are equally high. -/
def higher (offered recorded : Option Mark) : Option Mark :=
  match offered, recorded with
  | none, _ => recorded
  | some mark, none => some mark
  | some mark, some highest =>
      if rank highest < rank mark then some mark else some highest

/-- The record after an offer. -/
def raised (offered recorded : Marks Name Mark) : Marks Name Mark :=
  fun name => higher rank (offered name) (recorded name)

/-- The mark is the highest one offered under the name. -/
structure Highest (history : List (Marks Name Mark)) (name : Name)
    (mark : Mark) : Prop where
  offered : ∃ offer ∈ history, offer name = some mark
  highest : ∀ offer ∈ history, ∀ other, offer name = some other →
    rank other ≤ rank mark

/-- The record holds the highest mark of every name ever offered. -/
def Records (history : List (Marks Name Mark)) (recorded : Marks Name Mark) :
    Prop :=
  ∀ name, (∀ mark, recorded name = some mark →
      Highest rank history name mark) ∧
    (recorded name = none → ∀ offer ∈ history, offer name = none)

/-- Nothing recorded is forgotten or lowered. -/
def Upholds (earlier later : Marks Name Mark) : Prop :=
  ∀ name mark, earlier name = some mark →
    ∃ kept, later name = some kept ∧ rank mark ≤ rank kept

theorem Upholds.refl (recorded : Marks Name Mark) :
    Upholds rank recorded recorded :=
  fun _ mark held => ⟨mark, held, le_rfl⟩

variable {rank}

theorem Upholds.trans {first second third : Marks Name Mark}
    (before : Upholds rank first second) (after : Upholds rank second third) :
    Upholds rank first third := by
  intro name mark held
  obtain ⟨middle, kept, below⟩ := before name mark held
  obtain ⟨last, still, further⟩ := after name middle kept
  exact ⟨last, still, below.trans further⟩

theorem upholds_raised (offered recorded : Marks Name Mark) :
    Upholds rank recorded (raised rank offered recorded) := by
  intro name highest held
  simp only [raised, held]
  cases offered name with
  | none => exact ⟨highest, rfl, le_rfl⟩
  | some mark =>
      simp only [higher]
      split_ifs with above
      · exact ⟨mark, rfl, above.le⟩
      · exact ⟨highest, rfl, le_rfl⟩

/-- Nothing is recorded before the first offer. -/
theorem records_nil :
    Records rank ([] : List (Marks Name Mark)) fun _ => none :=
  fun _ => ⟨(fun _ held => nomatch held), fun _ _ member => nomatch member⟩

theorem highest_append_iff {history : List (Marks Name Mark)}
    {offered : Marks Name Mark} {name : Name} {mark : Mark} :
    Highest rank (history ++ [offered]) name mark ↔
      ((∃ offer ∈ history, offer name = some mark) ∨
          offered name = some mark) ∧
        (∀ offer ∈ history, ∀ other, offer name = some other →
          rank other ≤ rank mark) ∧
        ∀ other, offered name = some other → rank other ≤ rank mark := by
  constructor
  · rintro ⟨given, highest⟩
    refine ⟨?_, ?_, ?_⟩
    · simpa [or_and_right, exists_or] using given
    · intro offer member
      exact highest offer (List.mem_append_left _ member)
    · exact highest offered (by simp)
  · rintro ⟨given, old, new⟩
    refine ⟨by simpa [or_and_right, exists_or] using given, ?_⟩
    intro offer member
    rcases List.mem_append.mp member with before | last
    · exact old offer before
    · rw [List.mem_singleton.mp last]
      exact new

/-- Raising a record keeps it true to its history. -/
theorem Records.raise {history : List (Marks Name Mark)}
    {recorded : Marks Name Mark} (records : Records rank history recorded)
    (offered : Marks Name Mark) :
    Records rank (history ++ [offered]) (raised rank offered recorded) := by
  intro name
  obtain ⟨known, unknown⟩ := records name
  simp only [raised, highest_append_iff]
  cases offers : offered name with
  | none =>
      constructor
      · intro mark held
        obtain ⟨given, highest⟩ := known mark held
        exact ⟨.inl given, highest, fun _ absent => nomatch absent⟩
      · intro absent offer member
        rcases List.mem_append.mp member with old | new
        · exact unknown absent offer old
        · rw [List.mem_singleton.mp new, offers]
  | some mark =>
      cases held : recorded name with
      | none =>
          constructor
          · rintro kept ⟨⟩
            refine ⟨.inr rfl, fun offer member other gives => ?_,
              fun _ same => (Option.some.inj same ▸ le_rfl)⟩
            rw [unknown held offer member] at gives
            cases gives
          · exact fun absent => nomatch absent
      | some highest =>
          obtain ⟨given, above⟩ := known highest held
          simp only [higher]
          split_ifs with raises
          · constructor
            · rintro kept ⟨⟩
              exact ⟨.inr rfl,
                fun offer member other gives =>
                  (above offer member other gives).trans raises.le,
                fun _ same => (Option.some.inj same ▸ le_rfl)⟩
            · exact fun absent => nomatch absent
          · constructor
            · rintro kept ⟨⟩
              exact ⟨.inl given, above,
                fun _ same => (Option.some.inj same ▸ not_lt.mp raises)⟩
            · exact fun absent => nomatch absent

end Transition.HighWater
