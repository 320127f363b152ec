import ArgosCyberTools.Coding.SelfDelimiting

/-!
# Separated lists

Text formats write a list with a separator between its items and a closing
symbol behind the last one.  Its items need not be self-delimiting: a numeral
ends only where a separator or a closing symbol follows it.  Words are
therefore peeled off streams whose next symbol is known, and a separated list
of peelable words can be peeled off any stream.
-/

namespace Coding

variable {α β : Type*} {ends : Set β}

/-- The stream is empty or begins with one of the symbols. -/
def Follows (ends : Set β) (rest : List β) : Prop :=
  ∀ symbol ∈ rest.head?, symbol ∈ ends

theorem follows_nil : Follows ends [] := by
  rintro symbol ⟨⟩

@[simp]
theorem follows_cons {symbol : β} {rest : List β} :
    Follows ends (symbol :: rest) ↔ symbol ∈ ends := by
  constructor
  · intro follows
    exact follows symbol rfl
  · rintro member first ⟨⟩
    exact member

/--
Two words begin equal streams, each followed by one of the symbols, only if
the fact holds and the same remains behind them.
-/
def Peels (ends : Set β) (left right : List β) (fact : Prop) : Prop :=
  ∀ ⦃leftRest⦄, Follows ends leftRest →
    ∀ ⦃rightRest⦄, Follows ends rightRest →
      left ++ leftRest = right ++ rightRest → fact ∧ leftRest = rightRest

namespace Peels

variable {left right : List β} {fact other : Prop}

/-- Nothing has to follow the words. -/
theorem of_eq (peels : Peels ends left right fact) (equal : left = right) :
    fact :=
  (peels follows_nil follows_nil (by rw [equal])).1

theorem imp (peels : Peels ends left right fact) (weaker : fact → other) :
    Peels ends left right other := by
  intro leftRest leftFollows rightRest rightFollows equal
  obtain ⟨holds, rests⟩ := peels leftFollows rightFollows equal
  exact ⟨weaker holds, rests⟩

theorem symm (peels : Peels ends left right fact) :
    Peels ends right left fact := by
  intro rightRest rightFollows leftRest leftFollows equal
  obtain ⟨holds, rests⟩ := peels leftFollows rightFollows equal.symm
  exact ⟨holds, rests.symm⟩

/-- Fixed text in front of both words changes nothing. -/
theorem prepend (opening : List β) (peels : Peels ends left right fact) :
    Peels ends (opening ++ left) (opening ++ right) fact := by
  intro leftRest leftFollows rightRest rightFollows equal
  rw [List.append_assoc, List.append_assoc] at equal
  exact peels leftFollows rightFollows (List.append_cancel_left equal)

/-- Words with different first symbols begin no common stream. -/
theorem of_heads_ne {first second : β} (differ : first ≠ second) :
    Peels ends (first :: left) (second :: right) fact := by
  intro leftRest _ rightRest _ equal
  exact (differ (List.cons.inj equal).1).elim

/-- A word without the symbols ends where one of them follows. -/
theorem of_free (leftFree : ∀ symbol ∈ left, symbol ∉ ends)
    (rightFree : ∀ symbol ∈ right, symbol ∉ ends) :
    Peels ends left right (left = right) := by
  intro leftRest leftFollows rightRest rightFollows equal
  induction left generalizing right with
  | nil =>
      cases right with
      | nil => exact ⟨rfl, equal⟩
      | cons symbol right =>
          rw [List.nil_append] at equal
          rw [equal, List.cons_append, follows_cons] at leftFollows
          exact (rightFree symbol List.mem_cons_self leftFollows).elim
  | cons symbol left induction =>
      cases right with
      | nil =>
          rw [List.nil_append] at equal
          rw [← equal, List.cons_append, follows_cons] at rightFollows
          exact (leftFree symbol List.mem_cons_self rightFollows).elim
      | cons other right =>
          obtain ⟨rfl, streams⟩ := List.cons.inj equal
          obtain ⟨rfl, rests⟩ :=
            induction
              (fun later member =>
                leftFree later (List.mem_cons_of_mem _ member))
              (fun later member =>
                rightFree later (List.mem_cons_of_mem _ member))
              streams
          exact ⟨rfl, rests⟩

/-- Words peeled one after the other, when what follows the first is known. -/
theorem append {anything : Set β} {leftTail rightTail : List β}
    (head : Peels ends left right fact)
    (tail : Peels anything leftTail rightTail other)
    (leftFollows : ∀ rest, Follows ends (leftTail ++ rest))
    (rightFollows : ∀ rest, Follows ends (rightTail ++ rest)) :
    Peels anything (left ++ leftTail) (right ++ rightTail) (fact ∧ other) := by
  intro leftRest leftRestFollows rightRest rightRestFollows equal
  rw [List.append_assoc, List.append_assoc] at equal
  obtain ⟨first, tails⟩ := head (leftFollows _) (rightFollows _) equal
  obtain ⟨second, rests⟩ := tail leftRestFollows rightRestFollows tails
  exact ⟨⟨first, second⟩, rests⟩

end Peels

namespace SelfDelimiting

variable {encode : α → List β} {domain : Set α} {item other : α}

/-- Whatever follows, self-delimiting code words can be peeled off. -/
theorem peels (delimited : SelfDelimiting encode domain)
    (member : item ∈ domain) (otherMember : other ∈ domain) :
    Peels ends (encode item) (encode other) (item = other) := by
  intro leftRest _ rightRest _ equal
  exact delimited member otherMember _ _ equal

/-- A self-delimiting code word in front of a peelable word. -/
theorem peels_append (delimited : SelfDelimiting encode domain)
    (member : item ∈ domain) (otherMember : other ∈ domain)
    {left right : List β} {fact : Prop} (tail : Peels ends left right fact) :
    Peels ends (encode item ++ left) (encode other ++ right)
      (item = other ∧ fact) := by
  have head : Peels Set.univ (encode item) (encode other) (item = other) :=
    delimited.peels member otherMember
  have anything (stream : List β) : Follows Set.univ stream := by
    intro symbol _
    exact Set.mem_univ symbol
  exact head.append tail (fun _ => anything _) (fun _ => anything _)

end SelfDelimiting

/-! ## Lists -/

section Separated

variable {separator close : β}

/-- What stands behind an item: the items still to come and the end. -/
def continued (separator close : β) : List (List β) → List β
  | [] => [close]
  | word :: words => separator :: (word ++ continued separator close words)

theorem intercalate_append_close (word : List β) (words : List (List β)) :
    [separator].intercalate (word :: words) ++ [close] =
      word ++ continued separator close words := by
  induction words generalizing word with
  | nil => rw [List.intercalate_singleton, continued]
  | cons next words induction =>
      rw [List.intercalate_cons_cons, List.append_assoc, induction, continued,
        List.append_assoc, List.singleton_append]

theorem follows_continued (separates : separator ∈ ends)
    (closes : close ∈ ends) (words : List (List β)) (rest : List β) :
    Follows ends (continued separator close words ++ rest) := by
  cases words with
  | nil => exact follows_cons.mpr closes
  | cons word words => exact follows_cons.mpr separates

variable {encode : α → List β} {related : α → α → Prop} {left right : List α}

/-- Behind an item, the rest of the list can be peeled off any stream. -/
theorem peels_continued {anything : Set β} (separates : separator ∈ ends)
    (closes : close ∈ ends) (differ : separator ≠ close)
    (peels : ∀ item ∈ left, ∀ other ∈ right,
      Peels ends (encode item) (encode other) (related item other)) :
    Peels anything (continued separator close (left.map encode))
      (continued separator close (right.map encode))
      (List.Forall₂ related left right) := by
  induction left generalizing right with
  | nil =>
      cases right with
      | nil =>
          intro leftRest _ rightRest _ equal
          exact ⟨.nil, (List.cons.inj equal).2⟩
      | cons other right => exact .of_heads_ne differ.symm
  | cons item left induction =>
      cases right with
      | nil => exact .of_heads_ne differ
      | cons other right =>
          have head :=
            peels item List.mem_cons_self other List.mem_cons_self
          have tail :=
            induction fun item member other otherMember =>
              peels item (List.mem_cons_of_mem _ member) other
                (List.mem_cons_of_mem _ otherMember)
          have both :=
            head.append tail (follows_continued separates closes _)
              (follows_continued separates closes _)
          exact (both.imp fun holds => .cons holds.1 holds.2).prepend [separator]

/--
A closed list of peelable words, none of which begins with the closing
symbol, can be peeled off any stream.
-/
theorem peels_separated {anything : Set β} (separates : separator ∈ ends)
    (closes : close ∈ ends) (differ : separator ≠ close)
    (fresh : ∀ item, item ∈ left ∨ item ∈ right → ∃ first rest,
      encode item = first :: rest ∧ first ≠ close)
    (peels : ∀ item ∈ left, ∀ other ∈ right,
      Peels ends (encode item) (encode other) (related item other)) :
    Peels anything ([separator].intercalate (left.map encode) ++ [close])
      ([separator].intercalate (right.map encode) ++ [close])
      (List.Forall₂ related left right) := by
  cases left with
  | nil =>
      cases right with
      | nil =>
          intro leftRest _ rightRest _ equal
          exact ⟨.nil, (List.cons.inj equal).2⟩
      | cons other right =>
          obtain ⟨first, rest, code, distinct⟩ :=
            fresh other (.inr List.mem_cons_self)
          rw [List.map_cons, intercalate_append_close, code]
          exact .of_heads_ne distinct.symm
  | cons item left =>
      cases right with
      | nil =>
          obtain ⟨first, rest, code, distinct⟩ :=
            fresh item (.inl List.mem_cons_self)
          rw [List.map_cons, intercalate_append_close, code]
          exact .of_heads_ne distinct
      | cons other right =>
          -- Both lists are an item and what it is continued with.
          have head :=
            peels item List.mem_cons_self other List.mem_cons_self
          have tail :=
            @peels_continued _ _ ends _ _ encode related left right anything
              separates closes differ fun item member other otherMember =>
                peels item (List.mem_cons_of_mem _ member) other
                  (List.mem_cons_of_mem _ otherMember)
          have both :=
            head.append tail (follows_continued separates closes _)
              (follows_continued separates closes _)
          rw [List.map_cons, List.map_cons, intercalate_append_close,
            intercalate_append_close]
          exact both.imp fun holds => .cons holds.1 holds.2

end Separated

end Coding
