import ArgosCyberTools.Coding.Separated

/-!
# Reading words off a stream

A reader takes a value off the front of a stream.  It reads a word back when,
in front of any stream that begins with one of the given symbols, it returns
the value the word was written for and leaves the rest alone.  The loops that
read a run of words up to a terminator, or a separated list up to a closing
symbol, read back what their words read back.

The loops carry a bound on their turns.  Every turn takes at least one symbol
off the stream, so any bound above the length of the stream gives the same
answer.
-/

namespace Coding

variable {α β : Type*}

/-- Takes a value off the front of a stream. -/
abbrev Reader (β α : Type*) := List β → Option (α × List β)

/-- In front of any of the symbols, the word is read as the value. -/
def ReadsAs (ends : Set β) (read : Reader β α) (word : List β) (value : α) :
    Prop :=
  ∀ ⦃rest⦄, Follows ends rest → read (word ++ rest) = some (value, rest)

/-- The reader takes at least one symbol. -/
def Consumes (read : Reader β α) : Prop :=
  ∀ ⦃stream value rest⦄, read stream = some (value, rest) →
    rest.length < stream.length

variable [DecidableEq β] {ends : Set β} {separator close terminator : β}

/-! ## Runs -/

/-- Values up to the terminator. -/
def readRun (terminator : β) (read : Reader β α) : Nat → Reader β (List α)
  | 0, _ => none
  | _ + 1, [] => none
  | turns + 1, symbol :: stream =>
      if symbol = terminator then some ([], stream)
      else do
        let (value, later) ← read (symbol :: stream)
        let (values, rest) ← readRun terminator read turns later
        return (value :: values, rest)

section Runs

variable {read : Reader β α} {encode : α → List β}

/-- A run of words, none of which begins with the terminator. -/
theorem readsAs_run {values : List α} {turns : Nat}
    (fresh : ∀ value ∈ values, ∃ first rest,
      encode value = first :: rest ∧ first ≠ terminator)
    (reads : ∀ value ∈ values,
      ReadsAs Set.univ read (encode value) value)
    (enough : values.length < turns) :
    ReadsAs ends (readRun terminator read turns)
      (values.flatMap encode ++ [terminator]) values := by
  intro rest follows
  induction values generalizing turns with
  | nil =>
      obtain ⟨turns, rfl⟩ := Nat.exists_eq_add_one_of_ne_zero
        (Nat.ne_of_gt enough)
      simp [readRun]
  | cons value values induction =>
      obtain ⟨turns, rfl⟩ := Nat.exists_eq_add_one_of_ne_zero
        (Nat.ne_of_gt (Nat.zero_lt_of_lt enough))
      obtain ⟨first, code, spelled, distinct⟩ :=
        fresh value List.mem_cons_self
      have head :
          read (encode value ++
              (values.flatMap encode ++ [terminator] ++ rest)) =
            some (value, values.flatMap encode ++ [terminator] ++ rest) := by
        apply reads value List.mem_cons_self
        intro symbol _
        exact Set.mem_univ symbol
      have tail := induction
        (fun later member => fresh later (List.mem_cons_of_mem _ member))
        (fun later member => reads later (List.mem_cons_of_mem _ member))
        (Nat.lt_of_succ_lt_succ enough)
      rw [spelled, List.cons_append] at head
      rw [List.flatMap_cons, spelled, List.append_assoc, List.append_assoc,
        ← List.append_assoc (values.flatMap encode), List.cons_append, readRun,
        if_neg distinct, head]
      simp only [Option.bind_eq_bind, Option.bind_some, tail]
      rfl

theorem consumes_readRun (consumes : Consumes read) (turns : Nat) :
    Consumes (readRun terminator read turns) := by
  intro stream values rest result
  induction turns generalizing stream values with
  | zero => cases result
  | succ turns induction =>
      cases stream with
      | nil => cases result
      | cons symbol stream =>
          rw [readRun] at result
          split_ifs at result with ended
          · cases result
            exact Nat.lt_succ_self _
          · simp only [Option.bind_eq_bind, Option.bind_eq_some_iff] at result
            obtain ⟨⟨value, later⟩, head, ⟨others, behind⟩, tail, same⟩ :=
              result
            cases same
            exact (induction tail).trans (consumes head)

end Runs

/-- All values of a stream. -/
def readAll (read : Reader β α) : Nat → List β → Option (List α)
  | _, [] => some []
  | 0, _ :: _ => none
  | turns + 1, symbol :: stream =>
      (read (symbol :: stream)).bind fun taken =>
        (readAll read turns taken.2).map (taken.1 :: ·)

omit [DecidableEq β] in
/-- A stream of nonempty words. -/
theorem readAll_flatMap {read : Reader β α} {encode : α → List β}
    {values : List α} {turns : Nat}
    (nonempty : ∀ value ∈ values, encode value ≠ [])
    (reads : ∀ value ∈ values,
      ReadsAs Set.univ read (encode value) value)
    (enough : (values.flatMap encode).length ≤ turns) :
    readAll read turns (values.flatMap encode) = some values := by
  induction values generalizing turns with
  | nil => cases turns <;> rfl
  | cons value values induction =>
      obtain ⟨first, code, spelled⟩ :=
        List.exists_cons_of_ne_nil (nonempty value List.mem_cons_self)
      have head : read (encode value ++ values.flatMap encode) =
          some (value, values.flatMap encode) := by
        apply reads value List.mem_cons_self
        intro symbol _
        exact Set.mem_univ symbol
      rw [List.flatMap_cons, spelled, List.cons_append, List.length_cons,
        List.length_append] at enough
      obtain ⟨turns, rfl⟩ := Nat.exists_eq_add_one_of_ne_zero
        (Nat.ne_of_gt (Nat.lt_of_lt_of_le (Nat.succ_pos _) enough))
      have tail := @induction turns
        (fun later member => nonempty later (List.mem_cons_of_mem _ member))
        (fun later member => reads later (List.mem_cons_of_mem _ member))
        (by omega)
      rw [spelled, List.cons_append] at head
      rw [List.flatMap_cons, spelled, List.cons_append, readAll, head,
        Option.bind_some, tail, Option.map_some]

/-! ## Separated lists -/

section Lists

/-- An item, and what stands behind it up to the closing symbol. -/
def readContinued (blank : β → Bool) (separator close : β)
    (read : Reader β α) : Nat → Reader β (List α)
  | 0, _ => none
  | turns + 1, stream => do
      let (item, behind) ← read stream
      match behind.dropWhile blank with
      | [] => none
      | symbol :: later =>
          if symbol = close then return ([item], later)
          else if symbol = separator then do
            let (items, rest) ←
              readContinued blank separator close read turns
                (later.dropWhile blank)
            return (item :: items, rest)
          else none

/-- The items up to the closing symbol, if there are any. -/
def readClosed (blank : β → Bool) (separator close : β) (read : Reader β α)
    (turns : Nat) : Reader β (List α) := fun stream =>
  match stream.dropWhile blank with
  | [] => none
  | symbol :: later =>
      if symbol = close then return ([], later)
      else readContinued blank separator close read turns (symbol :: later)

/-- What stands behind an item: a gap before each item, and the end. -/
def laidOut (separator close : β) (gap finish : List β) :
    List (List β) → List β
  | [] => finish ++ [close]
  | word :: words =>
      separator :: (gap ++ (word ++ laidOut separator close gap finish words))

/-- Blanks may stand around the items, and are told from all else. -/
structure Layout (ends : Set β) (blank : β → Bool) (separator close : β)
    (gap finish : List β) : Prop where
  differ : separator ≠ close
  solidSeparator : blank separator = false
  solidClose : blank close = false
  separates : separator ∈ ends
  closes : close ∈ ends
  blankEnds : ∀ symbol, blank symbol = true → symbol ∈ ends
  gapBlank : ∀ symbol ∈ gap, blank symbol = true
  finishBlank : ∀ symbol ∈ finish, blank symbol = true

variable {blank : β → Bool} {gap finish : List β}

omit [DecidableEq β]

theorem intercalate_append_finish (gap finish word : List β)
    (words : List (List β)) :
    (separator :: gap).intercalate (word :: words) ++ (finish ++ [close]) =
      word ++ laidOut separator close gap finish words := by
  induction words generalizing word with
  | nil => rw [List.intercalate_singleton, laidOut]
  | cons next words induction =>
      rw [List.intercalate_cons_cons, List.append_assoc, induction, laidOut,
        List.append_assoc, List.cons_append]

/-- A separated list has a symbol for each item but the first. -/
theorem length_le_intercalate (gap : List β) (words : List (List β)) :
    words.length ≤ ((separator :: gap).intercalate words).length + 1 := by
  induction words with
  | nil => exact Nat.zero_le _
  | cons word words induction =>
      cases words with
      | nil => simp
      | cons next words =>
          rw [List.intercalate_cons_cons, List.length_append,
            List.length_append, List.length_cons, List.length_cons,
            List.length_cons]
          rw [List.length_cons] at induction
          omega

theorem dropWhile_blank_append (blanks : ∀ symbol ∈ gap, blank symbol = true)
    (stream : List β) :
    (gap ++ stream).dropWhile blank = stream.dropWhile blank := by
  rw [List.dropWhile_append, List.dropWhile_eq_nil_iff.mpr blanks]
  rfl

theorem dropWhile_blank_cons {symbol : β} (solid : blank symbol = false)
    (stream : List β) :
    (symbol :: stream).dropWhile blank = symbol :: stream := by
  rw [List.dropWhile_cons, if_neg (by rw [solid]; exact Bool.false_ne_true)]

/-- Blanks, a separator or the closing symbol follow an item. -/
theorem Layout.follows
    (layout : Layout ends blank separator close gap finish)
    (words : List (List β)) (rest : List β) :
    Follows ends (laidOut separator close gap finish words ++ rest) := by
  cases words with
  | nil =>
      cases finish with
      | nil => exact follows_cons.mpr layout.closes
      | cons symbol finish =>
          apply follows_cons.mpr
          apply layout.blankEnds
          exact layout.finishBlank symbol List.mem_cons_self
  | cons word words => exact follows_cons.mpr layout.separates

variable {γ : Type*} [DecidableEq β] {read : Reader β α}
  {encode : γ → List β} {meaning : γ → α}

/-- Items are read back, the first from behind its gap on. -/
theorem Layout.readsAs_continued {anything : Set β} {item : γ}
    {items : List γ} {turns : Nat}
    (layout : Layout ends blank separator close gap finish)
    (opens : ∀ other ∈ item :: items, ∃ first later,
      encode other = first :: later ∧ blank first = false)
    (reads : ∀ other ∈ item :: items,
      ReadsAs ends read (encode other) (meaning other))
    (enough : items.length < turns) :
    ReadsAs anything (readContinued blank separator close read turns)
      (encode item ++
        laidOut separator close gap finish (items.map encode))
      ((item :: items).map meaning) := by
  intro rest follows
  induction items generalizing item turns with
  | nil =>
      obtain ⟨turns, rfl⟩ := Nat.exists_eq_add_one_of_ne_zero
        (Nat.ne_of_gt enough)
      have head := reads item List.mem_cons_self (layout.follows [] rest)
      rw [List.append_assoc, readContinued, List.map_nil, head]
      simp [laidOut, dropWhile_blank_append layout.finishBlank,
        dropWhile_blank_cons layout.solidClose]
  | cons next items induction =>
      obtain ⟨turns, rfl⟩ := Nat.exists_eq_add_one_of_ne_zero
        (Nat.ne_of_gt (Nat.zero_lt_of_lt enough))
      obtain ⟨first, code, spelled, solid⟩ :=
        opens next (List.mem_cons_of_mem _ List.mem_cons_self)
      have head := reads item List.mem_cons_self
        (layout.follows ((next :: items).map encode) rest)
      have tail := induction
        (fun other member => opens other (List.mem_cons_of_mem _ member))
        (fun other member => reads other (List.mem_cons_of_mem _ member))
        (Nat.lt_of_succ_lt_succ enough)
      have start (stream : List β) :
          (gap ++ (encode next ++ stream)).dropWhile blank =
            encode next ++ stream := by
        rw [dropWhile_blank_append layout.gapBlank, spelled, List.cons_append,
          dropWhile_blank_cons solid]
      rw [List.append_assoc] at tail
      rw [List.append_assoc, readContinued, head, List.map_cons, laidOut]
      simp only [Option.bind_eq_bind, Option.bind_some, List.cons_append,
        List.append_assoc, dropWhile_blank_cons layout.solidSeparator,
        if_neg layout.differ, if_true, start, tail]
      rfl

/--
A list with a gap before each item, blanks and the closing symbol behind the
last; or the closing symbol alone.
-/
theorem Layout.readsAs_closed {anything : Set β} {items : List γ}
    {turns : Nat} (layout : Layout ends blank separator close gap finish)
    (opens : ∀ item ∈ items, ∃ first later,
      encode item = first :: later ∧ blank first = false ∧ first ≠ close)
    (reads : ∀ item ∈ items,
      ReadsAs ends read (encode item) (meaning item))
    (enough : items.length ≤ turns) :
    ReadsAs anything (readClosed blank separator close read turns)
      (if items = [] then [close]
        else gap ++ ((separator :: gap).intercalate (items.map encode) ++
          (finish ++ [close])))
      (items.map meaning) := by
  intro rest follows
  cases items with
  | nil => simp [readClosed, dropWhile_blank_cons layout.solidClose]
  | cons item items =>
      obtain ⟨first, code, spelled, solid, distinct⟩ :=
        opens item List.mem_cons_self
      have inner :
          ReadsAs anything (readContinued blank separator close read turns)
            (encode item ++
              laidOut separator close gap finish (items.map encode))
            ((item :: items).map meaning) := by
        refine layout.readsAs_continued ?_ reads (Nat.lt_of_succ_le enough)
        intro other member
        obtain ⟨first, code, spelled, solid, -⟩ := opens other member
        exact ⟨first, code, spelled, solid⟩
      replace inner := inner follows
      rw [if_neg (List.cons_ne_nil _ _), List.map_cons,
        intercalate_append_finish, readClosed, List.append_assoc,
        dropWhile_blank_append layout.gapBlank]
      rw [spelled, List.cons_append, List.cons_append] at inner ⊢
      rw [dropWhile_blank_cons solid]
      simp only [if_neg distinct]
      exact inner

/-! ## The bound on the turns -/

omit [DecidableEq β] in
theorem length_dropWhile_le (stream : List β) :
    (stream.dropWhile blank).length ≤ stream.length :=
  (List.dropWhile_suffix blank).length_le

theorem consumes_readContinued (consumes : Consumes read) (turns : Nat) :
    Consumes (readContinued blank separator close read turns) := by
  intro stream items rest result
  induction turns generalizing stream items with
  | zero => cases result
  | succ turns induction =>
      rw [readContinued] at result
      simp only [Option.bind_eq_bind, Option.bind_eq_some_iff] at result
      obtain ⟨⟨item, behind⟩, head, result⟩ := result
      have taken := consumes head
      have skipped := @length_dropWhile_le _ blank behind
      cases following : behind.dropWhile blank with
      | nil => simp [following] at result
      | cons symbol later =>
          rw [following, List.length_cons] at skipped
          simp only [following] at result
          split_ifs at result with ended continues
          · cases result
            omega
          · simp only [Option.bind_eq_some_iff] at result
            obtain ⟨⟨others, remainder⟩, tail, same⟩ := result
            cases same
            have shorter := induction tail
            have blanks := @length_dropWhile_le _ blank later
            omega

/-- Readers that agree on short streams read the same items off them. -/
theorem readContinued_congr {other : Reader β α} {bound turns more : Nat}
    (consumes : Consumes read)
    (agree : ∀ stream, stream.length < bound → read stream = other stream)
    {stream : List β} (short : stream.length < bound)
    (enough : stream.length < turns) (alsoEnough : stream.length < more) :
    readContinued blank separator close read turns stream =
      readContinued blank separator close other more stream := by
  induction turns generalizing more stream with
  | zero => exact absurd enough (Nat.not_lt_zero _)
  | succ turns induction =>
      obtain ⟨more, rfl⟩ := Nat.exists_eq_add_one_of_ne_zero
        (Nat.ne_of_gt (Nat.zero_lt_of_lt alsoEnough))
      rw [readContinued, readContinued, ← agree stream short]
      cases head : read stream with
      | none => rfl
      | some taken =>
          obtain ⟨item, behind⟩ := taken
          have shorter := consumes head
          have skipped := @length_dropWhile_le _ blank behind
          simp only [Option.bind_eq_bind, Option.bind_some]
          cases following : behind.dropWhile blank with
          | nil => rfl
          | cons symbol later =>
              rw [following, List.length_cons] at skipped
              have blanks := @length_dropWhile_le _ blank later
              have tail := @induction more (later.dropWhile blank)
                (by omega) (by omega) (by omega)
              simp only [tail]

theorem consumes_readClosed (consumes : Consumes read) (turns : Nat) :
    Consumes (readClosed blank separator close read turns) := by
  intro stream items rest result
  have skipped := @length_dropWhile_le _ blank stream
  rw [readClosed] at result
  cases following : stream.dropWhile blank with
  | nil => simp [following] at result
  | cons symbol later =>
      rw [following, List.length_cons] at skipped
      simp only [following] at result
      split_ifs at result with ended
      · cases result
        omega
      · have shorter := consumes_readContinued consumes turns result
        rw [List.length_cons] at shorter
        omega

theorem readClosed_congr {other : Reader β α} {bound turns more : Nat}
    (consumes : Consumes read)
    (agree : ∀ stream, stream.length < bound → read stream = other stream)
    {stream : List β} (short : stream.length < bound)
    (enough : stream.length < turns) (alsoEnough : stream.length < more) :
    readClosed blank separator close read turns stream =
      readClosed blank separator close other more stream := by
  have skipped := @length_dropWhile_le _ blank stream
  rw [readClosed, readClosed]
  cases following : stream.dropWhile blank with
  | nil => rfl
  | cons symbol later =>
      rw [following] at skipped
      simp only [readContinued_congr consumes agree
        (Nat.lt_of_le_of_lt skipped short)
        (Nat.lt_of_le_of_lt skipped enough)
        (Nat.lt_of_le_of_lt skipped alsoEnough)]

end Lists

end Coding
