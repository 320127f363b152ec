import ArgosCyberTools.Transition.SingleUse

/-!
# Consumers of credentials

A consumer accepts what is presented to it once, as far as it can tell two
credentials apart: it identifies a credential by a token, accepting spends
the token, and a credential without a token spends nothing.  An observer may
name credentials by something else.  The names of the accepted calls differ
on every run over a set of credentials exactly when, in that set, equal names
come with a common token.
-/

namespace Transition

/-- A component that accepts credentials, and the ledger of their tokens. -/
structure Consumer (State Event Credential Token : Type*) where
  step : State → Event → State → Prop
  presented : Event → Option Credential
  Accepted : Event → Prop
  /-- What the component identifies a credential by, if by anything. -/
  token : Credential → Option Token
  ledger : State → Set Token
  /-- The credentials that pass every check but that of single use. -/
  Presentable : Credential → Prop
  unused : State
  unused_ledger : ledger unused = ∅
  spares {source target : State} {event : Event} :
    step source event target → ¬ Accepted event →
      SingleUse.Step (ledger source) none (ledger target)
  spends {source target : State} {event : Event} :
    step source event target → Accepted event →
      ∃ credential, presented event = some credential ∧
        Presentable credential ∧
        SingleUse.Step (ledger source) (token credential) (ledger target)
  serves {source : State} {credential : Credential} :
    Presentable credential →
    (∀ spent, token credential = some spent → spent ∉ ledger source) →
      ∃ event target, presented event = some credential ∧
        Accepted event ∧ step source event target

namespace Consumer

variable {State Event Credential Token Name : Type*}

/-- Every credential presented along these events is in the set. -/
def Draws (consumer : Consumer State Event Credential Token)
    (domain : Set Credential) (events : List Event) : Prop :=
  ∀ event ∈ events, ∀ credential,
    consumer.presented event = some credential → credential ∈ domain

/-- Two accepted calls carry different names. -/
def Apart (consumer : Consumer State Event Credential Token)
    (name : Credential → Name) (first second : Event) : Prop :=
  consumer.Accepted first → consumer.Accepted second →
    ∀ credential other, consumer.presented first = some credential →
      consumer.presented second = some other →
        name credential ≠ name other

/-- Over a set of credentials, one name is one token. -/
def Agrees (consumer : Consumer State Event Credential Token)
    (name : Credential → Name) (domain : Set Credential) : Prop :=
  ∀ credential ∈ domain, ∀ other ∈ domain,
    consumer.Presentable credential → consumer.Presentable other →
    name credential = name other →
      ∃ spent, consumer.token credential = some spent ∧
        consumer.token other = some spent

variable (consumer : Consumer State Event Credential Token)
  {initial final : State} {events : List Event}

open Classical in
/-- The token an event spends. -/
noncomputable def spent (event : Event) : Option Token :=
  if consumer.Accepted event then
    (consumer.presented event).bind consumer.token
  else none

theorem step_refines {source target : State} {event : Event}
    (step : consumer.step source event target) :
    SingleUse.Step (consumer.ledger source) (consumer.spent event)
      (consumer.ledger target) := by
  by_cases accepted : consumer.Accepted event
  · obtain ⟨credential, presented, -, spends⟩ :=
      consumer.spends step accepted
    simpa [spent, accepted, presented] using spends
  · simpa [spent, accepted] using consumer.spares step accepted

/-- A run of calls is a run of the single-use ledger. -/
theorem run_refines (run : Run consumer.step initial events final) :
    Run SingleUse.Step (consumer.ledger initial)
      (events.map consumer.spent) (consumer.ledger final) :=
  run.simulate consumer.ledger consumer.spent (fun _ => True)
    (fun _ => True) (fun _ _ step => ⟨consumer.step_refines step, trivial⟩)
    trivial fun _ _ => trivial

/-- Every accepted call of a run presented something presentable. -/
theorem presentable_of_accepted
    (run : Run consumer.step initial events final) :
    ∀ event ∈ events, consumer.Accepted event →
      ∃ credential, consumer.presented event = some credential ∧
        consumer.Presentable credential := by
  refine run.forall_labels (fun _ => True)
    (fun event => consumer.Accepted event →
      ∃ credential, consumer.presented event = some credential ∧
        consumer.Presentable credential) ?_ trivial
  intro source event target _ step
  refine ⟨fun accepted => ?_, trivial⟩
  obtain ⟨credential, presented, presentable, -⟩ :=
    consumer.spends step accepted
  exact ⟨credential, presented, presentable⟩

/-- Where one name is one token, no name is accepted twice. -/
theorem pairwise_apart {name : Credential → Name}
    {domain : Set Credential} (agrees : consumer.Agrees name domain)
    (run : Run consumer.step initial events final)
    (draws : consumer.Draws domain events) :
    events.Pairwise (consumer.Apart name) := by
  have once := SingleUse.pairwise_ne (consumer.run_refines run)
  have presentable := consumer.presentable_of_accepted run
  rw [List.pairwise_map] at once
  refine once.imp_of_mem ?_
  intro first second firstMember secondMember unlike firstAccepted
    secondAccepted credential other presented otherPresented equal
  obtain ⟨_, again, passes⟩ := presentable first firstMember firstAccepted
  obtain ⟨_, otherAgain, otherPasses⟩ :=
    presentable second secondMember secondAccepted
  cases presented.symm.trans again
  cases otherPresented.symm.trans otherAgain
  obtain ⟨token, isToken, otherIsToken⟩ := agrees credential
    (draws first firstMember _ presented) other
    (draws second secondMember _ otherPresented) passes otherPasses equal
  apply unlike token
  · simp [spent, firstAccepted, presented, isToken]
  · simp [spent, secondAccepted, otherPresented, otherIsToken]

/-- Without a common token, two credentials are accepted one after another. -/
theorem exists_two_acceptances {credential other : Credential}
    (passes : consumer.Presentable credential)
    (otherPasses : consumer.Presentable other)
    (unlike : ¬ ∃ spent, consumer.token credential = some spent ∧
      consumer.token other = some spent) :
    ∃ first second final,
      Run consumer.step consumer.unused [first, second] final ∧
        consumer.presented first = some credential ∧
        consumer.presented second = some other ∧
        consumer.Accepted first ∧ consumer.Accepted second := by
  have unspent : ∀ spent, consumer.token credential = some spent →
      spent ∉ consumer.ledger consumer.unused := by
    simp [consumer.unused_ledger]
  obtain ⟨first, middle, presented, accepted, head⟩ :=
    consumer.serves passes unspent
  have ledger := SingleUse.ledger_eq
    (consumer.run_refines (Run.next head (.done middle)))
  have fresh : ∀ spent, consumer.token other = some spent →
      spent ∉ consumer.ledger middle := by
    intro token otherIsToken held
    refine unlike ⟨token, ?_, otherIsToken⟩
    rw [ledger, consumer.unused_ledger] at held
    simpa [spent, accepted, presented, eq_comm] using held
  obtain ⟨second, final, otherPresented, otherAccepted, tail⟩ :=
    consumer.serves otherPasses fresh
  exact ⟨first, second, final, .next head (.next tail (.done final)),
    presented, otherPresented, accepted, otherAccepted⟩

end Consumer

end Transition
