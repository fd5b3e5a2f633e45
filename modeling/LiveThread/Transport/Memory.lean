import LiveThread.Transport.Basic

/-!
# A way out without a connection

Messages are kept in memory instead of being sent.  It can be arranged that
some of the next messages are refused; after a failure all of them are.

Main results:

- Definition `Acceptance`: what decides whether a message is accepted.
- Definition `Memory`: the same with the accepted messages.
- Theorem `Acceptance.send_of_failed`: after a failure nothing is accepted.
-/

namespace LiveThread

/-- Accepts messages but for a number of refusals to come and but after a failure. -/
structure Acceptance where
  refusals : Nat := 0
  failure : Option String := none
  deriving DecidableEq

/-- A message uses up a refusal, if one is left, and else is accepted before any failure. -/
def Acceptance.send (rule : Acceptance) : Bool × Acceptance :=
  match rule.refusals with
  | refusals + 1 => (false, { rule with refusals := refusals })
  | 0 => (rule.failure.isNone, rule)

instance : Transport Acceptance where
  send rule _ := rule.send
  fail rule reason := { rule with failure := some reason }

/-- After a failure nothing is accepted. -/
theorem Acceptance.send_of_failed {rule : Acceptance} (h : rule.failure.isSome) :
    rule.send.1 = false ∧ rule.send.2.failure = rule.failure := by
  unfold Acceptance.send
  split
  · exact ⟨rfl, rfl⟩
  · simpa using h

/-- The rule of acceptance and the messages that it let through. -/
abbrev Memory :=
  Logged Acceptance

/-- Nothing sent, nothing refused. -/
def Memory.empty : Memory :=
  { way := {} }

end LiveThread
