import Mailroom.Payload

/-!
# The personalization of a payload

A payload starts without a personalization, and the first step to need one makes it.  When that is
makes no difference to what it holds: a step changes it in the same way whether it finds it or makes
it, and no step makes a second one.

## Key results

* `personalizations_update`     what a step does to the personalizations
* `tail_personalizations_run`   steps make no second personalization
-/

namespace Mailroom.Payload

/-- The change that a step makes to the personalization, if it needs one. -/
def Update.change? : Update → Option (Personalization → Personalization)
  | .personalization => some id
  | .subject text => some fun p => { p with subject := text }
  | .recipients addresses => some fun p => { p with recipients := addresses }
  | .cc address => some fun p => { p with cc := p.cc ++ [address] }
  | .bcc address => some fun p => { p with bcc := p.bcc ++ [address] }
  | .substitution name value =>
    some fun p => { p with substitutions := p.substitutions.insert name value }
  | _ => none

/-- The first of the steps is made first. -/
theorem run_cons (payload : Payload) (step : Update) (steps : List Update) :
    payload.run (step :: steps) = (payload.update step).run steps :=
  rfl

/-- Steps are made one after the other. -/
theorem run_append (payload : Payload) (steps steps' : List Update) :
    payload.run (steps ++ steps') = (payload.run steps).run steps' :=
  List.foldl_append

/-- The first personalization, as it is or as a step would find it after making it. -/
def personal (payload : Payload) : Personalization := payload.personalizations.headD {}

variable {payload : Payload}

/-- The first personalization is changed, and all else stays. -/
theorem personalize_eq (payload : Payload) (change : Personalization → Personalization) :
    payload.personalize change =
      { payload with
        personalizations := change payload.personal :: payload.personalizations.tail } := by
  unfold personalize personal
  split
  · next hnil => rw [hnil, List.headD_nil, List.tail_nil]
  · next first rest hcons => rw [hcons, List.headD_cons, List.tail_cons]

/-- The personalizations after a change of the first one. -/
theorem personalizations_personalize (payload : Payload)
    (change : Personalization → Personalization) :
    (payload.personalize change).personalizations =
      change payload.personal :: payload.personalizations.tail := by
  rw [personalize_eq]

/-- A change makes the personalization that it needs. -/
theorem personalizations_personalize_ne_nil (payload : Payload)
    (change : Personalization → Personalization) :
    (payload.personalize change).personalizations ≠ [] := by
  rw [personalizations_personalize]
  exact List.cons_ne_nil _ _

/-- A step either needs the personalization or leaves all of them alone. -/
theorem personalizations_update (payload : Payload) (step : Update) :
    (payload.update step).personalizations =
      match step.change? with
      | some change => change payload.personal :: payload.personalizations.tail
      | none => payload.personalizations := by
  cases step with
  | personalization => exact personalizations_personalize payload _
  | subject => exact personalizations_personalize payload _
  | recipients => exact personalizations_personalize payload _
  | cc => exact personalizations_personalize payload _
  | bcc => exact personalizations_personalize payload _
  | substitution => exact personalizations_personalize payload _
  | _ => rfl

/-- No step takes a personalization away. -/
theorem personalizations_update_ne_nil (h : payload.personalizations ≠ []) (step : Update) :
    (payload.update step).personalizations ≠ [] := by
  rw [personalizations_update]
  split
  · exact List.cons_ne_nil _ _
  · exact h

/-- No run of steps takes a personalization away. -/
theorem personalizations_run_ne_nil (h : payload.personalizations ≠ []) (steps : List Update) :
    (payload.run steps).personalizations ≠ [] := by
  induction steps generalizing payload with
  | nil => exact h
  | cons step steps ih => exact ih (personalizations_update_ne_nil h step)

/-- No step makes a second personalization. -/
theorem tail_personalizations_update (payload : Payload) (step : Update) :
    (payload.update step).personalizations.tail = payload.personalizations.tail := by
  rw [personalizations_update]
  split
  · rw [List.tail_cons]
  · rfl

/-- No run of steps makes a second personalization. -/
theorem tail_personalizations_run (payload : Payload) (steps : List Update) :
    (payload.run steps).personalizations.tail = payload.personalizations.tail := by
  induction steps generalizing payload with
  | nil => rfl
  | cons step steps ih => exact (ih _).trans (tail_personalizations_update payload step)

/-- A payload with a personalization holds the first one and those behind it. -/
theorem cons_personal_tail (h : payload.personalizations ≠ []) :
    payload.personal :: payload.personalizations.tail = payload.personalizations := by
  obtain ⟨p, rest, hcons⟩ := List.exists_cons_of_ne_nil h
  rw [personal, hcons, List.headD_cons, List.tail_cons]

end Mailroom.Payload
