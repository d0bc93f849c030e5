import Mailroom.Proofs.Payload.Json
import Mailroom.Proofs.Payload.Personalization

/-!
# Steps that commute

Each step in making a payload changes one place of it: a field, or what a key is given in a field
that holds entries.  What it leaves there depends on what stood there and on nothing else, and every
other place keeps what it holds.  So steps that change different places commute, and payloads that
hold the same in every place are the same, since a dictionary has one form whatever the order in
which its entries were made.

## Key results

* `get_update_of_not_mem`   a step leaves alone every place but its own
* `ext_get`                 a payload is what it holds in its places
* `update_comm`             steps that change different places commute
* `run_swap`                neighbours of this kind may be swapped in a run of steps
-/

namespace Mailroom.Payload

/-- A place of a payload. -/
inductive Place where
  | subject
  | recipients
  | cc
  | bcc
  /-- What a name is substituted by. -/
  | substitution (name : Text)
  | sender
  | replyTo
  | content
  | attachments
  | categories
  /-- The value of a custom argument. -/
  | customArg (name : Text)
  | templateId
  | spamCheck
  | clickTracking
  | openTracking
  deriving DecidableEq

/-- What stands in a place. -/
def Place.Value : Place → Type
  | .subject => Text
  | .recipients | .cc | .bcc => List Address
  | .substitution _ | .customArg _ => Option Text
  | .sender => Address
  | .replyTo => Option Address
  | .content => List Content
  | .attachments => List Attachment
  | .categories => List Text
  | .templateId => Option Text
  | .spamCheck => Option Bool
  | .clickTracking => Bool × Bool
  | .openTracking => Bool

/-- What a payload holds in a place. -/
def get (payload : Payload) : (place : Place) → place.Value
  | .subject => payload.personal.subject
  | .recipients => payload.personal.recipients
  | .cc => payload.personal.cc
  | .bcc => payload.personal.bcc
  | .substitution name => payload.personal.substitutions.get? name
  | .sender => payload.sender
  | .replyTo => payload.replyTo
  | .content => payload.content
  | .attachments => payload.attachments
  | .categories => payload.categories
  | .customArg name => payload.customArgs.get? name
  | .templateId => payload.templateId
  | .spamCheck => payload.spamCheck
  | .clickTracking => (payload.tracking.clicks, payload.tracking.textClicks)
  | .openTracking => payload.tracking.opens

/-- The place that a step changes.  To make the personalization changes none. -/
def Update.place? : Update → Option Place
  | .personalization => none
  | .subject _ => some .subject
  | .recipients _ => some .recipients
  | .cc _ => some .cc
  | .bcc _ => some .bcc
  | .substitution name _ => some (.substitution name)
  | .sender _ => some .sender
  | .replyTo _ => some .replyTo
  | .content _ _ => some .content
  | .attachment _ => some .attachments
  | .category _ => some .categories
  | .customArg name _ => some (.customArg name)
  | .templateId _ => some .templateId
  | .spamCheck _ => some .spamCheck
  | .clickTracking _ _ => some .clickTracking
  | .openTracking _ => some .openTracking

/-- The steps change different places: different fields, or what different keys are given. -/
def Update.Apart (a b : Update) : Prop := ∀ place ∈ a.place?, place ∉ b.place?

instance (a b : Update) : Decidable (a.Apart b) :=
  inferInstanceAs (Decidable (∀ place ∈ a.place?, place ∉ b.place?))

/-! ## What a step does to a place -/

variable {payload p q : Payload} {step a b : Update} {place : Place}

/-- A step leaves alone every place but its own. -/
theorem get_update_of_not_mem (h : place ∉ step.place?) (payload : Payload) :
    (payload.update step).get place = payload.get place := by
  cases step with
  | personalization =>
    rw [update, personalize_eq]
    cases place <;> rfl
  | subject | recipients | cc | bcc =>
    rw [update, personalize_eq]
    cases place <;> first | rfl | exact (h rfl).elim
  | substitution name value =>
    rw [update, personalize_eq]
    cases place with
    | substitution other =>
      -- another name is another place
      have hne : other ≠ name := fun heq => h (congrArg (some ∘ Place.substitution) heq.symm)
      exact Dictionary.get?_insert_of_ne hne _ value
    | _ => rfl
  | customArg name value =>
    cases place with
    | customArg other =>
      have hne : other ≠ name := fun heq => h (congrArg (some ∘ Place.customArg) heq.symm)
      exact Dictionary.get?_insert_of_ne hne _ value
    | _ => rfl
  | _ => cases place <;> first | rfl | exact (h rfl).elim

/-- What a step leaves in a place depends on what stood there alone. -/
theorem get_update_congr (h : p.get place = q.get place) (step : Update) :
    (p.update step).get place = (q.update step).get place := by
  -- a step reads nothing but the place that it writes
  by_cases hplace : place ∈ step.place?
  · cases step with
    | personalization => exact nomatch hplace
    | subject | recipients =>
      obtain rfl := Option.some.inj hplace
      rw [update, update, personalize_eq, personalize_eq]
      rfl
    | cc address | bcc address =>
      obtain rfl := Option.some.inj hplace
      rw [update, update, personalize_eq, personalize_eq]
      exact congrArg (· ++ [address]) h
    | substitution name value =>
      obtain rfl := Option.some.inj hplace
      rw [update, update, personalize_eq, personalize_eq]
      exact (Dictionary.get?_insert_self p.personal.substitutions name value).trans
        (Dictionary.get?_insert_self q.personal.substitutions name value).symm
    | content mediaType value =>
      obtain rfl := Option.some.inj hplace
      exact congrArg (· ++ [(⟨mediaType, value⟩ : Content)]) h
    | attachment item | category item =>
      obtain rfl := Option.some.inj hplace
      exact congrArg (· ++ [item]) h
    | customArg name value =>
      obtain rfl := Option.some.inj hplace
      exact (Dictionary.get?_insert_self p.customArgs name value).trans
        (Dictionary.get?_insert_self q.customArgs name value).symm
    | _ =>
      obtain rfl := Option.some.inj hplace
      rfl
  · rw [get_update_of_not_mem hplace, get_update_of_not_mem hplace, h]

/-! ## Payloads by their places -/

attribute [ext] Payload Personalization Tracking

/-- Two payloads of which one has a personalization exactly if the other has, and neither has a
second one that the other has not, are the same if they hold the same in every place. -/
theorem ext_get (hnil : p.personalizations = [] ↔ q.personalizations = [])
    (htail : p.personalizations.tail = q.personalizations.tail)
    (h : ∀ place, p.get place = q.get place) : p = q := by
  -- the places hold all but how many personalizations there are
  have hpersonal : p.personal = q.personal := by
    have hsubstitutions : p.personal.substitutions = q.personal.substitutions :=
      Dictionary.ext_get? fun name => h (.substitution name)
    exact Personalization.ext (h .recipients) (h .cc) (h .bcc) (h .subject) hsubstitutions
  have hpersonalizations : p.personalizations = q.personalizations := by
    by_cases hp : p.personalizations = []
    · rw [hp, hnil.1 hp]
    · have hq : q.personalizations ≠ [] := mt hnil.2 hp
      rw [← cons_personal_tail hp, ← cons_personal_tail hq, hpersonal, htail]
  have hcustomArgs : p.customArgs = q.customArgs :=
    Dictionary.ext_get? fun name => h (.customArg name)
  have htracking : p.tracking = q.tracking := by
    obtain ⟨hclicks, htextClicks⟩ := Prod.mk.inj (h .clickTracking)
    exact Tracking.ext hclicks htextClicks (h .openTracking)
  exact Payload.ext hpersonalizations (h .sender) (h .replyTo) (h .content) (h .attachments)
    (h .categories) hcustomArgs (h .templateId) (h .spamCheck) htracking

/-- After a step there is no personalization if there was none and the step needs none. -/
theorem personalizations_update_eq_nil_iff (payload : Payload) (step : Update) :
    (payload.update step).personalizations = [] ↔
      payload.personalizations = [] ∧ step.change? = none := by
  rw [personalizations_update]
  cases step.change? with
  | none => exact (and_iff_left rfl).symm
  | some change => simp

/-! ## Swapping steps -/

/-- Steps that change different places commute. -/
theorem update_comm (h : a.Apart b) (payload : Payload) :
    (payload.update a).update b = (payload.update b).update a := by
  apply ext_get
  · simp only [personalizations_update_eq_nil_iff, and_assoc, and_comm (a := a.change? = none)]
  · simp only [tail_personalizations_update]
  · intro place
    by_cases ha : place ∈ a.place?
    · -- the other step leaves this place alone, before and after
      have hb := h place ha
      rw [get_update_of_not_mem hb]
      exact (get_update_congr (get_update_of_not_mem hb payload) a).symm
    · rw [get_update_of_not_mem ha]
      exact get_update_congr (get_update_of_not_mem ha payload) b

/-- No steps make a second personalization, and neighbours that change different places may be
swapped: the payload is the same in the end, and so is its text. -/
theorem run_swap :
    (∀ steps, (run {} steps).personalizations.length ≤ 1) ∧
      ∀ a b : Update, a.Apart b → ∀ before after,
        run {} (before ++ a :: b :: after) = run {} (before ++ b :: a :: after) ∧
          (run {} (before ++ a :: b :: after)).toText =
            (run {} (before ++ b :: a :: after)).toText := by
  constructor
  · intro steps
    have htail := congrArg List.length (tail_personalizations_run {} steps)
    rw [List.length_tail, List.tail_nil, List.length_nil] at htail
    omega
  · intro a b h before after
    have hrun : run {} (before ++ a :: b :: after) = run {} (before ++ b :: a :: after) := by
      rw [run_append, run_append, run_cons, run_cons, run_cons, run_cons, update_comm h]
    exact ⟨hrun, congrArg toText hrun⟩

/-- Two substitutions, the first of which makes the personalization, may be swapped.  They stand in
the order of their names either way. -/
theorem run_swap_substitutions :
    let first : Update := .substitution "b".toList "1".toList
    let second : Update := .substitution "a".toList "2".toList
    first.Apart second ∧ run {} [first, second, .subject "S".toList] =
        run {} [second, first, .subject "S".toList] ∧
      (run {} [first, second, .subject "S".toList]).personalizations =
        [{ subject := "S".toList
           substitutions := .ofList [("a".toList, "2".toList), ("b".toList, "1".toList)] }] := by
  intro first second
  have hapart : first.Apart second := by decide
  have hswap := (run_swap.2 first second hapart [] [.subject "S".toList]).1
  exact ⟨hapart, hswap, by decide +kernel⟩

end Mailroom.Payload
