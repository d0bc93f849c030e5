import Mailroom.Proofs.Mailer.Content
import Mailroom.Proofs.Text.Trim

/-!
# What becomes of a message

Whether a message makes a mail is a matter of two things alone: the key that it is sent with, which
comes from the message or from the settings, and whether it is to be sent at all.  Nothing else can
fail.  An attachment without an acceptable file is left out, and a content type that is not known is
something that the sender is told.

## Key results

* `isKeyFor_iff`   there is exactly one key for a message
* `build_outcome`  the key and the wish to send decide what becomes of a message
-/

namespace Mailroom

open Text

/-- The text that the settings give as a key, if they give any: the secret key or the identifier of
one. -/
def Service.keyOrId (service : Service) : Text := service.apiKey.getD []

/-- The key that a message is sent with. -/
inductive IsKeyFor (provider : Provider) (msg : Message) : Text → Prop
  /-- The key of the message itself comes first, whatever it is. -/
  | own {key : Text} (hkey : msg.params.apiKey = some key) : IsKeyFor provider msg key
  /-- What the settings give is the identifier of a secret. -/
  | resolved {secret : Text} (hnone : msg.params.apiKey = none)
      (hsecret : provider.resolveKey provider.service.keyOrId = some secret) (hne : secret ≠ []) :
      IsKeyFor provider msg secret
  /-- What the settings give is the key, for it is the identifier of none or of an empty one. -/
  | configured (hnone : msg.params.apiKey = none)
      (hsecret : ∀ secret, provider.resolveKey provider.service.keyOrId = some secret →
        secret = []) :
      IsKeyFor provider msg provider.service.keyOrId

/-- There is a key for every message. -/
theorem exists_isKeyFor (provider : Provider) (msg : Message) :
    ∃ key, IsKeyFor provider msg key := by
  cases hkey : msg.params.apiKey with
  | some key => exact ⟨key, .own hkey⟩
  | none =>
    by_cases hempty : ∀ secret, provider.resolveKey provider.service.keyOrId = some secret →
        secret = []
    · exact ⟨_, .configured hkey hempty⟩
    · obtain ⟨secret, h⟩ := Classical.not_forall.1 hempty
      obtain ⟨hsecret, hne⟩ := Classical.not_imp.1 h
      exact ⟨secret, .resolved hkey hsecret hne⟩

namespace Mailer

variable {mailer : Mailer} {msg : Message}

/-- Without a key of its own a message is sent with the resolved key if that is not empty, or else
with the configured one. -/
theorem apiKey_of_eq_none (h : msg.params.apiKey = none) :
    mailer.apiKey msg =
      ((mailer.provider.resolveKey mailer.provider.service.keyOrId).filter (!·.isEmpty)).getD
        mailer.provider.service.keyOrId := by
  rw [apiKey, h]
  rfl

/-- A key for a message is the one that it is sent with. -/
theorem eq_apiKey_of_isKeyFor {key : Text} (h : IsKeyFor mailer.provider msg key) :
    key = mailer.apiKey msg := by
  cases h with
  | own hkey => rw [apiKey, hkey]
  | resolved hnone hsecret hne =>
    have hkeep : (some key).filter (!·.isEmpty) = some key := by
      rw [Option.filter_eq_some_iff]
      simp [hne]
    rw [apiKey_of_eq_none hnone, hsecret, hkeep, Option.getD_some]
  | configured hnone hsecret =>
    -- an empty secret counts as none
    have hdrop : (mailer.provider.resolveKey mailer.provider.service.keyOrId).filter (!·.isEmpty) =
        none := by
      rw [Option.filter_eq_none_iff]
      rintro secret h
      simp [hsecret secret h]
    rw [apiKey_of_eq_none hnone, hdrop, Option.getD_none]

/-- The key that a message is sent with is its key, and there is no other. -/
theorem isKeyFor_iff {key : Text} :
    IsKeyFor mailer.provider msg key ↔ key = mailer.apiKey msg := by
  constructor
  · exact eq_apiKey_of_isKeyFor
  · rintro rfl
    obtain ⟨key, hkey⟩ := exists_isKeyFor mailer.provider msg
    exact eq_apiKey_of_isKeyFor hkey ▸ hkey

/-! ## Outcomes -/

/-- Without a key, and only then, there is an error, and it is that the key is missing. -/
theorem build_eq_error_iff {e : MailError} :
    mailer.build msg = .error e ↔ isBlankText (mailer.apiKey msg) ∧ e = .missingApiKey := by
  unfold build
  by_cases hkey : isBlankText (mailer.apiKey msg)
  · simp [hkey, eq_comm]
  · by_cases hsend : msg.send <;> simp [hkey, hsend]

/-- A message is skipped if it has a key but is not to be sent. -/
theorem build_eq_skipped_iff :
    mailer.build msg = .ok .skipped ↔
      isBlankText (mailer.apiKey msg) = false ∧ msg.send = false := by
  unfold build
  by_cases hkey : isBlankText (mailer.apiKey msg)
  · simp [hkey]
  · by_cases hsend : msg.send <;> simp [hkey, hsend]

/-- The key and the wish to send decide what becomes of a message.  It fails exactly if there is
nothing but white space in the key, and even then if it is not to be sent; otherwise it is skipped
exactly if it is not to be sent, and else it is ready to be sent with that key. -/
theorem build_outcome (mailer : Mailer) (msg : Message) :
    ∃ key, (∀ k, IsKeyFor mailer.provider msg k ↔ k = key) ∧
      (∀ e, mailer.build msg = .error e ↔ (∀ c ∈ key, isBlank c) ∧ e = .missingApiKey) ∧
      (mailer.build msg = .ok .skipped ↔ (∃ c ∈ key, ¬isBlank c) ∧ ¬msg.send) ∧
      ((∃ prepared, mailer.build msg = .ok (.ready prepared)) ↔
        (∃ c ∈ key, ¬isBlank c) ∧ msg.send) ∧
      ∀ prepared, mailer.build msg = .ok (.ready prepared) → prepared.apiKey = key := by
  have hblank : (∀ c ∈ mailer.apiKey msg, isBlank c) ↔ isBlankText (mailer.apiKey msg) :=
    isBlankText_iff.symm
  have hvisible : (∃ c ∈ mailer.apiKey msg, ¬isBlank c) ↔
      isBlankText (mailer.apiKey msg) = false :=
    List.all_eq_false.symm
  -- the key is told by its characters, and the mailer asks whether it is blank
  refine ⟨mailer.apiKey msg, fun k => isKeyFor_iff, ?_, ?_, ?_, ?_⟩
  · intro e
    rw [hblank, build_eq_error_iff]
  · rw [hvisible, build_eq_skipped_iff, Bool.not_eq_true]
  · rw [hvisible]
    simp only [build_eq_ready_iff]
    constructor
    · rintro ⟨prepared, hkey, hsend, -⟩
      exact ⟨hkey, hsend⟩
    · rintro ⟨hkey, hsend⟩
      exact ⟨_, hkey, hsend, rfl⟩
  · intro prepared h
    obtain ⟨-, -, rfl⟩ := build_eq_ready_iff.1 h
    rfl

/-- A secret of white space is taken in the place of its identifier, and then the key is missing,
though the message is not to be sent. -/
example :
    let service : Service := { apiKey := some "id".toList }
    let provider : Provider := { service, resolveKey := fun _ => some [' '] }
    build { provider } { send := false } = .error .missingApiKey :=
  rfl

end Mailer

end Mailroom
