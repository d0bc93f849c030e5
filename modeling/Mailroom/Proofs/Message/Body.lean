import Mailroom.Message
import Mailroom.Proofs.Text.Lines

/-!
# The body of a message

A message holds its body in chunks, and its body is the text that they join to.  To format the
message is to join them ahead of time, so once there is a chunk it makes no difference when it is
done: later chunks are joined to the same text.  Before there is one it does.  To join no chunks
leaves an empty chunk behind, and the first chunk that is added next stands a blank line after it.

## Key results

* `format_format`               formatting leaves nothing to format
* `ReadsAfter.run`              steps keep what stands before the body of another message
* `joinedBody_run_format_iff`   when formatting between two steps leaves the body as it is
* `not_joinedBody_run_format`   before the first chunk it adds a blank line
-/

namespace Mailroom.Message

open Text

/-! ## Chunks -/

/-- The chunks make up the body of the message, however it is divided there. -/
def IsBody (msg : Message) (chunks : List Text) : Prop :=
  join ['\n', '\n'] chunks = msg.joinedBody

/-- The whole body is a single chunk, also if the message has no chunk at all. -/
theorem isBody_singleton (msg : Message) : msg.IsBody [msg.joinedBody] :=
  List.intercalate_singleton

/-- Formatting a message does not change its body. -/
theorem joinedBody_format (msg : Message) : msg.format.joinedBody = msg.joinedBody :=
  msg.isBody_singleton

/-- Formatting it again does not change anything. -/
theorem format_format (msg : Message) : msg.format.format = msg.format := by
  have hchunks : [msg.format.joinedBody] = msg.format.body := by
    rw [joinedBody_format]
    rfl
  rw [format, hchunks]

/-- One more chunk stands a blank line after the others. -/
theorem joinedBody_edit_body {msg : Message} (h : msg.body ≠ []) (chunk : Text) :
    (msg.edit (.body chunk)).joinedBody = msg.joinedBody ++ '\n' :: '\n' :: chunk := by
  have hjoin : join ['\n', '\n'] (msg.body ++ [chunk]) =
      join ['\n', '\n'] msg.body ++ (['\n', '\n'] ++ join ['\n', '\n'] [chunk]) :=
    join_append h (List.cons_ne_nil chunk [])
  have hsingle : join ['\n', '\n'] [chunk] = chunk := List.intercalate_singleton
  rw [hsingle] at hjoin
  exact hjoin

/-! ## Steps -/

/-- The step adds a chunk to the body or joins the chunks of it. -/
def Edit.concernsBody : Edit → Bool
  | .body _ | .format => true
  | _ => false

/-- The message after steps, one after the other. -/
def run (msg : Message) (edits : List Edit) : Message := edits.foldl edit msg

/-- Steps are made one after the other. -/
theorem run_append (msg : Message) (edits edits' : List Edit) :
    msg.run (edits ++ edits') = (msg.run edits).run edits' :=
  List.foldl_append

/-- The first of the steps is made first. -/
theorem run_cons (msg : Message) (e : Edit) (edits : List Edit) :
    msg.run (e :: edits) = (msg.edit e).run edits :=
  rfl

/-- A step that does not concern the body leaves its chunks alone. -/
theorem body_edit {e : Edit} (h : ¬ e.concernsBody = true) (msg : Message) :
    (msg.edit e).body = msg.body := by
  cases e with
  | body chunk => exact absurd rfl h
  | format => exact absurd rfl h
  | _ => rfl

/-- Steps that do not concern the body leave its chunks alone. -/
theorem body_run {edits : List Edit} (h : ∀ e ∈ edits, ¬ e.concernsBody = true) (msg : Message) :
    (msg.run edits).body = msg.body := by
  induction edits generalizing msg with
  | nil => rfl
  | cons e edits ih =>
    have hrest := ih (fun e' he' => h e' (List.mem_cons_of_mem e he')) (msg.edit e)
    rw [run_cons, hrest, body_edit (h e List.mem_cons_self)]

/-- Such steps leave the joined body alone, too. -/
theorem joinedBody_run {edits : List Edit} (h : ∀ e ∈ edits, ¬ e.concernsBody = true)
    (msg : Message) : (msg.run edits).joinedBody = msg.joinedBody := by
  rw [joinedBody, body_run h, ← joinedBody]

/-- The steps before the first one that concerns the body. -/
theorem exists_eq_append_of_find? {edits : List Edit} {e : Edit}
    (h : edits.find? Edit.concernsBody = some e) :
    ∃ idle rest, edits = idle ++ e :: rest ∧ e.concernsBody = true ∧
      ∀ e' ∈ idle, ¬ e'.concernsBody = true := by
  obtain ⟨hconcerns, idle, rest, hedits, hidle⟩ := List.find?_eq_some_iff_append.1 h
  refine ⟨idle, rest, hedits, hconcerns, fun e' he' => ?_⟩
  rw [Bool.not_eq_true, ← Bool.not_eq_true']
  exact hidle e' he'

/-- A step on the body leaves a chunk in it, and no step takes the last one away. -/
theorem body_edit_ne_nil {msg : Message} {e : Edit} (h : e.concernsBody = true ∨ msg.body ≠ []) :
    (msg.edit e).body ≠ [] := by
  cases e with
  | body chunk => exact List.append_ne_nil_of_right_ne_nil _ (List.cons_ne_nil chunk [])
  | format => exact List.cons_ne_nil _ []
  | _ => exact h.resolve_left Bool.false_ne_true

/-- Once a step concerned the body there is a chunk, whatever steps follow. -/
theorem body_run_ne_nil {msg : Message} {edits : List Edit}
    (h : edits.find? Edit.concernsBody ≠ none ∨ msg.body ≠ []) : (msg.run edits).body ≠ [] := by
  induction edits generalizing msg with
  | nil => exact h.resolve_left (fun hfind => hfind rfl)
  | cons e edits ih =>
    rw [run_cons]
    by_cases hconcerns : e.concernsBody = true
    · exact ih (.inr (body_edit_ne_nil (.inl hconcerns)))
    · rw [List.find?_cons_of_neg hconcerns] at h
      exact ih (h.imp_right fun hbody => body_edit_ne_nil (.inr hbody))

/-! ## The same steps on two messages -/

/-- The body of `other` is that of `msg` behind `lead`, and both have chunks. -/
structure ReadsAfter (lead : Text) (msg other : Message) : Prop where
  body_ne_nil : msg.body ≠ []
  other_body_ne_nil : other.body ≠ []
  joinedBody_eq : other.joinedBody = lead ++ msg.joinedBody

namespace ReadsAfter

variable {lead : Text} {msg other : Message}

/-- A step on the body is made at its end, so it leaves alone what stands before. -/
theorem edit (h : ReadsAfter lead msg other) (e : Edit) :
    ReadsAfter lead (msg.edit e) (other.edit e) where
  body_ne_nil := body_edit_ne_nil (.inr h.body_ne_nil)
  other_body_ne_nil := body_edit_ne_nil (.inr h.other_body_ne_nil)
  joinedBody_eq := by
    cases e with
    | body chunk =>
      rw [joinedBody_edit_body h.body_ne_nil, joinedBody_edit_body h.other_body_ne_nil,
        h.joinedBody_eq, List.append_assoc]
    | format =>
      show other.format.joinedBody = lead ++ msg.format.joinedBody
      rw [joinedBody_format, joinedBody_format, h.joinedBody_eq]
    | _ => exact h.joinedBody_eq

/-- The same steps on both messages keep the one body behind the other. -/
theorem run (h : ReadsAfter lead msg other) (edits : List Edit) :
    ReadsAfter lead (msg.run edits) (other.run edits) := by
  induction edits generalizing msg other with
  | nil => exact h
  | cons e edits ih => exact ih (h.edit e)

end ReadsAfter

/-- Formatting a message that has a chunk does not change its body. -/
theorem readsAfter_format {msg : Message} (h : msg.body ≠ []) : ReadsAfter [] msg msg.format where
  body_ne_nil := h
  other_body_ne_nil := List.cons_ne_nil _ []
  joinedBody_eq := msg.joinedBody_format

/-! ## Formatting between steps -/

/-- There is no chunk yet after the first steps, and the next step that concerns the body adds
one. -/
def AwaitsChunk (before after : List Edit) : Prop :=
  before.find? Edit.concernsBody = none ∧
    ∃ chunk, after.find? Edit.concernsBody = some (.body chunk)

/-- The first chunk of a message without chunks stands a blank line after what formatting left. -/
theorem readsAfter_run_of_chunk {msg : Message} (h : msg.body = []) {after : List Edit}
    {chunk : Text} (hfirst : after.find? Edit.concernsBody = some (.body chunk)) :
    ReadsAfter ['\n', '\n'] (msg.run after) (msg.format.run after) := by
  obtain ⟨idle, rest, rfl, -, hidle⟩ := exists_eq_append_of_find? hfirst
  -- up to the chunk the one body has no chunk and the other an empty one
  have hne : (msg.format.run idle).body ≠ [] := body_run_ne_nil (.inr (List.cons_ne_nil _ []))
  have hempty : (msg.format.run idle).joinedBody = [] := by
    rw [joinedBody_run hidle, joinedBody_format, joinedBody, h]
    rfl
  have hsingle : ((msg.run idle).edit (.body chunk)).joinedBody = chunk := by
    show join ['\n', '\n'] ((msg.run idle).body ++ [chunk]) = chunk
    rw [body_run hidle, h, List.nil_append, join, List.intercalate_singleton]
  have hchunk : ReadsAfter ['\n', '\n'] ((msg.run idle).edit (.body chunk))
      ((msg.format.run idle).edit (.body chunk)) := by
    refine ⟨body_edit_ne_nil (.inl rfl), body_edit_ne_nil (.inl rfl), ?_⟩
    rw [joinedBody_edit_body hne, hempty, hsingle]
    rfl
  rw [run_append, run_append, run_cons, run_cons]
  exact hchunk.run rest

/-- Formatting is not noticed if no chunk is added, or not before the message is formatted again. -/
theorem joinedBody_run_format_of_no_chunk {after : List Edit}
    (hfirst : ∀ chunk, after.find? Edit.concernsBody ≠ some (.body chunk)) (msg : Message) :
    (msg.format.run after).joinedBody = (msg.run after).joinedBody := by
  cases hfind : after.find? Edit.concernsBody with
  | none =>
    have hidle := List.find?_eq_none.1 hfind
    rw [joinedBody_run hidle, joinedBody_run hidle, joinedBody_format]
  | some e =>
    obtain ⟨idle, rest, rfl, hconcerns, hidle⟩ := exists_eq_append_of_find? hfind
    cases e with
    | body chunk => exact absurd hfind (hfirst chunk)
    | format =>
      -- the other body is formatted here as well, and both are a single chunk then
      have hformat : ReadsAfter [] (msg.run idle).format (msg.format.run idle).format := by
        refine ⟨List.cons_ne_nil _ [], List.cons_ne_nil _ [], ?_⟩
        rw [joinedBody_format, joinedBody_format, joinedBody_run hidle, joinedBody_run hidle,
          joinedBody_format, List.nil_append]
      rw [run_append, run_append, run_cons, run_cons]
      exact (hformat.run rest).joinedBody_eq
    | _ => exact nomatch hconcerns

/-- Formatting a message in the making leaves its body as it is, unless there is no chunk yet and
one is added next.  Then a blank line stands before the whole body. -/
theorem joinedBody_run_format_iff (origin key : Text) (before after : List Edit) :
    (((ofKey origin key).run (before ++ .format :: after)).joinedBody =
        ((ofKey origin key).run (before ++ after)).joinedBody ↔ ¬ AwaitsChunk before after) ∧
      (AwaitsChunk before after →
        ((ofKey origin key).run (before ++ .format :: after)).joinedBody =
          '\n' :: '\n' :: ((ofKey origin key).run (before ++ after)).joinedBody) := by
  rw [run_append, run_append, run_cons]
  show ((((ofKey origin key).run before).format.run after).joinedBody = _ ↔ _) ∧
    (_ → (((ofKey origin key).run before).format.run after).joinedBody = _)
  have hawaits : AwaitsChunk before after →
      (((ofKey origin key).run before).format.run after).joinedBody =
        '\n' :: '\n' :: (((ofKey origin key).run before).run after).joinedBody := by
    rintro ⟨hbefore, chunk, hafter⟩
    have hbody := body_run (List.find?_eq_none.1 hbefore) (ofKey origin key)
    exact (readsAfter_run_of_chunk hbody hafter).joinedBody_eq
  refine ⟨⟨?_, ?_⟩, hawaits⟩
  · intro heq h
    rw [hawaits h] at heq
    -- two line breaks more cannot leave the body as it was
    have hlength := congrArg List.length heq
    simp only [List.length_cons] at hlength
    omega
  · intro h
    by_cases hbefore : before.find? Edit.concernsBody = none
    · refine joinedBody_run_format_of_no_chunk (fun chunk hafter => ?_) _
      exact h ⟨hbefore, chunk, hafter⟩
    · have hbody : ((ofKey origin key).run before).body ≠ [] := body_run_ne_nil (.inl hbefore)
      exact ((readsAfter_format hbody).run after).joinedBody_eq

/-- Formatting before the first chunk puts a blank line before it. -/
theorem not_joinedBody_run_format :
    ((ofKey "m".toList "k".toList).run [.format, .body "a".toList]).joinedBody = "\n\na".toList ∧
      ((ofKey "m".toList "k".toList).run [.body "a".toList]).joinedBody = "a".toList ∧
      ¬ ∀ (origin key : Text) (before after : List Edit),
        ((ofKey origin key).run (before ++ .format :: after)).joinedBody =
          ((ofKey origin key).run (before ++ after)).joinedBody := by
  refine ⟨by decide, by decide, ?_⟩
  intro h
  exact absurd (h "m".toList "k".toList [] [.body "a".toList]) (by decide)

end Mailroom.Message
