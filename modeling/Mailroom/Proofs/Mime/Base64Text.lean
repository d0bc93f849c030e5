import Mailroom.Attachment
import Mailroom.Mime.Leaf
import Mailroom.Proofs.Base64
import Mailroom.Proofs.Text.Utf8

/-!
# Base64 content

The content of a leaf in base64 is read without white space, first with its padding and then
without any.  The second reading covers the first, so what decides is the digits alone: content
is read exactly when they are what is written for some bytes.  The same holds of the content of
an attachment, which may therefore be folded and may lose its padding on the way.

## Key results

* `base64Text?_eq_some_iff`  which content spells which text
* `base64Text?_respells`     folding and padding do not change what content spells
* `text_base64`              the text of a leaf in base64
-/

namespace Mailroom.Mime

open Text

/-- The characters of some content that count in base64. -/
def compact (raw : Text) : Text := raw.filter (!isBlank ·)

/-- The text without the padding at its end. -/
def withoutPadding (t : Text) : Text := dropEndWhile (· == '=') t

/-- A text in base64 is read exactly if its digits are what is written for some bytes. -/
theorem base64Text?_eq_some_iff {raw t : Text} :
    base64Text? raw = some t ↔
      ∃ bytes, withoutPadding (compact raw) = Base64.digits bytes ∧ ofUtf8 bytes = t := by
  rw [base64Text?, Option.map_eq_some_iff]
  exact exists_congr fun bytes => and_congr_left' Base64.ofDigits?_eq_some_iff

/-- It is not read if they are written for none. -/
theorem base64Text?_eq_none_iff {raw : Text} :
    base64Text? raw = none ↔ ∀ bytes, withoutPadding (compact raw) ≠ Base64.digits bytes := by
  rw [base64Text?, Option.map_eq_none_iff, Option.eq_none_iff_forall_ne_some]
  exact forall_congr' fun bytes => not_congr Base64.ofDigits?_eq_some_iff

/-- What is read with its padding is read without it as well. -/
theorem base64Text?_eq_or (raw : Text) :
    base64Text? raw = ((Base64.decode? (compact raw)).or
      (Base64.ofDigits? (withoutPadding (compact raw)))).map ofUtf8 := by
  cases hdecode : Base64.decode? (compact raw) with
  | none =>
    rw [Option.none_or]
    rfl
  | some bytes =>
    have hbare : withoutPadding (compact raw) = Base64.digits bytes := by
      rw [Base64.decode?_eq_some_iff.1 hdecode, withoutPadding, Base64.dropEndWhile_encode]
    rw [Option.some_or, Option.map_some]
    exact base64Text?_eq_some_iff.2 ⟨bytes, hbare, rfl⟩

/-- The text `raw` is `content` with white space put in anywhere and with padding taken off its
end or added to it. -/
def Respells (raw content : Text) : Prop :=
  ∃ digits removed added, content = digits ++ List.replicate removed '=' ∧
    compact raw = digits ++ List.replicate added '='

/-- White space and padding make no difference to the digits. -/
theorem Respells.withoutPadding_compact {raw content : Text} (h : Respells raw content) :
    withoutPadding (compact raw) = withoutPadding content := by
  obtain ⟨digits, removed, added, hcontent, hraw⟩ := h
  have hpad (n : Nat) : withoutPadding (digits ++ List.replicate n '=') = withoutPadding digits :=
    dropEndWhile_append fun c hc => beq_iff_eq.2 (List.eq_of_mem_replicate hc)
  rw [hcontent, hraw, hpad, hpad]

/-- However the base64 form of a text is folded and padded, it spells the text. -/
theorem base64Text?_respells {raw t : Text} (h : Respells raw (Base64.encode (toUtf8 t))) :
    base64Text? raw = some t := by
  refine base64Text?_eq_some_iff.2 ⟨toUtf8 t, ?_, ofUtf8_toUtf8 t⟩
  rw [h.withoutPadding_compact, withoutPadding, Base64.dropEndWhile_encode]

/-- The text of a leaf in base64: what the bytes spell that its digits are written for, and the
content as it stands when they are written for none.  It is the same whether or not the content
is read with its padding first, and the content of an attachment gives its text back. -/
theorem Leaf.text_base64 (kind : Kind) (raw : Text) :
    (∀ bytes, withoutPadding (compact raw) = Base64.digits bytes →
      (Leaf.mk kind .base64 raw).text = ofUtf8 bytes) ∧
    ((∀ bytes, withoutPadding (compact raw) ≠ Base64.digits bytes) →
      (Leaf.mk kind .base64 raw).text = raw) ∧
    (Leaf.mk kind .base64 raw).text = (((Base64.decode? (compact raw)).or
      (Base64.ofDigits? (withoutPadding (compact raw)))).map ofUtf8).getD raw ∧
    ∀ filename mediaType t,
      Respells raw (Attachment.ofContent filename mediaType (toUtf8 t)).content →
        (Leaf.mk kind .base64 raw).text = t := by
  have htext : (Leaf.mk kind .base64 raw).text = (base64Text? raw).getD raw := rfl
  rw [htext]
  refine ⟨fun bytes hbytes => ?_, fun hnone => ?_, ?_, fun filename mediaType t hraw => ?_⟩
  · rw [base64Text?_eq_some_iff.2 ⟨bytes, hbytes, rfl⟩, Option.getD_some]
  · rw [base64Text?_eq_none_iff.2 hnone, Option.getD_none]
  · rw [base64Text?_eq_or]
  · rw [base64Text?_respells hraw, Option.getD_some]

/-- An attachment that was folded and lost its padding gives its text back, bytes that are no
text are shown as replacement characters, and digits that leave a bit over stand for themselves. -/
theorem Leaf.text_base64_folded :
    (Respells " w6\r\nk".toList
        (Attachment.ofContent "a.txt".toList "text/plain".toList (toUtf8 "é".toList)).content ∧
      (Leaf.mk .html .base64 " w6\r\nk".toList).text = "é".toList) ∧
    (withoutPadding (compact "ww===".toList) = Base64.digits [0xC3] ∧
      (Leaf.mk .html .base64 "ww===".toList).text = ofUtf8 [0xC3]) ∧
    ((∀ bytes, withoutPadding (compact "w6l".toList) ≠ Base64.digits bytes) ∧
      (Leaf.mk .html .base64 "w6l".toList).text = "w6l".toList) := by
  have hfolded : Respells " w6\r\nk".toList
      (Attachment.ofContent "a.txt".toList "text/plain".toList (toUtf8 "é".toList)).content :=
    ⟨"w6k".toList, 1, 0, by decide, by decide⟩
  have hcut : withoutPadding (compact "ww===".toList) = Base64.digits [0xC3] := by decide
  have hnone : ∀ bytes, withoutPadding (compact "w6l".toList) ≠ Base64.digits bytes :=
    base64Text?_eq_none_iff.1 (by decide)
  exact ⟨⟨hfolded, (text_base64 .html _).2.2.2 _ _ _ hfolded⟩,
    ⟨hcut, (text_base64 .html _).1 _ hcut⟩, ⟨hnone, (text_base64 .html _).2.1 hnone⟩⟩

end Mailroom.Mime
