import Scaffold.Bundle
import Scaffold.Proofs.Template.Newlines

/-!
# Decoding files

A file that was written in UTF-8 is read as its text, with one kind of line end.
-/

namespace Scaffold

namespace Text

theorem decodeUtf8_toUTF8 (text : String) : decodeUtf8 text.toUTF8 = .ok text := by
  have valid : String.fromUTF8? text.toUTF8 = some text := dif_pos text.isValidUTF8
  rw [decodeUtf8, valid]

/-- Bytes that can be decoded are those of the text. -/
theorem eq_toUTF8_of_decodeUtf8 {bytes : ByteArray} {text : String}
    (h : decodeUtf8 bytes = .ok text) : bytes = text.toUTF8 := by
  unfold decodeUtf8 String.fromUTF8? at h
  by_cases valid : bytes.IsValidUTF8
  · rw [dif_pos valid] at h
    cases h
    rfl
  · rw [dif_neg valid] at h
    simp only at h
    split at h <;> cases h

theorem normalizeNewlines_of_not_mem {text : List Char} (h : '\r' ∉ text) :
    normalizeNewlines text = text :=
  calc
    normalizeNewlines text = normalizeNewlines (text ++ []) := by rw [List.append_nil]
    _ = text ++ normalizeNewlines [] := Template.normalizeNewlines_append h []
    _ = text := List.append_nil text

end Text

namespace Bundle

theorem decode_toUTF8 (text : String) :
    decode text.toUTF8 = .ok (String.ofList (Text.normalizeNewlines text.toList)) := by
  rw [decode, Text.decodeUtf8_toUTF8]
  rfl

theorem decode_of_not_mem {text : String} (h : '\r' ∉ text.toList) :
    decode text.toUTF8 = .ok text := by
  rw [decode_toUTF8, Text.normalizeNewlines_of_not_mem h, String.ofList_toList]

end Bundle

end Scaffold
