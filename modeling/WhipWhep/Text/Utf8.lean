import WhipWhep.Text.Hex

/-!
Texts as bytes. A text has exactly one encoding, and a run of bytes encodes at most one text.
-/

namespace WhipWhep.Text

def utf8 (text : String) : Bytes := text.toByteArray.data.toList

def ofUtf8? (bytes : Bytes) : Option String := String.fromUTF8? ⟨bytes.toArray⟩

theorem utf8_of_ofUtf8? {bytes : Bytes} {text : String} (decoded : ofUtf8? bytes = some text) :
    utf8 text = bytes := by
  unfold ofUtf8? String.fromUTF8? at decoded
  split at decoded
  · simp only [Option.some.injEq] at decoded
    subst decoded
    simp [utf8, String.fromUTF8]
  · simp at decoded

theorem length_utf8 (text : String) : (utf8 text).length = text.utf8ByteSize := by
  show text.toByteArray.data.toList.length = text.utf8ByteSize
  rw [Array.length_toList]
  rfl

/-- A text takes the bytes that its characters take. -/
theorem utf8ByteSize_ofList (text : List Char) :
    (String.ofList text).utf8ByteSize = text.foldr (fun c size => c.utf8Size + size) 0 := by
  rw [← String.size_toByteArray]
  simp [List.utf8Encode, List.length_flatMap, String.length_utf8EncodeChar, List.sum_eq_foldr, List.foldr_map]

end WhipWhep.Text
