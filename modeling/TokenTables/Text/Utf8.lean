import TokenTables.Text.Basic

/-!
Text as UTF-8 bytes. Reading the bytes of a text gives the text back; bytes that are no text are
refused.
-/

namespace TokenTables.Text

def utf8 (t : Text) : ByteArray := (String.ofList t).toByteArray

def ofUtf8? (bytes : ByteArray) : Option Text := (String.fromUTF8? bytes).map String.toList

theorem ofUtf8?_utf8 (t : Text) : ofUtf8? (utf8 t) = some t := by
  have valid := (String.ofList t).isValidUTF8
  have back : String.fromUTF8 (String.ofList t).toByteArray valid = String.ofList t := rfl
  rw [ofUtf8?, utf8, String.fromUTF8?, dif_pos valid, back, Option.map_some, String.toList_ofList]

def byteSize : Text → Nat
  | [] => 0
  | c :: t => c.utf8Size + byteSize t

end TokenTables.Text
