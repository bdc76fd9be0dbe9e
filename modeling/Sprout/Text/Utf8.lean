import Sprout.Text.Basic

set_option autoImplicit false

namespace Sprout.Text

def encode (t : Text) : List UInt8 := t.flatMap String.utf8EncodeChar

@[simp] theorem encode_append (a b : Text) : encode (a ++ b) = encode a ++ encode b :=
  List.flatMap_append

def decode? (bytes : List UInt8) : Option Text :=
  (String.fromUTF8? bytes.toByteArray).map String.toList

theorem toByteArray_ofList_eq_iff {bytes : List UInt8} {t : Text} :
    (String.ofList t).toByteArray = bytes.toByteArray ↔ bytes = t.encode := by
  rw [String.toByteArray_ofList, List.utf8Encode, List.toByteArray_inj]
  exact eq_comm

theorem decode?_eq_some_iff {bytes : List UInt8} {t : Text} :
    decode? bytes = some t ↔ bytes = t.encode := by
  rw [← toByteArray_ofList_eq_iff, decode?, String.fromUTF8?]
  split
  next valid =>
    rw [Option.map_some, Option.some_inj]
    constructor
    · rintro rfl
      simp [String.fromUTF8]
    · intro same
      have : String.fromUTF8 bytes.toByteArray valid = String.ofList t :=
        String.toByteArray_inj.mp same.symm
      rw [this, String.toList_ofList]
  next invalid =>
    simp only [Option.map_none, reduceCtorEq, false_iff]
    intro same
    exact invalid (same ▸ (String.ofList t).isValidUTF8)

@[simp] theorem decode?_encode (t : Text) : decode? t.encode = some t :=
  decode?_eq_some_iff.mpr rfl

end Sprout.Text
