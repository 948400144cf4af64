import MediaTransform.Text.Slice
import MediaTransform.Text.Utf8

/-! # The bytes of a text, character by character

* **`Bytes.ofText_ofList`** — the bytes of a text are those of its characters in order.
* **`Bytes.all_ofText`** — what is to hold of all bytes can be asked of one character after the
  other.
* **`utf8ByteSize_ofList_of_ascii`** — characters of one byte are counted by the bytes. -/

namespace MediaTransform

/-- The rest of a byte array behind what is collected already. -/
theorem toList_loop_eq (b : ByteArray) (i : Nat) (done : List UInt8) :
    ByteArray.toList.loop b i done = done.reverse ++ b.data.toList.drop i := by
  induction i, done using ByteArray.toList.loop.induct b with
  | case1 i done hlt ih =>
    -- one more byte is collected, and it is the first one of the rest
    have hsize : i < b.data.size := hlt
    have hlength : i < b.data.toList.length := by simpa using hsize
    have hget : b.get! i = b.data.toList[i] := by
      rw [Array.getElem_toList]
      exact getElem!_pos b.data i hsize
    rw [ByteArray.toList.loop, if_pos hlt, ih, hget, List.reverse_cons, List.append_assoc,
      List.singleton_append, ← List.drop_eq_getElem_cons]
  | case2 i done hge =>
    have hlength : b.data.toList.length ≤ i := by simpa using hge
    rw [ByteArray.toList.loop, if_neg hge, List.drop_eq_nil_of_le hlength, List.append_nil]

namespace Bytes

/-- **The bytes of a text are those of its characters.** -/
theorem ofText_ofList (cs : List Char) :
    ofText (String.ofList cs) = cs.flatMap String.utf8EncodeChar := by
  have harray : (String.ofList cs).toUTF8 = cs.utf8Encode := String.toByteArray_ofList
  rw [ofText, harray, ByteArray.toList, toList_loop_eq, List.utf8Encode, List.data_toByteArray]
  simp

theorem ofText_append (s t : String) : ofText (s ++ t) = ofText s ++ ofText t := by
  rw [← String.ofList_toList (s := s), ← String.ofList_toList (s := t), ← String.ofList_append,
    ofText_ofList, ofText_ofList, ofText_ofList, List.flatMap_append]

theorem all_ofText (p : UInt8 → Bool) (cs : List Char) :
    (ofText (String.ofList cs)).all p = cs.all fun c => (String.utf8EncodeChar c).all p := by
  rw [ofText_ofList, List.all_flatMap]

end Bytes

/-- **Characters of one byte each are as many as their bytes.** -/
theorem utf8ByteSize_ofList_of_ascii {cs : List Char} (h : ∀ c ∈ cs, c.utf8Size = 1) :
    (String.ofList cs).utf8ByteSize = cs.length := by
  induction cs with
  | nil => rfl
  | cons c cs ih =>
    rw [Text.utf8ByteSize_ofList_cons, h c List.mem_cons_self,
      ih fun d hd => h d (List.mem_cons_of_mem _ hd), List.length_cons, Nat.add_comm]

end MediaTransform
