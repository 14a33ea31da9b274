/-
Parts of a text between two byte offsets.

An offset counts bytes of the text in UTF-8, so it can fall into the middle of
a character.  Two offsets cut a part out of the text only if both are at a
boundary between characters and in order; else there is no part.

* **`isBoundary_iff`** — a boundary is where the text falls into two;
* **`slice?_eq_some_iff`** — when there is a part, and of which bytes;
* **`isPart_append`** — what stands between two texts is the part between the
  offsets where the one ends and the other starts.
-/
namespace Dotfile.Text

/-- The number of bytes of `cs` in UTF-8. -/
def byteLength (cs : List Char) : Nat :=
  (String.ofList cs).utf8ByteSize

/-- An offset at which a character of `cs` starts, or at which `cs` ends. -/
def IsBoundary (cs : List Char) (i : Nat) : Prop :=
  String.Pos.Raw.IsValid (String.ofList cs) ⟨i⟩

/-- `x` is what `cs` has between the offsets `i` and `j`. -/
structure IsPart (cs : List Char) (i j : Nat) (x : List Char) : Prop where
  start : IsBoundary cs i
  stop : IsBoundary cs j
  inOrder : i ≤ j
  bytes : x.utf8Encode = cs.utf8Encode.extract i j

/-- The part of `cs` from the offset `i` to the offset `j`. -/
def slice? (cs : List Char) (i j : Nat) : Option (List Char) :=
  let s := String.ofList cs
  (s.pos? ⟨i⟩).bind fun start =>
    (s.pos? ⟨j⟩).bind fun stop =>
      (s.slice? start stop).map fun part => part.copy.toList

theorem byteLength_append (cs ds : List Char) :
    byteLength (cs ++ ds) = byteLength cs + byteLength ds := by
  simp [byteLength]

theorem byteLength_pos {cs : List Char} (h : cs ≠ []) : 0 < byteLength cs := by
  rw [byteLength, Nat.pos_iff_ne_zero]
  simpa using h

theorem size_utf8Encode (cs : List Char) : cs.utf8Encode.size = byteLength cs := by
  rw [byteLength, ← String.size_toByteArray, String.toByteArray_ofList]

theorem isBoundary_iff {cs : List Char} {i : Nat} :
    IsBoundary cs i ↔ ∃ l r, cs = l ++ r ∧ i = byteLength l := by
  rw [IsBoundary, String.Pos.Raw.isValid_iff_exists_append]
  constructor
  · rintro ⟨l, r, heq, hi⟩
    refine ⟨l.toList, r.toList, ?_, ?_⟩
    · rw [← String.toList_append, ← heq, String.toList_ofList]
    · rw [byteLength, String.ofList_toList]
      exact congrArg String.Pos.Raw.byteIdx hi
  · rintro ⟨l, r, rfl, rfl⟩
    exact ⟨String.ofList l, String.ofList r, String.ofList_append, rfl⟩

theorem pos?_eq_some_iff {s : String} {i : Nat} {p : s.Pos} :
    s.pos? ⟨i⟩ = some p ↔ p.offset.byteIdx = i := by
  simp only [String.pos?, String.Slice.pos?, Option.map_eq_some_iff,
    Option.dite_none_right_eq_some, Option.some.injEq]
  constructor
  · rintro ⟨q, ⟨hi, rfl⟩, rfl⟩
    rfl
  · rintro rfl
    exact ⟨p.toSlice, ⟨by simpa using p.toSlice.isValidForSlice, rfl⟩, by simp⟩

theorem slice?_eq_some_iff {cs x : List Char} {i j : Nat} :
    slice? cs i j = some x ↔ IsPart cs i j x := by
  simp only [slice?, Option.bind_eq_some_iff, pos?_eq_some_iff, Option.map_eq_some_iff,
    String.slice?, Option.dite_none_right_eq_some, Option.some.injEq]
  constructor
  · rintro ⟨start, rfl, stop, rfl, part, ⟨hle, rfl⟩, rfl⟩
    refine ⟨start.isValid, stop.isValid, hle, ?_⟩
    rw [← String.toByteArray_ofList, String.ofList_toList, String.toByteArray_copy_slice,
      String.toByteArray_ofList]
  · rintro ⟨hi, hj, hle, hx⟩
    refine ⟨(String.ofList cs).pos ⟨i⟩ hi, rfl, (String.ofList cs).pos ⟨j⟩ hj, rfl, _,
      ⟨hle, rfl⟩, ?_⟩
    -- a text is known from its bytes
    rw [← String.ofList_inj, String.ofList_toList, ← String.toByteArray_inj,
      String.toByteArray_copy_slice, String.toByteArray_ofList, String.toByteArray_ofList, hx]
    rfl

theorem isPart_append (cs x ds : List Char) :
    IsPart (cs ++ x ++ ds) (byteLength cs) (byteLength (cs ++ x)) x where
  start := isBoundary_iff.mpr ⟨cs, x ++ ds, List.append_assoc cs x ds, rfl⟩
  stop := isBoundary_iff.mpr ⟨cs ++ x, ds, rfl, rfl⟩
  inOrder := by
    rw [byteLength_append]
    exact Nat.le_add_right _ _
  bytes := by
    rw [List.utf8Encode_append, ← size_utf8Encode (cs ++ x), ByteArray.extract_append_size_left,
      List.utf8Encode_append]
    exact (ByteArray.extract_append_eq_right (size_utf8Encode cs).symm ByteArray.size_append).symm

theorem slice?_of_lt (cs : List Char) {i j : Nat} (h : j < i) : slice? cs i j = none := by
  rw [Option.eq_none_iff_forall_ne_some]
  intro x hx
  exact absurd (slice?_eq_some_iff.mp hx).inOrder (Nat.not_le.mpr h)

end Dotfile.Text
