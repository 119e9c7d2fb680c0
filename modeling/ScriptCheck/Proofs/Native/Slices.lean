import ScriptCheck.Native.Builtin

/-! # Slices of a string

`substring` cuts a slice out of a string and `size` counts characters. A slice is what stands in the string between
what is in front of it and what is behind it, and it is shorter than asked for only where the string ends
(`IsSlice`). The size of a slice, the two parts of a string that is cut in two, and a slice of a slice follow from
that alone (`Builtin.substring_slices`).
-/

namespace ScriptCheck

/-- `part` are the contiguous characters of `s` from position `start` on, at most `length` of them and fewer only
where `s` ends. -/
def IsSlice (s : String) (start length : Nat) (part : String) : Prop :=
  ∃ front back, s = front ++ part ++ back ∧ front.length = min start s.length ∧
    part.length ≤ length ∧ (part.length < length → back = "")

/-! ### Slices -/

namespace IsSlice

variable {s part : String} {start length : Nat}

private theorem of_toList_eq (cut : part.toList = (s.toList.drop start).take length) : IsSlice s start length part := by
  have size : part.length = min length (s.length - start) := by
    rw [← String.length_toList, cut, List.length_take, List.length_drop, String.length_toList]
  refine ⟨String.ofList (s.toList.take start), String.ofList ((s.toList.drop start).drop length), ?whole, ?begins,
    ?short, ?ends⟩
  case whole =>
    apply String.toList_inj.mp
    simp only [String.toList_append, String.toList_ofList, cut, List.append_assoc, List.take_append_drop]
  case begins =>
    rw [String.length_ofList, List.length_take, String.length_toList]
  case short => omega
  case ends =>
    intro shorter
    rw [List.drop_drop, List.drop_of_length_le, String.ofList_nil]
    rw [String.length_toList]
    omega

/-- The characters of a string come one after the other, so it has only one slice from a position on. -/
theorem toList_eq (slice : IsSlice s start length part) :
    part.toList = (s.toList.drop start).take length := by
  obtain ⟨front, back, whole, begins, short, ends⟩ := slice
  have sizes : s.length = front.length + part.length + back.length := by
    rw [whole, String.length_append, String.length_append]
  have rest : s.toList.drop start = part.toList ++ back.toList := by
    rcases Nat.le_total start s.length with inside | beyond
    · have same : start = front.toList.length := by
        rw [String.length_toList]
        omega
      rw [whole, String.toList_append, String.toList_append, List.append_assoc, same, List.drop_left]
    · have none : (part.toList ++ back.toList).length = 0 := by
        rw [List.length_append, String.length_toList, String.length_toList]
        omega
      rw [List.eq_nil_of_length_eq_zero none, List.drop_of_length_le]
      rwa [String.length_toList]
  rw [rest]
  rcases Nat.lt_or_eq_of_le short with shorter | full
  · rw [ends shorter, String.toList_empty, List.append_nil, List.take_of_length_le]
    rw [String.length_toList]
    omega
  · rw [← full, ← String.length_toList, List.take_left]

end IsSlice

private theorem isSlice_iff {s part : String} {start length : Nat} :
    IsSlice s start length part ↔ part.toList = (s.toList.drop start).take length :=
  ⟨IsSlice.toList_eq, IsSlice.of_toList_eq⟩

/-! ### Calls of the two functions -/

namespace Builtin

private theorem call_substring (s : String) (start length : Int64) :
    registry.call "substring" [.string s, .int start, .int length] =
      .ok ⟨some (.string (substringOf s start length)), []⟩ := rfl

private theorem call_size (s : String) : registry.call "size" [.string s] = .ok ⟨some (.int (sizeOf s)), []⟩ := rfl

private theorem count_eq (n : Int64) : (count n : Int) = max n.toInt 0 := Int.ofNat_toNat _

private theorem toList_substringOf (s : String) (start length : Int64) :
    (substringOf s start length).toList = (s.toList.drop (count start)).take (count length) :=
  String.toList_ofList

private theorem length_substringOf (s : String) (start length : Int64) :
    (substringOf s start length).length = min (count length) (s.length - count start) := by
  rw [← String.length_toList, toList_substringOf, List.length_take, List.length_drop, String.length_toList]

/-- The size of a string that is not longer than the largest integer is the number of its characters. -/
theorem toInt_sizeOf {s : String} (short : s.length ≤ Value.largestInt) : (sizeOf s).toInt = s.length := by
  rw [sizeOf, Nat.min_eq_left short]
  exact Int64.toInt_ofNat_of_lt (Nat.lt_of_le_of_lt short (by decide))

/-- What `substring` gives is the slice that is asked for. -/
theorem isSlice_substringOf {s part : String} {start length : Int64} :
    IsSlice s (count start) (count length) part ↔ part = substringOf s start length := by
  rw [isSlice_iff, ← toList_substringOf, String.toList_inj]

private theorem isSlice_substringOf_substringOf {s part : String} {start length inner number : Int64} :
    IsSlice s (count start + count inner) (min (count number) (count length - count inner)) part ↔
      part = substringOf (substringOf s start length) inner number := by
  rw [isSlice_iff, ← String.toList_inj, toList_substringOf, toList_substringOf, List.drop_take, List.take_take,
    List.drop_drop]

private theorem substringOf_append {s : String} (short : s.length ≤ Value.largestInt) {k : Int64} (least : 0 ≤ k)
    (most : k ≤ sizeOf s) : substringOf s 0 k ++ substringOf s k (sizeOf s - k) = s := by
  have size := toInt_sizeOf short
  have rest : count (sizeOf s - k) = s.toList.length - count k := by
    have difference := Int64.toInt_sub_of_le _ _ least most
    have clamped := Int64.le_iff_toInt_le.mp least
    rw [String.length_toList, count, count, difference, size]
    change 0 ≤ k.toInt at clamped
    omega
  apply String.toList_inj.mp
  rw [String.toList_append, toList_substringOf, toList_substringOf, rest, ← List.length_drop, List.take_length]
  exact List.take_append_drop ..

/-- For a string that is not longer than the largest integer, `substring` gives the slice from the start on with the
length, where negative numbers count as zero. It has as many characters as asked for, or as the string still has. The
two parts of a string that is cut in two make up the string, and a slice of a slice is the slice from the sum of the
starts on that neither reaches beyond the outer slice. -/
theorem substring_slices (s : String) (short : s.length ≤ Value.largestInt) (start length : Int64) :
    ((∀ n : Int64, (count n : Int) = max n.toInt 0) ∧
      registry.call "substring" [.string s, .int start, .int length] =
        .ok ⟨some (.string (substringOf s start length)), []⟩ ∧
      ∀ t, registry.call "size" [.string t] = .ok ⟨some (.int (sizeOf t)), []⟩) ∧
    (sizeOf (substringOf s start length)).toInt =
      min (max length.toInt 0) (max 0 ((sizeOf s).toInt - max start.toInt 0)) ∧
    (∀ part, IsSlice s (count start) (count length) part ↔ part = substringOf s start length) ∧
    (∀ k : Int64, 0 ≤ k → k ≤ sizeOf s → substringOf s 0 k ++ substringOf s k (sizeOf s - k) = s) ∧
    ∀ (inner number : Int64) (part : String),
      IsSlice s (count start + count inner) (min (count number) (count length - count inner)) part ↔
        part = substringOf (substringOf s start length) inner number := by
  refine ⟨⟨count_eq, call_substring s start length, call_size⟩, ?size, fun _ => isSlice_substringOf,
    fun k => substringOf_append short, fun _ _ _ => isSlice_substringOf_substringOf⟩
  have part := length_substringOf s start length
  have shorter : (substringOf s start length).length ≤ Value.largestInt := by omega
  rw [toInt_sizeOf shorter, toInt_sizeOf short, part, ← count_eq, ← count_eq]
  omega

/-- A negative start counts as zero without shortening the slice, and a length may reach far beyond the end. -/
theorem substring_slices_clamped :
    "héllo".length ≤ Value.largestInt ∧
      registry.call "substring" [.string "héllo", .int (-2), .int 3] = .ok ⟨some (.string "hél"), []⟩ ∧
      (sizeOf (substringOf "héllo" (-2) 3)).toInt = 3 ∧
      substringOf "héllo" 0 2 ++ substringOf "héllo" 2 3 = "héllo" ∧
      IsSlice "héllo" 1 2 (substringOf (substringOf "héllo" (-2) 3) 1 9223372036854775807) := by
  have short : "héllo".length ≤ Value.largestInt := by decide
  obtain ⟨⟨_, called, _⟩, size, _, cut, inner⟩ := substring_slices "héllo" short (-2) 3
  refine ⟨short, ?_, ?_, ?_, ?_⟩
  · have front : substringOf "héllo" (-2) 3 = "hél" := by decide +kernel
    rw [called, front]
  · rw [size]
    decide +kernel
  · exact cut 2 (by decide) (by decide +kernel)
  · exact (inner 1 9223372036854775807 _).mpr rfl

end Builtin

end ScriptCheck
