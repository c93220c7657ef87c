import FluxQuery.Proofs.Encodings
import FluxQuery.Proofs.Timestamps
import FluxQuery.Query.Cursor

/-!
# Cursors through tokens

A token gives back the cursor it was made of, whatever its owner is called, if the year of its time has four digits.
The time of any other year is printed with a sign, and its token is refused.
-/

namespace FluxQuery.Cursor

private theorem comma_not_mem_print {precision : Rfc3339.Precision} {t : Instant} {c : Char}
    (h : c ∈ Rfc3339.print precision t) : (c != ',') = true := by
  rw [bne_iff_ne]
  rintro rfl
  exact absurd (Rfc3339.isDigit_or_mem_of_mem_print h) (by decide)

/-- The time of a text ends before its first comma, and the owner may hold more of them. -/
theorem ofPlain_plain (c : Cursor) :
    ofPlain c.plain = ((Rfc3339.read (Rfc3339.print .nanos c.time)).mapError .time).map (⟨·, c.uid⟩) := by
  have htime : ∀ x ∈ Rfc3339.print .nanos c.time, (x != ',') = true := fun _ => comma_not_mem_print
  have hdrop : c.plain.dropWhile (· != ',') = ',' :: c.uid.toList := by
    rw [plain, List.dropWhile_append_of_pos htime]
    rfl
  have htake : c.plain.takeWhile (· != ',') = Rfc3339.print .nanos c.time := by
    rw [plain, List.takeWhile_append_of_pos htime]
    exact List.append_nil _
  rw [ofPlain, hdrop, htake]
  simp only [String.ofList_toList]
  cases Rfc3339.read (Rfc3339.print .nanos c.time) <;> rfl

theorem decode_encode_eq_ofPlain (c : Cursor) : decode c.encode = ofPlain c.plain := by
  have hbytes : Base64.decode (Utf8.encode c.encode.toList) = .ok (Utf8.encode c.plain) := by
    rw [encode, String.toList_ofList, Base64.decode_encode]
  rw [decode, Except.mapError_bind_of_eq_ok hbytes, Except.mapError_bind_of_eq_ok (Utf8.decode_encode c.plain)]

theorem decode_encode_of_isValid (c : Cursor) (ht : c.time.IsValid) :
    decode c.encode = if 0 ≤ c.time.date.year ∧ c.time.date.year ≤ 9999 then .ok c else .error (.time .invalid) := by
  rw [decode_encode_eq_ofPlain, ofPlain_plain]
  split
  · rename_i hy
    rw [Rfc3339.read_print .nanos ht hy]
    rfl
  · rename_i hy
    rw [Rfc3339.read_print_of_year .nanos hy]
    rfl

/-- The leap second at the end of 2016, for an owner with a comma; and the first instant after the year 9999. -/
theorem decode_encode_of_isValid_leap :
    (⟨1483228799, 1999999999⟩ : Instant).IsValid ∧ (⟨253402300800, 0⟩ : Instant).IsValid ∧
      decode (encode ⟨⟨1483228799, 1999999999⟩, "ana, café 𝄞"⟩) = .ok ⟨⟨1483228799, 1999999999⟩, "ana, café 𝄞"⟩ ∧
      decode (encode ⟨⟨253402300800, 0⟩, ""⟩) = .error (.time .invalid) :=
  ⟨by decide, by decide,
    (decode_encode_of_isValid ⟨⟨1483228799, 1999999999⟩, "ana, café 𝄞"⟩ (by decide)).trans (if_pos (by decide)),
    (decode_encode_of_isValid ⟨⟨253402300800, 0⟩, ""⟩ (by decide)).trans (if_neg (by decide))⟩

end FluxQuery.Cursor
