import FluxQuery.Proofs.Timestamps

/-!
# The grammar of times

Which texts are times, said without reading them: `Tells` puts such a text together out of a date of the calendar, a
time of day and a zone, and says what these are. `Rfc3339.read` reads these texts and no others
(`exists_read_eq_ok_iff`), as the instant that they tell (`read_eq_ok_iff_tells`).
-/

namespace FluxQuery.Rfc3339

open Digits

/-! ### The grammar -/

/-- Nothing, or a point and at least one digit, and the nanoseconds in it, rounded down. -/
inductive TellsFraction : List Char → Nat → Prop
  | none : TellsFraction [] 0
  | point {digits : List Char} (hne : digits ≠ []) (hdigits : ∀ c ∈ digits, c.isDigit = true) :
    TellsFraction ('.' :: digits) (value digits * Instant.second / Nat.pow 10 digits.length)

/-- `Z`, or how far a clock is ahead of UTC or behind it, which is less than a day, and the minutes by which it is
ahead. -/
inductive TellsZone : List Char → Int → Prop
  | utc {c : Char} (h : c = 'Z' ∨ c = 'z') : TellsZone [c] 0
  | ahead {hour minute : Nat} (hhour : hour < 24) (hminute : minute < 60) :
    TellsZone ('+' :: padded 2 hour ++ ':' :: padded 2 minute) (hour * 60 + minute : Nat)
  | behind {sign : Char} {hour minute : Nat} (hsign : sign = '-' ∨ sign = '−') (hhour : hour < 24)
      (hminute : minute < 60) :
    TellsZone (sign :: padded 2 hour ++ ':' :: padded 2 minute) (-(hour * 60 + minute : Nat))

/-- A date of a year with four digits, a time of day that may be a leap second, a fraction of any length and a zone, and
the fields that these give. -/
inductive Tells : List Char → Fields → Prop
  | intro {f : Fields} {mark : Char} {fraction zone : List Char}
      (hdate : f.date.IsValid) (hyear : 0 ≤ f.date.year ∧ f.date.year ≤ 9999)
      (hmark : mark = 'T' ∨ mark = 't' ∨ mark = ' ') (hhour : f.hour < 24) (hminute : f.minute < 60)
      (hsecond : f.second ≤ 60) (hfraction : TellsFraction fraction f.nanos) (hzone : TellsZone zone f.offset) :
    Tells (printDate f.date ++ (mark :: padded 2 f.hour ++ ':' :: padded 2 f.minute ++ ':' :: padded 2 f.second ++
      (fraction ++ zone))) f

/-- A text that gives some date, time of day and zone. -/
def IsTime (cs : List Char) : Prop := ∃ f, Tells cs f

/-! ### Fractions -/

private theorem value_append (cs ds : List Char) :
    value (cs ++ ds) = Nat.pow 10 ds.length * value cs + value ds := by
  rw [value, Nat.ofDigitChars_append, Nat.ofDigitChars_eq_ofDigitChars_zero]
  rfl

/-- The first nine digits are the nanoseconds: those behind them are rounded off, and zeros stand for those that are
missing. -/
private theorem value_take_nine {digits : List Char} (h : ∀ c ∈ digits, c.isDigit = true) :
    value (digits.take 9) * Nat.pow 10 (9 - (digits.take 9).length) =
      value digits * Instant.second / Nat.pow 10 digits.length := by
  have hpos : ∀ n, 0 < Nat.pow 10 n := fun n => Nat.pow_pos (by decide)
  have hadd : ∀ m n, Nat.pow 10 (m + n) = Nat.pow 10 m * Nat.pow 10 n := Nat.pow_add 10
  have hsecond : Instant.second = Nat.pow 10 9 := rfl
  rcases Nat.le_total digits.length 9 with hle | hle
  · have hsplit : Nat.pow 10 9 = Nat.pow 10 (9 - digits.length) * Nat.pow 10 digits.length := by
      rw [← hadd, Nat.sub_add_cancel hle]
    rw [List.take_of_length_le hle, hsecond, hsplit, ← Nat.mul_assoc, Nat.mul_div_cancel _ (hpos _)]
  · have hlength : (digits.take 9).length = 9 := by rw [List.length_take, Nat.min_eq_left hle]
    have hdrop : ∀ c ∈ digits.drop 9, c.isDigit = true := fun c hc => h c (List.mem_of_mem_drop hc)
    have hvalue : value digits = Nat.pow 10 (digits.drop 9).length * value (digits.take 9) + value (digits.drop 9) := by
      rw [← value_append, List.take_append_drop]
    have hdigits : digits.length = (digits.drop 9).length + 9 := by
      rw [List.length_drop]
      omega
    rw [hsecond, hdigits, hadd, Nat.mul_div_mul_right _ _ (hpos 9), hvalue, Nat.mul_add_div (hpos _),
      Nat.div_eq_of_lt (value_lt_pow hdrop), hlength, Nat.add_zero]
    exact Nat.mul_one _

theorem TellsFraction.lt {cs : List Char} {nanos : Nat} (h : TellsFraction cs nanos) : nanos < Instant.second := by
  cases h with
  | none => decide
  | point hne hdigits =>
    apply Nat.div_lt_of_lt_mul
    exact Nat.mul_lt_mul_of_pos_right (value_lt_pow hdigits) (by decide)

theorem exists_tellsFraction {cs rest : List Char} {nanos : Nat} (h : readFraction cs = .ok (nanos, rest)) :
    ∃ fraction, TellsFraction fraction nanos ∧ cs = fraction ++ rest := by
  unfold readFraction at h
  split at h
  · rename_i digits
    split at h
    · cases h
    · rename_i hne
      obtain ⟨rfl, rfl⟩ := Prod.mk.inj (Except.ok.inj h)
      have hdigits : ∀ c ∈ digits.takeWhile Char.isDigit, c.isDigit = true := List.all_eq_true.1 List.all_takeWhile
      refine ⟨'.' :: digits.takeWhile Char.isDigit, ?_, ?_⟩
      · rw [value_take_nine hdigits]
        exact .point hne hdigits
      · rw [List.cons_append, List.takeWhile_append_dropWhile]
  · obtain ⟨rfl, rfl⟩ := Prod.mk.inj (Except.ok.inj h)
    exact ⟨[], .none, rfl⟩

/-- The first character of a zone ends a fraction. -/
private theorem TellsZone.exists_cons {zone : List Char} {offset : Int} (h : TellsZone zone offset) :
    ∃ c rest, zone = c :: rest ∧ c ≠ '.' ∧ c.isDigit = false := by
  cases h with
  | utc h => exact ⟨_, [], rfl, by rcases h with rfl | rfl <;> decide⟩
  | ahead => exact ⟨_, _, rfl, by decide⟩
  | behind h => exact ⟨_, _, rfl, by rcases h with rfl | rfl <;> decide⟩

theorem TellsFraction.readFraction_append {fraction zone : List Char} {nanos : Nat} {offset : Int}
    (h : TellsFraction fraction nanos) (hzone : TellsZone zone offset) :
    readFraction (fraction ++ zone) = .ok (nanos, zone) := by
  obtain ⟨c, rest, rfl, hpoint, hdigit⟩ := hzone.exists_cons
  cases h with
  | none =>
    unfold readFraction
    split
    · rename_i heq
      exact absurd (List.cons.inj heq).1 hpoint
    · rfl
  | point hne hdigits =>
    rename_i digits
    have htake : (digits ++ c :: rest).takeWhile Char.isDigit = digits := by
      rw [List.takeWhile_append_of_pos hdigits, List.takeWhile_cons_of_neg (by simp [hdigit]), List.append_nil]
    have hdrop : (digits ++ c :: rest).dropWhile Char.isDigit = c :: rest := by
      rw [List.dropWhile_append_of_pos hdigits, List.dropWhile_cons_of_neg (by simp [hdigit])]
    rw [List.cons_append, readFraction, htake, hdrop]
    split
    · exact absurd rfl hne
    · exact congrArg (fun n => Except.ok (n, c :: rest)) (value_take_nine hdigits)

/-! ### Zones -/

private theorem value_two (a b : Char) : value [a, b] = 10 * (a.toNat - 48) + (b.toNat - 48) := by
  simp [value, Nat.ofDigitChars_cons]

/-- The first of two digits decides whether they can be minutes. -/
private theorem value_two_lt_iff {a b : Char} (ha : a.isDigit = true) (hb : b.isDigit = true) :
    value [a, b] < 60 ↔ '0' ≤ a ∧ a ≤ '5' := by
  have hlow : '0' ≤ a ↔ 48 ≤ a.toNat := Iff.rfl
  have hhigh : a ≤ '5' ↔ a.toNat ≤ 53 := Iff.rfl
  rw [isDigit_iff] at ha hb
  rw [value_two, hlow, hhigh]
  omega

private theorem readOffsetMinutes_eq_ok_iff {cs rest : List Char} {m : Nat} :
    readOffsetMinutes cs = .ok (m, rest) ↔ m < 60 ∧ cs = padded 2 m ++ rest := by
  constructor
  · intro h
    unfold readOffsetMinutes at h
    split at h
    · rename_i a b _
      split at h
      · rename_i hdigits
        simp only [Bool.and_eq_true, decide_eq_true_iff] at hdigits
        obtain ⟨⟨hlow, hhigh⟩, hb⟩ := hdigits
        have ha : a.isDigit = true := isDigit_iff.2 ⟨hlow, Nat.le_trans hhigh (by decide)⟩
        obtain ⟨rfl, rfl⟩ := Prod.mk.inj (Except.ok.inj h)
        obtain ⟨-, hpadded⟩ := eq_padded_of_number 2 rfl (by decide)
          (number_eq_ok_iff.2 ⟨by simp [ha, hb], rfl⟩ : number [a, b] = _)
        refine ⟨(value_two_lt_iff ha hb).2 ⟨hlow, hhigh⟩, ?_⟩
        rw [← hpadded]
        rfl
      · split at h <;> cases h
    · cases h
  · rintro ⟨hm, rfl⟩
    obtain ⟨a, b, hpadded, hnumber⟩ := exists_padded_two (show m < 100 by omega)
    obtain ⟨hdigits, rfl⟩ := number_eq_ok_iff.1 hnumber
    have ha : a.isDigit = true := hdigits a (by simp)
    have hb : b.isDigit = true := hdigits b (by simp)
    obtain ⟨hlow, hhigh⟩ := (value_two_lt_iff ha hb).1 hm
    rw [hpadded, List.cons_append, List.cons_append, List.nil_append, readOffsetMinutes, if_pos]
    simp [hlow, hhigh, hb]

private theorem readOffsetBody_eq_ok_iff {cs rest : List Char} {m : Nat} :
    readOffsetBody cs = .ok (m, rest) ↔
      ∃ hour minute, hour < 100 ∧ minute < 60 ∧ m = hour * 60 + minute ∧
        cs = padded 2 hour ++ ':' :: padded 2 minute ++ rest := by
  constructor
  · intro h
    unfold readOffsetBody at h
    split at h
    · rename_i a b _
      split at h
      · rename_i hdigits
        rw [Bool.and_eq_true] at hdigits
        split at h
        · cases h
        · obtain ⟨⟨minute, rest⟩, hminutes, h⟩ := Except.map_eq_ok_iff.1 h
          obtain ⟨rfl, rfl⟩ := Prod.mk.inj h
          obtain ⟨hminute, rfl⟩ := readOffsetMinutes_eq_ok_iff.1 hminutes
          obtain ⟨hhour, hpadded⟩ := eq_padded_of_number 2 rfl (by decide)
            (number_eq_ok_iff.2 ⟨by simpa using hdigits, rfl⟩ : number [a, b] = _)
          refine ⟨_, minute, hhour, hminute, rfl, ?_⟩
          rw [← hpadded]
          rfl
        · cases h
      · cases h
    · cases h
  · rintro ⟨hour, minute, hhour, hminute, rfl, rfl⟩
    obtain ⟨a, b, hpadded, hnumber⟩ := exists_padded_two hhour
    obtain ⟨hdigits, rfl⟩ := number_eq_ok_iff.1 hnumber
    have hminutes : readOffsetMinutes (padded 2 minute ++ rest) = .ok (minute, rest) :=
      readOffsetMinutes_eq_ok_iff.2 ⟨hminute, rfl⟩
    have hdigits : (a.isDigit && b.isDigit) = true := by simpa using hdigits
    rw [hpadded]
    simp only [List.cons_append, List.nil_append, readOffsetBody, hdigits, if_true, hminutes]
    rfl

theorem readOffset_eq_ok_iff {cs : List Char} {offset : Int} :
    readOffset cs = .ok (offset, []) ∧ offset.natAbs < 24 * 60 ↔ TellsZone cs offset := by
  constructor
  · rintro ⟨h, hday⟩
    unfold readOffset at h
    split at h
    · cases h
    · rename_i c rest
      split at h
      · rename_i hc
        obtain ⟨rfl, rfl⟩ := Prod.mk.inj (Except.ok.inj h)
        exact .utc (by simpa using hc)
      · split at h
        · rename_i hc
          obtain ⟨⟨m, rest'⟩, hbody, h⟩ := Except.map_eq_ok_iff.1 h
          obtain ⟨rfl, rfl⟩ := Prod.mk.inj h
          obtain ⟨hour, minute, -, hminute, rfl, rfl⟩ := readOffsetBody_eq_ok_iff.1 hbody
          rw [List.append_nil, eq_of_beq hc]
          exact .ahead (by omega) hminute
        · split at h
          · rename_i hc
            obtain ⟨⟨m, rest'⟩, hbody, h⟩ := Except.map_eq_ok_iff.1 h
            obtain ⟨rfl, rfl⟩ := Prod.mk.inj h
            obtain ⟨hour, minute, -, hminute, rfl, rfl⟩ := readOffsetBody_eq_ok_iff.1 hbody
            rw [List.append_nil]
            exact .behind (by simpa using hc) (by omega) hminute
          · cases h
  · have hbody : ∀ hour minute, hour < 24 → minute < 60 →
        readOffsetBody (padded 2 hour ++ ':' :: padded 2 minute) = .ok (hour * 60 + minute, []) :=
      fun hour minute hhour hminute =>
        readOffsetBody_eq_ok_iff.2 ⟨hour, minute, by omega, hminute, rfl, (List.append_nil _).symm⟩
    intro h
    cases h with
    | utc h => exact ⟨by rcases h with rfl | rfl <;> rfl, by decide⟩
    | ahead hhour hminute => exact ⟨by simp [readOffset, hbody _ _ hhour hminute, Except.map], by omega⟩
    | behind hsign hhour hminute =>
      rcases hsign with rfl | rfl <;>
        exact ⟨by simp [readOffset, hbody _ _ hhour hminute, Except.map], by omega⟩

/-! ### Times -/

/-- A text is read as the instant of the date, the time of day and the zone that it gives. -/
theorem read_eq_ok_iff_tells {cs : List Char} {t : Instant} : read cs = .ok t ↔ ∃ f, Tells cs f ∧ f.instant = t := by
  constructor
  · intro h
    obtain ⟨-, f, clock, rest, zone, hdate, hclock, hfraction, hrange, hoffset, hday, ht⟩ := read_eq_ok_iff.1 h
    obtain ⟨hvalid, hyear, rfl⟩ := readDate_eq_ok_iff.1 hdate
    obtain ⟨mark, hmark, -, -, -, rfl⟩ := readClock_eq_ok_iff.1 hclock
    obtain ⟨fraction, hpoint, rfl⟩ := exists_tellsFraction hfraction
    exact ⟨f, .intro hvalid hyear hmark (by omega) (by omega) (by omega) hpoint
      (readOffset_eq_ok_iff.1 ⟨hoffset, hday⟩), ht⟩
  · rintro ⟨f, ⟨hvalid, hyear, hmark, hhour, hminute, hsecond, hfraction, hzone⟩, ht⟩
    obtain ⟨hoffset, hday⟩ := readOffset_eq_ok_iff.2 hzone
    have hclock := readClock_append hmark (show f.hour < 100 by omega) (show f.minute < 100 by omega)
      (show f.second < 100 by omega)
    have hrange : ¬ (23 < f.hour ∨ 59 < f.minute ∨ 60 < f.second) := by omega
    exact read_eq_ok_iff.2 ⟨not_byteLength_lt _ _ _ _ _ _, f, _, _, _, readDate_printDate hvalid hyear _, hclock _,
      hfraction.readFraction_append hzone, hrange, hoffset, hday, ht⟩

theorem Tells.instant_eq {cs : List Char} {f g : Fields} (hf : Tells cs f) (hg : Tells cs g) : f.instant = g.instant :=
  Except.ok.inj ((read_eq_ok_iff_tells.2 ⟨f, hf, rfl⟩).symm.trans (read_eq_ok_iff_tells.2 ⟨g, hg, rfl⟩))

theorem exists_read_eq_ok_iff {cs : List Char} : (∃ t, read cs = .ok t) ↔ IsTime cs := by
  constructor
  · rintro ⟨t, h⟩
    obtain ⟨f, hf, -⟩ := read_eq_ok_iff_tells.1 h
    exact ⟨f, hf⟩
  · rintro ⟨f, hf⟩
    exact ⟨f.instant, read_eq_ok_iff_tells.2 ⟨f, hf, rfl⟩⟩

end FluxQuery.Rfc3339
