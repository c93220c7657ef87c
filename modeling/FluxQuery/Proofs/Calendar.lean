import FluxQuery.Time.Date

/-!
# Days and dates

Every day has a date that the calendar has (`isValid_ofDay`), and the day of that date is the day again (`toDay_ofDay`).
A day is taken apart into an era of four hundred years, a century, four years, one year, and a rest below 366. A rest of
365 is the leap day, which comes only at the end of the fourth year, and at the end of a century only in the last one.
-/

namespace FluxQuery.Date

/-- The date of day `rest` of a year that is counted from March. -/
private def ofYearDay (year : Int) (rest : Nat) : Date :=
  let m := (5 * rest + 2) / 153
  let day := rest - daysBefore m + 1
  if m < 10 then ⟨year, m + 3, day⟩ else ⟨year + 1, m - 9, day⟩

private theorem exists_ofDay_eq (n : Int) :
    ∃ (era : Int) (century olympiad single rest : Nat),
      century ≤ 3 ∧ olympiad ≤ 24 ∧ single ≤ 3 ∧ rest ≤ 365 ∧
      (rest = 365 → single = 3 ∧ (olympiad = 24 → century = 3)) ∧
      n = era * 146097 + century * 36524 + olympiad * 1461 + single * 365 + rest + epoch ∧
      ofDay n = ofYearDay (era * 400 + century * 100 + olympiad * 4 + single) rest := by
  obtain ⟨era, hera⟩ : ∃ era : Int, era = (n - epoch) / 146097 := ⟨_, rfl⟩
  obtain ⟨k, hk⟩ : ∃ k : Nat, k = ((n - epoch) % 146097).toNat := ⟨_, rfl⟩
  obtain ⟨century, hcentury⟩ : ∃ c : Nat, c = min (k / 36524) 3 := ⟨_, rfl⟩
  obtain ⟨k₁, hk₁⟩ : ∃ k₁ : Nat, k₁ = k - century * 36524 := ⟨_, rfl⟩
  obtain ⟨olympiad, holympiad⟩ : ∃ o : Nat, o = k₁ / 1461 := ⟨_, rfl⟩
  obtain ⟨k₂, hk₂⟩ : ∃ k₂ : Nat, k₂ = k₁ - olympiad * 1461 := ⟨_, rfl⟩
  obtain ⟨single, hsingle⟩ : ∃ y : Nat, y = min (k₂ / 365) 3 := ⟨_, rfl⟩
  obtain ⟨rest, hrest⟩ : ∃ r : Nat, r = k₂ - single * 365 := ⟨_, rfl⟩
  have h₀ : k < 146097 ∧ n - epoch = era * 146097 + k := by omega
  have h₁ : century ≤ 3 ∧ k₁ ≤ 36524 ∧ (k₁ = 36524 → century = 3) ∧ k = century * 36524 + k₁ := by omega
  have h₂ : olympiad ≤ 24 ∧ k₂ ≤ 1460 ∧ k₁ = olympiad * 1461 + k₂ := by omega
  have h₃ : single ≤ 3 ∧ rest ≤ 365 ∧ (rest = 365 → single = 3) ∧ k₂ = single * 365 + rest := by omega
  refine ⟨era, century, olympiad, single, rest, h₁.1, h₂.1, h₃.1, h₃.2.1, ?_, by omega, ?_⟩
  · intro h
    refine ⟨h₃.2.2.1 h, fun ho => h₁.2.2.1 ?_⟩
    omega
  · subst hrest hsingle hk₂ holympiad hk₁ hcentury hk hera
    rfl

/-- Where a day stands in its month. -/
private theorem daysBefore_month {rest : Nat} (h : rest ≤ 365) :
    (5 * rest + 2) / 153 ≤ 11 ∧ daysBefore ((5 * rest + 2) / 153) ≤ rest ∧
      rest < daysBefore ((5 * rest + 2) / 153 + 1) := by
  unfold daysBefore
  omega

private theorem toDay_ofYearDay (year : Int) {rest : Nat} (h : rest ≤ 365) :
    (ofYearDay year rest).toDay = 365 * year + year / 4 - year / 100 + year / 400 + rest + epoch := by
  obtain ⟨hm, hle, -⟩ := daysBefore_month h
  unfold ofYearDay toDay
  generalize (5 * rest + 2) / 153 = m at hm hle ⊢
  by_cases h10 : m < 10
  · simp only [if_pos h10, show ¬ m + 3 ≤ 2 by omega, if_false, Nat.add_sub_cancel]
    omega
  · simp only [if_neg h10, show m - 9 ≤ 2 by omega, if_true, show m - 9 + 9 = m by omega, Int.add_sub_cancel,
      Nat.add_sub_cancel]
    omega

theorem toDay_ofDay (n : Int) : (ofDay n).toDay = n := by
  obtain ⟨era, century, olympiad, single, rest, hc, ho, hs, hr, -, hn, heq⟩ := exists_ofDay_eq n
  rw [heq, toDay_ofYearDay _ hr]
  omega

/-- From March to January, a month has the days that lie before the next one. -/
private theorem daysInMonth_eq (year : Int) {m : Nat} (h : m ≤ 10) :
    daysInMonth year (if m < 10 then m + 3 else m - 9) = daysBefore (m + 1) - daysBefore m := by
  have hm : m = 0 ∨ m = 1 ∨ m = 2 ∨ m = 3 ∨ m = 4 ∨ m = 5 ∨ m = 6 ∨ m = 7 ∨ m = 8 ∨ m = 9 ∨ m = 10 := by omega
  rcases hm with rfl | rfl | rfl | rfl | rfl | rfl | rfl | rfl | rfl | rfl | rfl <;> rfl

private theorem isValid_ofYearDay {year : Int} {rest : Nat} (h : rest ≤ 365)
    (hleap : rest = 365 → isLeapYear (year + 1) = true) : (ofYearDay year rest).IsValid := by
  obtain ⟨hm, hle, hlt⟩ := daysBefore_month h
  unfold ofYearDay
  generalize (5 * rest + 2) / 153 = m at hm hle hlt ⊢
  by_cases h11 : m = 11
  · -- only February depends on the year
    subst h11
    have hbefore : daysBefore 11 = 337 := rfl
    change (Date.mk (year + 1) 2 (rest - daysBefore 11 + 1)).IsValid
    refine ⟨by simp, by simp, by simp, ?_⟩
    change rest - daysBefore 11 + 1 ≤ if isLeapYear (year + 1) then 29 else 28
    by_cases hy : isLeapYear (year + 1) = true
    · rw [if_pos hy]
      omega
    · have hne : rest ≠ 365 := fun heq => hy (hleap heq)
      rw [if_neg hy]
      omega
  · have hdays := fun y => daysInMonth_eq y (show m ≤ 10 by omega)
    by_cases h10 : m < 10
    · simp only [if_pos h10] at hdays ⊢
      exact ⟨by simp, by simp; omega, by simp, by simp only [hdays]; omega⟩
    · simp only [if_neg h10] at hdays ⊢
      exact ⟨by simp; omega, by simp; omega, by simp, by simp only [hdays]; omega⟩

theorem isValid_ofDay (n : Int) : (ofDay n).IsValid := by
  obtain ⟨era, century, olympiad, single, rest, hc, ho, hs, hr, hleap, -, heq⟩ := exists_ofDay_eq n
  rw [heq]
  apply isValid_ofYearDay hr
  intro h
  obtain ⟨rfl, hcentury⟩ := hleap h
  simp only [isLeapYear, Bool.and_eq_true, Bool.or_eq_true, beq_iff_eq, bne_iff_ne]
  omega

end FluxQuery.Date
