import FluxQuery.Proofs.Basic
import FluxQuery.Proofs.Calendar
import FluxQuery.Proofs.Case
import FluxQuery.Time.Rfc3339

/-!
# Instants through text

What is printed of an instant is read back as the same instant, whatever the precision asked for keeps, as long as its
year has four digits (`read_print`). Any other year is printed with a sign, and no text that begins with one is read
(`read_print_of_year`). A leap second is printed as second 60 of its minute and comes back as what it was. The readers
of the parts are told exactly (`readDate_eq_ok_iff`, `readClock_eq_ok_iff`), and so is how a text is read part by part
(`read_eq_ok_iff`).
-/

namespace FluxQuery

/-! ### Runs of digits -/

namespace Digits

theorem isDigit_of_mem_ofNat {n : Nat} {c : Char} (h : c ∈ ofNat n) : c.isDigit = true :=
  Nat.isDigit_of_mem_toDigits (by decide) (by decide) h

theorem isDigit_of_mem_padded {width n : Nat} {c : Char} (h : c ∈ padded width n) : c.isDigit = true := by
  rcases List.mem_append.1 h with h | h
  · rw [List.eq_of_mem_replicate h]
    rfl
  · exact isDigit_of_mem_ofNat h

theorem length_ofNat_le {width n : Nat} (hwidth : 0 < width) (h : n < Nat.pow 10 width) : (ofNat n).length ≤ width :=
  (Nat.length_toDigits_le_iff (by decide) hwidth).2 h

theorem length_padded {width n : Nat} (h : (ofNat n).length ≤ width) : (padded width n).length = width := by
  rw [padded, List.length_append, List.length_replicate]
  omega

theorem le_length_padded (width n : Nat) : width ≤ (padded width n).length := by
  rw [padded, List.length_append, List.length_replicate]
  omega

theorem value_padded (width n : Nat) : value (padded width n) = n := by
  rw [value, padded, Nat.ofDigitChars_append, Nat.ofDigitChars_replicate_zero, Nat.mul_zero]
  exact value_ofNat n

theorem value_lt_pow {cs : List Char} (h : ∀ c ∈ cs, c.isDigit = true) : value cs < Nat.pow 10 cs.length := by
  -- what is read before `cs` counts for one more than itself
  have key : ∀ (cs : List Char) (init : Nat), (∀ c ∈ cs, c.isDigit = true) →
      Nat.ofDigitChars 10 cs init + 1 ≤ (init + 1) * 10 ^ cs.length := by
    intro cs
    induction cs with
    | nil => simp
    | cons c cs ih =>
      intro init h
      have hc : c.toNat ≤ 57 := (isDigit_iff.1 (h c (by simp))).2
      have hrest := ih (10 * init + (c.toNat - '0'.toNat)) fun d hd => h d (by simp [hd])
      have hzero : '0'.toNat = 48 := rfl
      have hle : 10 * init + (c.toNat - '0'.toNat) + 1 ≤ (init + 1) * 10 := by omega
      rw [Nat.ofDigitChars_cons, List.length_cons, Nat.pow_succ']
      calc _ ≤ _ := hrest
        _ ≤ (init + 1) * 10 * 10 ^ cs.length := Nat.mul_le_mul_right _ hle
        _ = _ := Nat.mul_assoc _ _ _
  have := key cs 0 h
  rw [Nat.zero_add, Nat.one_mul] at this
  exact this

theorem value_cons (c : Char) (cs : List Char) :
    value (c :: cs) = Nat.pow 10 cs.length * (c.toNat - '0'.toNat) + value cs := by
  rw [value, Nat.ofDigitChars_cons, Nat.ofDigitChars_eq_ofDigitChars_zero, Nat.mul_zero, Nat.zero_add]
  rfl

/-- Runs of one length are told apart by their values. -/
theorem eq_of_value_eq {cs ds : List Char} (hcs : ∀ c ∈ cs, c.isDigit = true) (hds : ∀ d ∈ ds, d.isDigit = true)
    (hlength : cs.length = ds.length) (h : value cs = value ds) : cs = ds := by
  induction cs generalizing ds with
  | nil => exact (List.length_eq_zero_iff.1 hlength.symm).symm
  | cons c cs ih =>
    cases ds with
    | nil => exact absurd hlength (by simp)
    | cons d ds =>
      obtain ⟨hc, hcs⟩ := List.forall_mem_cons.1 hcs
      obtain ⟨hd, hds⟩ := List.forall_mem_cons.1 hds
      have hlength : cs.length = ds.length := Nat.succ.inj hlength
      have hcslt := value_lt_pow hcs
      have hdslt := value_lt_pow hds
      rw [value_cons, value_cons, hlength] at h
      rw [hlength] at hcslt
      have hfirst : c.toNat - '0'.toNat = d.toNat - '0'.toNat := by
        have hdiv := congrArg (· / Nat.pow 10 ds.length) h
        have hpos : 0 < Nat.pow 10 ds.length := Nat.pow_pos (by decide)
        rwa [Nat.mul_add_div hpos, Nat.mul_add_div hpos, Nat.div_eq_of_lt hcslt, Nat.div_eq_of_lt hdslt,
          Nat.add_zero, Nat.add_zero] at hdiv
      rw [hfirst, Nat.add_left_cancel_iff] at h
      have hzero : '0'.toNat = 48 := rfl
      have hchar : c = d := by
        rw [isDigit_iff] at hc hd
        exact Char.toNat_inj.1 (by omega)
      rw [hchar, ih hcs hds hlength h]

theorem padded_value {cs : List Char} (hne : cs ≠ []) (h : ∀ c ∈ cs, c.isDigit = true) :
    padded cs.length (value cs) = cs :=
  eq_of_value_eq (fun _ => isDigit_of_mem_padded) h
    (length_padded (length_ofNat_le (List.length_pos_iff.2 hne) (value_lt_pow h))) (value_padded _ _)

theorem eq_nil_of_ofNat_eq {n : Nat} {more : List Char} (h : ofNat n = '0' :: more) : more = [] := by
  by_contra hmore
  have hpos : 0 < more.length := List.length_pos_iff.2 hmore
  have hvalue : value more = n := by
    calc value more = value ('0' :: more) := by rw [value, value, Nat.ofDigitChars_cons]; rfl
      _ = n := by rw [← h, value_ofNat]
  have hdigits : ∀ c ∈ more, c.isDigit = true := fun c hc =>
    isDigit_of_mem_ofNat (h ▸ List.mem_cons_of_mem _ hc)
  have hlength := length_ofNat_le hpos (hvalue ▸ value_lt_pow hdigits)
  rw [h, List.length_cons] at hlength
  omega

end Digits

namespace Rfc3339

open Digits

theorem number_eq_ok_iff {cs : List Char} {n : Nat} :
    number cs = .ok n ↔ (∀ c ∈ cs, c.isDigit = true) ∧ value cs = n := by
  unfold number
  split
  · rename_i hdigits
    exact ⟨fun h => ⟨List.all_eq_true.1 hdigits, Except.ok.inj h⟩, fun h => congrArg Except.ok h.2⟩
  · rename_i hdigits
    exact ⟨nofun, fun h => absurd (List.all_eq_true.2 h.1) hdigits⟩

theorem number_padded (width n : Nat) : number (padded width n) = .ok n :=
  number_eq_ok_iff.2 ⟨fun _ => isDigit_of_mem_padded, value_padded width n⟩

theorem eq_padded_of_number {cs : List Char} {n : Nat} (width : Nat) (hlength : cs.length = width) (hpos : 0 < width)
    (h : number cs = .ok n) : n < Nat.pow 10 width ∧ cs = padded width n := by
  subst hlength
  obtain ⟨hdigits, rfl⟩ := number_eq_ok_iff.1 h
  exact ⟨value_lt_pow hdigits, (padded_value (List.length_pos_iff.1 hpos) hdigits).symm⟩

theorem exists_padded_two {n : Nat} (h : n < 100) : ∃ a b, padded 2 n = [a, b] ∧ number [a, b] = .ok n := by
  have hlength : (padded 2 n).length = 2 := length_padded (length_ofNat_le (by decide) h)
  match hpadded : padded 2 n, hlength with
  | [a, b], _ => exact ⟨a, b, rfl, hpadded ▸ number_padded 2 n⟩

private theorem exists_padded_four {n : Nat} (h : n < 10000) :
    ∃ a b c d, padded 4 n = [a, b, c, d] ∧ number [a, b, c, d] = .ok n := by
  have hlength : (padded 4 n).length = 4 := length_padded (length_ofNat_le (by decide) h)
  match hpadded : padded 4 n, hlength with
  | [a, b, c, d], _ => exact ⟨a, b, c, d, rfl, hpadded ▸ number_padded 4 n⟩

/-! ### Dates -/

theorem daysInMonth_le (year : Int) (month : Nat) : Date.daysInMonth year month ≤ 31 := by
  unfold Date.daysInMonth
  split <;> split <;> omega

theorem readDate_printDate {d : Date} (hd : d.IsValid) (hy : 0 ≤ d.year ∧ d.year ≤ 9999) (rest : List Char) :
    readDate (printDate d ++ rest) = .ok (d, rest) := by
  obtain ⟨-, hmonth, -, hday⟩ := id hd
  have hdays := daysInMonth_le d.year d.month
  have hyear : ((d.year.toNat : Nat) : Int) = d.year := Int.toNat_of_nonneg hy.1
  have hrange : d.year.toNat < 10000 := by
    have := hy.2
    omega
  obtain ⟨y₁, y₂, y₃, y₄, hy', hny⟩ := exists_padded_four hrange
  obtain ⟨m₁, m₂, hm', hnm⟩ := exists_padded_two (show d.month < 100 by omega)
  obtain ⟨d₁, d₂, hd', hnd⟩ := exists_padded_two (show d.day < 100 by omega)
  have hprint : printDate d = [y₁, y₂, y₃, y₄, '-', m₁, m₂, '-', d₁, d₂] := by
    rw [printDate, printYear, if_pos hy, hy', hm', hd']
    rfl
  rw [hprint]
  simp only [List.cons_append, List.nil_append, readDate, hny, hnm, hnd]
  simp only [bind, Except.bind, hyear, if_pos hd]
  rfl

theorem readDate_eq_ok_iff {cs rest : List Char} {d : Date} :
    readDate cs = .ok (d, rest) ↔ d.IsValid ∧ (0 ≤ d.year ∧ d.year ≤ 9999) ∧ cs = printDate d ++ rest := by
  constructor
  · intro h
    unfold readDate at h
    split at h
    · obtain ⟨year, hyear, h⟩ := Except.bind_eq_ok_iff.1 h
      obtain ⟨month, hmonth, h⟩ := Except.bind_eq_ok_iff.1 h
      obtain ⟨day, hday, h⟩ := Except.bind_eq_ok_iff.1 h
      dsimp only at h
      split at h
      · rename_i hvalid
        obtain ⟨rfl, rfl⟩ := Prod.mk.inj (Except.ok.inj h)
        obtain ⟨hlt, hyear⟩ := eq_padded_of_number 4 rfl (by decide) hyear
        obtain ⟨-, hmonth⟩ := eq_padded_of_number 2 rfl (by decide) hmonth
        obtain ⟨-, hday⟩ := eq_padded_of_number 2 rfl (by decide) hday
        have hpow : Nat.pow 10 4 = 10000 := rfl
        have hrange : 0 ≤ (year : Int) ∧ (year : Int) ≤ 9999 := by omega
        refine ⟨hvalid, hrange, ?_⟩
        rw [printDate, printYear, if_pos hrange, Int.toNat_natCast, ← hyear, ← hmonth, ← hday]
        rfl
      · cases h
    · cases h
  · rintro ⟨hvalid, hyear, rfl⟩
    exact readDate_printDate hvalid hyear rest

/-- A date that begins with a sign is not read: where the dash should be stands a digit of the year. -/
theorem readDate_printDate_of_year {d : Date} (hy : ¬ (0 ≤ d.year ∧ d.year ≤ 9999)) (rest : List Char) :
    readDate (printDate d ++ rest) = .error .invalid := by
  obtain ⟨sign, hprint⟩ : ∃ sign, printYear d.year = sign :: padded 4 d.year.natAbs := by
    rw [printYear, if_neg hy]
    exact ⟨_, rfl⟩
  have hlength := le_length_padded 4 d.year.natAbs
  rw [printDate, hprint]
  match hpadded : padded 4 d.year.natAbs, hlength with
  | a :: b :: c :: x :: more, _ =>
    have hx : x ≠ '-' := by
      rintro rfl
      have : '-' ∈ padded 4 d.year.natAbs := by rw [hpadded]; simp
      exact absurd (isDigit_of_mem_padded this) (by decide)
    simp only [List.cons_append, List.append_assoc]
    unfold readDate
    split
    · rename_i heq
      simp only [List.cons.injEq] at heq
      exact absurd heq.2.2.2.2.1 hx
    · rfl

/-! ### Times of day -/

theorem readClock_append {mark : Char} {hour minute second : Nat} (hmark : mark = 'T' ∨ mark = 't' ∨ mark = ' ')
    (hh : hour < 100) (hm : minute < 100) (hs : second < 100) (rest : List Char) :
    readClock (mark :: padded 2 hour ++ ':' :: padded 2 minute ++ ':' :: padded 2 second ++ rest) =
      .ok ((hour, minute, second), rest) := by
  obtain ⟨h₁, h₂, hh', hnh⟩ := exists_padded_two hh
  obtain ⟨m₁, m₂, hm', hnm⟩ := exists_padded_two hm
  obtain ⟨s₁, s₂, hs', hns⟩ := exists_padded_two hs
  have hmark : (mark != 'T' && mark != 't' && mark != ' ') = false := by
    rcases hmark with rfl | rfl | rfl <;> rfl
  rw [hh', hm', hs']
  simp only [List.cons_append, List.nil_append, readClock, hmark, hnh, hnm, hns]
  rfl

theorem readClock_eq_ok_iff {cs rest : List Char} {hour minute second : Nat} :
    readClock cs = .ok ((hour, minute, second), rest) ↔
      ∃ mark, (mark = 'T' ∨ mark = 't' ∨ mark = ' ') ∧ hour < 100 ∧ minute < 100 ∧ second < 100 ∧
        cs = mark :: padded 2 hour ++ ':' :: padded 2 minute ++ ':' :: padded 2 second ++ rest := by
  constructor
  · intro h
    unfold readClock at h
    split at h
    · rename_i mark _ _ _ _ _ _ _
      split at h
      · cases h
      · rename_i hmark
        obtain ⟨hour', hhour, h⟩ := Except.bind_eq_ok_iff.1 h
        obtain ⟨minute', hminute, h⟩ := Except.bind_eq_ok_iff.1 h
        obtain ⟨second', hsecond, h⟩ := Except.bind_eq_ok_iff.1 h
        cases h
        obtain ⟨hhour, hhour'⟩ := eq_padded_of_number 2 rfl (by decide) hhour
        obtain ⟨hminute, hminute'⟩ := eq_padded_of_number 2 rfl (by decide) hminute
        obtain ⟨hsecond, hsecond'⟩ := eq_padded_of_number 2 rfl (by decide) hsecond
        refine ⟨mark, by grind, hhour, hminute, hsecond, ?_⟩
        rw [← hhour', ← hminute', ← hsecond']
        rfl
    · cases h
  · rintro ⟨mark, hmark, hhour, hminute, hsecond, rfl⟩
    exact readClock_append hmark hhour hminute hsecond rest

private theorem takeWhile_padded (width n : Nat) :
    (padded width n ++ ['Z']).takeWhile Char.isDigit = padded width n ∧
      (padded width n ++ ['Z']).dropWhile Char.isDigit = ['Z'] := by
  have h : ∀ c ∈ padded width n, c.isDigit = true := fun c hc => isDigit_of_mem_padded hc
  rw [List.takeWhile_append_of_pos h, List.dropWhile_append_of_pos h]
  exact ⟨List.append_nil _, rfl⟩

/-- A fraction of `width` digits. -/
private theorem readFraction_padded {width n : Nat} (hpos : 0 < width) (hnine : width ≤ 9)
    (hn : n < Nat.pow 10 width) :
    readFraction ('.' :: padded width n ++ ['Z']) = .ok (n * Nat.pow 10 (9 - width), ['Z']) := by
  have hlength : (padded width n).length = width := length_padded (length_ofNat_le hpos hn)
  obtain ⟨htake, hdrop⟩ := takeWhile_padded width n
  have htake9 : (padded width n).take 9 = padded width n := List.take_of_length_le (by omega)
  rw [List.cons_append, readFraction]
  split
  · rename_i heq
    rw [htake] at heq
    rw [heq] at hlength
    exact absurd hlength (by simp; omega)
  · simp only [htake, hdrop, htake9, hlength, value_padded]

theorem readFraction_printFraction (precision : Precision) {n : Nat} (hn : n < Instant.second) :
    readFraction (printFraction precision n ++ ['Z']) = .ok (n, ['Z']) := by
  have hn : n < 1000000000 := hn
  have hnine : readFraction ('.' :: padded 9 n ++ ['Z']) = .ok (n, ['Z']) := by
    rw [readFraction_padded (by decide) (by decide) hn]
    simp
  cases precision with
  | nanos => exact hnine
  | fewest =>
    -- digits that are left out at the end are zeros
    rw [printFraction]
    split
    · rename_i h
      rw [eq_of_beq h]
      rfl
    · split
      · rename_i h
        have hm : n / 1000000 * 1000000 = n := Nat.div_mul_cancel (Nat.dvd_of_mod_eq_zero (eq_of_beq h))
        rw [readFraction_padded (by decide) (by decide) (show n / 1000000 < 1000 by omega)]
        exact congrArg (fun k => Except.ok (k, ['Z'])) hm
      · split
        · rename_i h
          have hm : n / 1000 * 1000 = n := Nat.div_mul_cancel (Nat.dvd_of_mod_eq_zero (eq_of_beq h))
          rw [readFraction_padded (by decide) (by decide) (show n / 1000 < 1000000 by omega)]
          exact congrArg (fun k => Except.ok (k, ['Z'])) hm
        · exact hnine

/-! ### Instants -/

private theorem print_eq (precision : Precision) (t : Instant) :
    print precision t = printDate t.date ++ ('T' :: padded 2 (t.secondOfDay / 3600) ++
      ':' :: padded 2 (t.secondOfDay / 60 % 60) ++ ':' :: padded 2 (t.secondOfDay % 60 + t.nanos / Instant.second) ++
      (printFraction precision (t.nanos % Instant.second) ++ ['Z'])) := by
  simp [print, printTime]

private theorem length_le_byteLength (cs : List Char) : cs.length ≤ Utf8.byteLength cs := by
  induction cs with
  | nil => exact Nat.le_refl 0
  | cons c rest ih =>
    have hsize := c.utf8Size_pos
    change rest.length + 1 ≤ c.utf8Size + Utf8.byteLength rest
    omega

/-- A date and a time of day are long enough to be read. -/
theorem not_byteLength_lt (date : Date) (mark : Char) (hour minute second : Nat) (rest : List Char) :
    ¬ Utf8.byteLength (printDate date ++ (mark :: padded 2 hour ++ ':' :: padded 2 minute ++
      ':' :: padded 2 second ++ rest)) < 19 := by
  have hyear : 4 ≤ (printYear date.year).length := by
    unfold printYear
    split
    · exact le_length_padded 4 _
    · exact Nat.le_succ_of_le (le_length_padded 4 _)
  have hmonth := le_length_padded 2 date.month
  have hday := le_length_padded 2 date.day
  have hhour := le_length_padded 2 hour
  have hminute := le_length_padded 2 minute
  have hsecond := le_length_padded 2 second
  refine Nat.not_lt.2 (Nat.le_trans ?_ (length_le_byteLength _))
  simp only [printDate, List.length_append, List.length_cons]
  omega

/-- What a text gives: a date, a time of day and the minutes by which it is ahead of UTC. -/
structure Fields where
  date : Date
  hour : Nat
  minute : Nat
  second : Nat
  nanos : Nat
  offset : Int

def Fields.instant (f : Fields) : Instant :=
  ⟨f.date.toDay * 86400 + f.hour * 3600 + f.minute * 60 + min f.second 59 - f.offset * 60,
    if f.second = 60 then Instant.second + f.nanos else f.nanos⟩

/-- The parts of a text are read one after the other, and nothing may be left. -/
theorem read_eq_ok_iff {cs : List Char} {t : Instant} :
    read cs = .ok t ↔ ¬ Utf8.byteLength cs < 19 ∧ ∃ (f : Fields) (clock fraction zone : List Char),
      readDate cs = .ok (f.date, clock) ∧ readClock clock = .ok ((f.hour, f.minute, f.second), fraction) ∧
      readFraction fraction = .ok (f.nanos, zone) ∧ ¬ (23 < f.hour ∨ 59 < f.minute ∨ 60 < f.second) ∧
      readOffset zone = .ok (f.offset, []) ∧ f.offset.natAbs < 24 * 60 ∧ f.instant = t := by
  constructor
  · intro h
    unfold read at h
    split at h
    · cases h
    rename_i hlength
    obtain ⟨⟨date, clock⟩, hdate, h⟩ := Except.bind_eq_ok_iff.1 h
    obtain ⟨⟨⟨hour, minute, second⟩, fraction⟩, hclock, h⟩ := Except.bind_eq_ok_iff.1 h
    obtain ⟨⟨nanos, zone⟩, hfraction, h⟩ := Except.bind_eq_ok_iff.1 h
    dsimp only at h
    split at h
    · cases h
    rename_i hrange
    obtain ⟨⟨offset, rest⟩, hoffset, h⟩ := Except.bind_eq_ok_iff.1 h
    dsimp only at h
    split at h
    · rename_i hrest
      rw [List.isEmpty_iff.1 hrest] at hoffset
      split at h
      · rename_i hday
        exact ⟨hlength, ⟨date, hour, minute, second, nanos, offset⟩, clock, fraction, zone, hdate, hclock, hfraction,
          hrange, hoffset, hday, Except.ok.inj h⟩
      · cases h
    · cases h
  · rintro ⟨hlength, f, clock, fraction, zone, hdate, hclock, hfraction, hrange, hoffset, hday, rfl⟩
    unfold read
    rw [if_neg hlength, hdate]
    simp only [bind, Except.bind, hclock, hfraction, if_neg hrange, hoffset, if_pos hday]
    rfl

/-- Either no leap second has begun, or second 59 goes on as one. -/
private theorem leap_cases {t : Instant} (ht : t.IsValid) :
    (t.nanos / Instant.second = 0 ∧ t.nanos % Instant.second = t.nanos) ∨
      (t.nanos / Instant.second = 1 ∧ Instant.second + t.nanos % Instant.second = t.nanos ∧
        t.secondOfDay % 60 = 59) := by
  obtain ⟨-, -, hnanos, hleap⟩ := ht
  by_cases h : t.nanos < Instant.second
  · exact .inl ⟨Nat.div_eq_of_lt h, Nat.mod_eq_of_lt h⟩
  · have hdiv : t.nanos / Instant.second = 1 := Nat.div_eq_of_lt_le (by omega) (by omega)
    have hsum := Nat.div_add_mod t.nanos Instant.second
    rw [hdiv, Nat.mul_one] at hsum
    have hlast := hleap (Nat.le_of_not_lt h)
    refine .inr ⟨hdiv, hsum, ?_⟩
    unfold Instant.secondOfDay
    omega

theorem read_print (precision : Precision) {t : Instant} (ht : t.IsValid)
    (hy : 0 ≤ t.date.year ∧ t.date.year ≤ 9999) : read (print precision t) = .ok t := by
  have hfraction := readFraction_printFraction precision (Nat.mod_lt t.nanos (show 0 < Instant.second by decide))
  have hleap := leap_cases ht
  have hday : ((t.secondOfDay : Nat) : Int) = t.seconds % 86400 := Int.toNat_of_nonneg (by omega)
  rw [print_eq]
  -- from here on only the second of the day, whether it leaps and its fraction matter
  generalize t.secondOfDay = s at *
  generalize t.nanos / Instant.second = leap at *
  generalize t.nanos % Instant.second = nanos at *
  have hclock := readClock_append (.inl rfl : 'T' = 'T' ∨ _ ∨ _) (show s / 3600 < 100 by omega)
    (show s / 60 % 60 < 100 by omega) (show s % 60 + leap < 100 by omega)
  have hrange : ¬ (23 < s / 3600 ∨ 59 < s / 60 % 60 ∨ 60 < s % 60 + leap) := by omega
  refine read_eq_ok_iff.2 ⟨not_byteLength_lt _ _ _ _ _ _, ⟨t.date, s / 3600, s / 60 % 60, s % 60 + leap, nanos, 0⟩, _,
    _, _, readDate_printDate (Date.isValid_ofDay _) hy _, hclock _, hfraction, hrange, rfl, Nat.zero_lt_succ _, ?_⟩
  have hseconds : t.seconds / 86400 * 86400 + ((s / 3600 : Nat) : Int) * 3600 + ((s / 60 % 60 : Nat) : Int) * 60 +
      ((min (s % 60 + leap) 59 : Nat) : Int) - 0 * 60 = t.seconds := by
    have hmin : min (s % 60 + leap) 59 = s % 60 := by omega
    rw [hmin]
    omega
  have hnanos : (if s % 60 + leap = 60 then Instant.second + nanos else nanos) = t.nanos := by
    split <;> omega
  rw [Fields.instant, Instant.date, Date.toDay_ofDay]
  exact congr (congrArg Instant.mk hseconds) hnanos

theorem read_print_of_year (precision : Precision) {t : Instant}
    (hy : ¬ (0 ≤ t.date.year ∧ t.date.year ≤ 9999)) : read (print precision t) = .error .invalid := by
  rw [print_eq, read, if_neg (not_byteLength_lt _ _ _ _ _ _), readDate_printDate_of_year hy]
  rfl

/-! ### Characters of an instant -/

private theorem isDigit_or_mem_printYear {year : Int} {c : Char} (h : c ∈ printYear year) :
    c.isDigit = true ∨ c = '-' ∨ c = '+' := by
  unfold printYear at h
  split at h
  · exact .inl (isDigit_of_mem_padded h)
  · rcases List.mem_cons.1 h with rfl | h
    · split
      · exact .inr (.inl rfl)
      · exact .inr (.inr rfl)
    · exact .inl (isDigit_of_mem_padded h)

private theorem isDigit_or_mem_printFraction {precision : Precision} {n : Nat} {c : Char}
    (h : c ∈ printFraction precision n) : c.isDigit = true ∨ c = '.' := by
  have hpoint : ∀ width m, c ∈ '.' :: padded width m → c.isDigit = true ∨ c = '.' := fun _ _ h =>
    (List.mem_cons.1 h).symm.imp_left isDigit_of_mem_padded
  unfold printFraction at h
  split at h
  · exact hpoint _ _ h
  · split at h
    · cases h
    · split at h
      · exact hpoint _ _ h
      · split at h
        · exact hpoint _ _ h
        · exact hpoint _ _ h

theorem isDigit_or_mem_of_mem_print {precision : Precision} {t : Instant} {c : Char} (h : c ∈ print precision t) :
    c.isDigit = true ∨ c ∈ ['-', '+', 'T', ':', '.', 'Z'] := by
  have hpadded : ∀ {n}, c ∈ padded 2 n → c.isDigit = true := isDigit_of_mem_padded
  have hyear : c ∈ printYear t.date.year → c.isDigit = true ∨ c = '-' ∨ c = '+' := isDigit_or_mem_printYear
  have hfraction : c ∈ printFraction precision (t.nanos % Instant.second) → c.isDigit = true ∨ c = '.' :=
    isDigit_or_mem_printFraction
  rw [print_eq] at h
  simp only [printDate, List.mem_append, List.mem_cons, List.not_mem_nil, or_false] at h ⊢
  grind

end Rfc3339

end FluxQuery
