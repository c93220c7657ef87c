import FluxQuery.Proofs.Timestamps
import FluxQuery.Time.Span
import Mathlib.Data.List.SplitBy

/-!
# Literals of spans

What a literal such as `1h30m` stands for, said without writing one: `Span.read?` cuts a text into runs of digits and
runs of letters, so that `m` and `ms` are told apart, and adds up the counts times their units. The literal of a span is
read as the span, however long it is (`read?_flux`): taking as much of each unit as there is loses nothing but the rest
that the last unit leaves, and that is none.

The literal is also the only one of its form (`IsCanonical`). Each unit is made up of a whole number of the next shorter
one, so counts that stay below that number add up to less than one unit (`sum_lt`), and a sum can be taken apart in one
way only (`parts_sum`).
-/

namespace FluxQuery.Span

/-! ### Literals -/

/-- The nanoseconds of a unit. -/
def unitNanos? : List Char → Option Nat
  | ['h'] => some (60 * minute)
  | ['m'] => some minute
  | ['s'] => some Instant.second
  | ['m', 's'] => some 1000000
  | ['u', 's'] => some 1000
  | ['n', 's'] => some 1
  | _ => none

/-- Two digits, or two characters that are none. -/
def sameKind (c d : Char) : Bool := c.isDigit == d.isDigit

/-- What runs of counts and units in turn add up to. -/
def total? : List (List Char) → Option Nat
  | [] => some 0
  | [_] => none
  | count :: unit :: runs =>
    if count.all Char.isDigit then do return Digits.value count * (← unitNanos? unit) + (← total? runs) else none

/-- The nanoseconds that a literal stands for. -/
def read? (literal : String) : Option Nat :=
  if literal = "" then none else total? (literal.toList.splitBy sameKind)

private theorem unit_of_unitNanos? {unit : List Char} {size : Nat} (h : unitNanos? unit = some size) :
    unit ≠ [] ∧ ∀ c ∈ unit, c.isDigit = false := by
  have hletters : unit ≠ [] ∧ (unit.all fun c => !c.isDigit) = true := by
    unfold unitNanos? at h
    split at h
    case h_7 => cases h
    all_goals exact ⟨by simp, by decide⟩
  obtain ⟨hne, hall⟩ := hletters
  exact ⟨hne, fun c hc => Bool.not_eq_eq_eq_not.1 (List.all_eq_true.1 hall c hc)⟩

/-! ### The parts of a literal -/

/-- A count of a unit, and the nanoseconds of the unit. -/
structure Part where
  count : Nat
  unit : String
  size : Nat

def Part.text (p : Part) : List Char := Digits.ofNat p.count ++ p.unit.toList

/-- The size is that of the unit. -/
def Part.IsSized (p : Part) : Prop := unitNanos? p.unit.toList = some p.size

/-- The parts that a length is taken apart into, the zeros left out. -/
def parts : List (String × Nat) → Nat → List Part
  | [], _ => []
  | (unit, size) :: units, nanos =>
    if nanos / size = 0 then parts units (nanos % size)
    else ⟨nanos / size, unit, size⟩ :: parts units (nanos % size)

/-- The sum of parts. -/
def sum : List Part → Nat
  | [] => 0
  | p :: ps => p.count * p.size + sum ps

theorem toList_fluxUnits (units : List (String × Nat)) (nanos : Nat) :
    (fluxUnits units nanos).toList = (parts units nanos).flatMap Part.text := by
  fun_induction parts units nanos with
  | case1 => rfl
  | case2 unit size units nanos hzero ih => simp [fluxUnits, hzero, ih]
  | case3 unit size units nanos hcount ih =>
    simp [fluxUnits, hcount, ih, Part.text, Digits.ofNat]

/-- What the parts leave is what the last unit leaves. -/
theorem sum_parts (units : List (String × Nat)) (nanos : Nat) :
    sum (parts units nanos) + units.foldl (fun rest unit => rest % unit.2) nanos = nanos := by
  fun_induction parts units nanos with
  | case1 nanos => exact Nat.zero_add nanos
  | case2 unit size units nanos hzero ih =>
    have hdiv := Nat.div_add_mod nanos size
    rw [hzero, Nat.mul_zero, Nat.zero_add] at hdiv
    rw [List.foldl_cons, ih, hdiv]
  | case3 unit size units nanos hcount ih =>
    have hdiv := Nat.div_add_mod nanos size
    rw [sum, List.foldl_cons, Nat.add_assoc, ih, Nat.mul_comm, hdiv]

theorem sum_parts_units (nanos : Nat) : sum (parts units nanos) = nanos := by
  have hrest : units.foldl (fun rest unit => rest % unit.2) nanos = 0 := Nat.mod_one _
  have hsum := sum_parts units nanos
  rwa [hrest, Nat.add_zero] at hsum

theorem isSized_of_mem_parts {units : List (String × Nat)} (h : ∀ u ∈ units, unitNanos? u.1.toList = some u.2)
    {nanos : Nat} {p : Part} (hp : p ∈ parts units nanos) : p.IsSized := by
  fun_induction parts units nanos with
  | case1 => cases hp
  | case2 unit size units nanos hzero ih => exact ih (fun u hu => h u (by simp [hu])) hp
  | case3 unit size units nanos hcount ih =>
    rcases List.mem_cons.1 hp with rfl | hp
    · exact h (unit, size) (by simp)
    · exact ih (fun u hu => h u (by simp [hu])) hp

/-! ### Reading the parts -/

private theorem ofNat_ne_nil (n : Nat) : Digits.ofNat n ≠ [] := Nat.toDigits_ne_nil

private theorem splitBy_of_isDigit_eq {cs : List Char} {b : Bool} (hne : cs ≠ []) (h : ∀ c ∈ cs, c.isDigit = b) :
    cs.splitBy sameKind = [cs] := by
  apply List.splitBy_of_isChain hne
  apply List.Pairwise.isChain
  apply List.pairwise_of_forall_mem_list
  intro c hc d hd
  simp [sameKind, h c hc, h d hd]

private theorem isDigit_of_mem_head? {ps : List Part} {c : Char} (h : c ∈ (ps.flatMap Part.text).head?) :
    c.isDigit = true := by
  cases ps with
  | nil => cases h
  | cons p ps =>
    rw [List.flatMap_cons, Part.text, List.append_assoc, List.head?_append_of_ne_nil _ (ofNat_ne_nil _)] at h
    exact Digits.isDigit_of_mem_ofNat (List.mem_of_mem_head? h)

/-- The runs of a text made of parts are their counts and units. -/
theorem splitBy_flatMap_text {ps : List Part} (h : ∀ p ∈ ps, p.IsSized) :
    (ps.flatMap Part.text).splitBy sameKind = ps.flatMap fun p => [Digits.ofNat p.count, p.unit.toList] := by
  induction ps with
  | nil => rfl
  | cons p ps ih =>
    obtain ⟨hp, hps⟩ := List.forall_mem_cons.1 h
    obtain ⟨hne, hunit⟩ := unit_of_unitNanos? hp
    have hcount : ∀ c ∈ Digits.ofNat p.count, c.isDigit = true := fun c => Digits.isDigit_of_mem_ofNat
    rw [List.flatMap_cons, Part.text, List.append_assoc, List.splitBy_append, List.splitBy_append, ih hps,
      splitBy_of_isDigit_eq (ofNat_ne_nil _) hcount, splitBy_of_isDigit_eq hne hunit]
    · rfl
    · intro c hc d hd
      simp [sameKind, hunit c (List.mem_of_getLast? hc), isDigit_of_mem_head? hd]
    · intro c hc d hd
      rw [List.head?_append_of_ne_nil _ hne] at hd
      simp [sameKind, hcount c (List.mem_of_getLast? hc), hunit d (List.mem_of_mem_head? hd)]

theorem total?_parts {ps : List Part} (h : ∀ p ∈ ps, p.IsSized) :
    total? (ps.flatMap fun p => [Digits.ofNat p.count, p.unit.toList]) = some (sum ps) := by
  induction ps with
  | nil => rfl
  | cons p ps ih =>
    obtain ⟨hp, hps⟩ := List.forall_mem_cons.1 h
    have hdigits : (Digits.ofNat p.count).all Char.isDigit = true :=
      List.all_eq_true.2 fun c => Digits.isDigit_of_mem_ofNat
    unfold Part.IsSized at hp
    simp only [List.flatMap_cons, List.cons_append, List.nil_append, total?, hdigits, if_true, hp, ih hps,
      Digits.value_ofNat, sum]
    rfl

theorem total?_splitBy_fluxUnits (nanos : Nat) :
    total? ((fluxUnits units nanos).toList.splitBy sameKind) = some nanos := by
  have hsized : ∀ p ∈ parts units nanos, p.IsSized := fun p => isSized_of_mem_parts (by decide)
  rw [toList_fluxUnits, splitBy_flatMap_text hsized, total?_parts hsized, sum_parts_units]

/-- The literal of a span is read as its nanoseconds, and as none if it is not positive. -/
theorem read?_flux (s : Span) : read? s.flux = some s.nanos.toNat := by
  unfold flux
  split
  · rename_i hs
    rw [Int.toNat_of_nonpos hs]
    decide +kernel
  · rename_i hs
    have htotal := total?_splitBy_fluxUnits s.nanos.toNat
    have hne : fluxUnits units s.nanos.toNat ≠ "" := by
      intro hempty
      rw [hempty] at htotal
      have hzero : 0 = s.nanos.toNat := Option.some.inj htotal
      omega
    rw [read?, if_neg hne, htotal]

example : read? "2h56m15s500ms" = some 10575500000000 ∧ read? "1m1" = none ∧ read? "1d" = none := by decide +kernel

/-! ### Units in order -/

/-- How many of a unit that is shorter than the hour make up the next longer one. -/
def radix (unit : String) : Nat := if unit = "m" ∨ unit = "s" then 60 else 1000

/-- A unit with the next shorter one behind it. -/
private def Steps (u v : String × Nat) : Prop := u.2 = radix v.1 * v.2

private theorem Steps.pos {u v : String × Nat} (h : Steps u v) (hu : 0 < u.2) : 0 < radix v.1 ∧ 0 < v.2 := by
  unfold Steps at h
  rw [h] at hu
  exact ⟨Nat.pos_of_mul_pos_right hu, Nat.pos_of_mul_pos_left hu⟩

private theorem steps_units : units.IsChain Steps := by
  simp [units, Steps, radix]

/-- The unit of a part with its size. -/
def Part.measure (p : Part) : String × Nat := (p.unit, p.size)

private theorem measure_parts_sublist (us : List (String × Nat)) (nanos : Nat) :
    ((parts us nanos).map Part.measure).Sublist us := by
  fun_induction parts us nanos with
  | case1 => exact .slnil
  | case2 unit size us nanos hzero ih => exact ih.cons _
  | case3 unit size us nanos hcount ih => exact ih.cons_cons _

private theorem count_pos_of_mem_parts {us : List (String × Nat)} {nanos : Nat} {p : Part} (hp : p ∈ parts us nanos) :
    0 < p.count := by
  fun_induction parts us nanos with
  | case1 => cases hp
  | case2 unit size us nanos hzero ih => exact ih hp
  | case3 unit size us nanos hcount ih =>
    rcases List.mem_cons.1 hp with rfl | hp
    · exact Nat.pos_of_ne_zero hcount
    · exact ih hp

/-- A part of the first unit, or one of what the first unit leaves. -/
private theorem eq_or_mem_of_mem_parts {unit : String} {size : Nat} {us : List (String × Nat)} {nanos : Nat} {p : Part}
    (hp : p ∈ parts ((unit, size) :: us) nanos) : p = ⟨nanos / size, unit, size⟩ ∨ p ∈ parts us (nanos % size) := by
  rw [parts] at hp
  split at hp
  · exact .inr hp
  · exact List.mem_cons.1 hp

/-- Of less than one unit, fewer of each shorter unit are taken than make up the next longer one. -/
private theorem count_lt_of_mem_parts {u : String × Nat} {us : List (String × Nat)} (hsteps : (u :: us).IsChain Steps)
    {nanos : Nat} (hnanos : nanos < u.2) {p : Part} (hp : p ∈ parts us nanos) : p.count < radix p.unit := by
  induction us generalizing u nanos with
  | nil => cases hp
  | cons v us ih =>
    obtain ⟨unit, size⟩ := v
    obtain ⟨hstep, hrest⟩ := List.isChain_cons_cons.1 hsteps
    obtain ⟨-, hsize⟩ := hstep.pos (Nat.zero_lt_of_lt hnanos)
    unfold Steps at hstep
    rw [hstep] at hnanos
    rcases eq_or_mem_of_mem_parts hp with rfl | hp
    · exact (Nat.div_lt_iff_lt_mul hsize).2 hnanos
    · exact ih hrest (Nat.mod_lt nanos hsize) hp

/-! ### One literal for each span -/

/-- Parts as a literal gives them: at least one, their units from the longest to the shortest and each at most once, no
count that is zero or begins with a zero, and of no unit but the hour as many as make up the next longer one. -/
structure IsCanonical (ps : List Part) : Prop where
  nonempty : ps ≠ []
  ordered : (ps.map Part.unit).Sublist ["h", "m", "s", "ms", "us", "ns"]
  sized : ∀ p ∈ ps, p.IsSized
  positive : ∀ p ∈ ps, 0 < p.count
  unpadded : ∀ p ∈ ps, p.text.head? ≠ some '0'
  below : ∀ p ∈ ps, p.unit ≠ "h" → p.count < radix p.unit

private theorem head?_text_ne_zero {p : Part} (h : 0 < p.count) : p.text.head? ≠ some '0' := by
  rw [Part.text, List.head?_append_of_ne_nil _ (ofNat_ne_nil _)]
  intro hhead
  obtain ⟨more, hmore⟩ := List.head?_eq_some_iff.1 hhead
  have hvalue := Digits.value_ofNat p.count
  rw [hmore, Digits.eq_nil_of_ofNat_eq hmore] at hvalue
  have hzero : 0 = p.count := hvalue
  omega

theorem isCanonical_parts {nanos : Nat} (h : 0 < nanos) : IsCanonical (parts units nanos) where
  nonempty hnil := by
    have hsum := sum_parts_units nanos
    rw [hnil] at hsum
    have hzero : 0 = nanos := hsum
    omega
  ordered := by
    have hsub := (measure_parts_sublist units nanos).map Prod.fst
    rwa [List.map_map] at hsub
  sized p := isSized_of_mem_parts (by decide)
  positive p := count_pos_of_mem_parts
  unpadded p hp := head?_text_ne_zero (count_pos_of_mem_parts hp)
  below p hp hhour := by
    rcases eq_or_mem_of_mem_parts hp with rfl | hp
    · exact absurd rfl hhour
    · exact count_lt_of_mem_parts steps_units (Nat.mod_lt nanos (by decide)) hp

/-- Parts in shorter units, too few of each to make up the next longer one, are less than one unit together. -/
private theorem sum_lt {u : String × Nat} {us : List (String × Nat)} (hsteps : (u :: us).IsChain Steps) (hu : 0 < u.2)
    {ps : List Part} (hps : (ps.map Part.measure).Sublist us) (hbelow : ∀ p ∈ ps, p.count < radix p.unit) :
    sum ps < u.2 := by
  induction us generalizing u ps with
  | nil =>
    rw [List.sublist_nil, List.map_eq_nil_iff] at hps
    rw [hps]
    exact hu
  | cons v us ih =>
    obtain ⟨hstep, hrest⟩ := List.isChain_cons_cons.1 hsteps
    obtain ⟨hradix, hv⟩ := hstep.pos hu
    have hsize : u.2 = radix v.1 * v.2 := hstep
    rcases List.sublist_cons_iff.1 hps with hps | ⟨rest, hmap, hps⟩
    · have hlt := ih hrest hv hps hbelow
      have hle := Nat.mul_le_mul_right v.2 hradix
      omega
    · obtain ⟨p, ps, rfl, rfl, rfl⟩ := List.map_eq_cons_iff.1 hmap
      obtain ⟨hp, hbelow⟩ := List.forall_mem_cons.1 hbelow
      have hlt := ih hrest hv hps hbelow
      have hle := Nat.mul_le_mul_right p.size (Nat.succ_le_of_lt hp)
      rw [Nat.succ_mul] at hle
      simp only [sum, Part.measure] at hlt hsize ⊢
      omega

/-- Taking as much of each unit as there is finds the parts of a sum again. There may be any number of the first unit. -/
private theorem parts_sum {us : List (String × Nat)} (hsteps : us.IsChain Steps) (hpos : ∀ u ∈ us, 0 < u.2)
    {ps : List Part} (hps : (ps.map Part.measure).Sublist us) (hcount : ∀ p ∈ ps, 0 < p.count)
    (hbelow : ∀ p ∈ ps, p.measure ∈ us.tail → p.count < radix p.unit) : parts us (sum ps) = ps := by
  induction us generalizing ps with
  | nil =>
    rw [List.sublist_nil, List.map_eq_nil_iff] at hps
    rw [hps]
    rfl
  | cons u us ih =>
    obtain ⟨unit, size⟩ := u
    obtain ⟨hsize, hpos⟩ := List.forall_mem_cons.1 hpos
    have hsize : 0 < size := hsize
    -- what is left for the shorter units
    have hrest : ∀ {qs : List Part}, (qs.map Part.measure).Sublist us → (∀ q ∈ qs, 0 < q.count) →
        (∀ q ∈ qs, q.measure ∈ us → q.count < radix q.unit) → sum qs < size ∧ parts us (sum qs) = qs := by
      intro qs hqs hqcount hqbelow
      have hmem : ∀ q ∈ qs, q.measure ∈ us := fun q hq => hqs.mem (List.mem_map_of_mem hq)
      exact ⟨sum_lt hsteps hsize hqs fun q hq => hqbelow q hq (hmem q hq),
        ih hsteps.tail hpos hqs hqcount fun q hq htail => hqbelow q hq (List.mem_of_mem_tail htail)⟩
    rcases List.sublist_cons_iff.1 hps with hps | ⟨rest, hmap, hps⟩
    · obtain ⟨hlt, heq⟩ := hrest hps hcount hbelow
      rw [parts, if_pos (Nat.div_eq_of_lt hlt), Nat.mod_eq_of_lt hlt, heq]
    · obtain ⟨p, ps, rfl, hp, rfl⟩ := List.map_eq_cons_iff.1 hmap
      obtain ⟨hcount, hcounts⟩ := List.forall_mem_cons.1 hcount
      obtain ⟨hlt, heq⟩ := hrest hps hcounts (List.forall_mem_cons.1 hbelow).2
      obtain ⟨count, unit', size'⟩ := p
      obtain ⟨rfl, rfl⟩ := Prod.mk.inj hp
      have hdiv : (count * size' + sum ps) / size' = count := by
        rw [Nat.mul_comm, Nat.mul_add_div hsize, Nat.div_eq_of_lt hlt, Nat.add_zero]
      have hmod : (count * size' + sum ps) % size' = sum ps := by
        rw [Nat.mul_comm, Nat.mul_add_mod, Nat.mod_eq_of_lt hlt]
      have hne : count ≠ 0 := Nat.ne_of_gt hcount
      rw [sum, parts, hdiv, hmod, if_neg hne, heq]

/-- No other parts of that form have the same sum. -/
theorem IsCanonical.eq_parts {ps : List Part} (h : IsCanonical ps) : ps = parts units (sum ps) := by
  have hmeasure : ps.map Part.measure = (ps.map Part.unit).map fun unit => (unit, (unitNanos? unit.toList).getD 0) := by
    rw [List.map_map]
    refine List.map_congr_left fun p hp => ?_
    have hsized : unitNanos? p.unit.toList = some p.size := h.sized p hp
    rw [Function.comp_apply, hsized]
    rfl
  have hsub : (ps.map Part.measure).Sublist units := by
    rw [hmeasure]
    exact h.ordered.map _
  have hhour : ∀ u ∈ units.tail, u.1 ≠ "h" := by decide
  exact (parts_sum steps_units (by decide) hsub h.positive fun p hp htail => h.below p hp (hhour _ htail)).symm

/-- The literal of a positive span says what it is exactly and in one way only: it is made of counts and units as
`IsCanonical` has them that add up to the span, and no others do. So it is read as the span, and no other span has it.
A span that is not positive is `0s`. -/
theorem flux_canonical (s : Span) :
    (0 < s.nanos →
      (∃ ps, IsCanonical ps ∧ s.flux.toList = ps.flatMap Part.text ∧ (sum ps : Int) = s.nanos ∧
        ∀ qs, IsCanonical qs → (sum qs : Int) = s.nanos → qs = ps) ∧
      read? s.flux = some s.nanos.toNat ∧ ∀ t : Span, t.flux = s.flux → t = s) ∧
    (s.nanos ≤ 0 → s.flux = "0s") := by
  refine ⟨fun hpos => ⟨⟨parts units s.nanos.toNat, isCanonical_parts (by omega), ?_, ?_, ?_⟩, read?_flux s, ?_⟩, ?_⟩
  · rw [flux, if_neg (by omega), toList_fluxUnits]
  · rw [sum_parts_units, Int.toNat_of_nonneg (by omega)]
  · intro qs hqs hsum
    rw [hqs.eq_parts, ← hsum, Int.toNat_natCast]
  · intro t ht
    have hread := read?_flux t
    rw [ht, read?_flux s] at hread
    have hnat : s.nanos.toNat = t.nanos.toNat := Option.some.inj hread
    have hnanos : t.nanos = s.nanos := by omega
    cases s
    cases t
    exact congrArg Span.mk hnanos
  · exact fun h => if_pos h

/-- The longest span, and as long a one the other way. -/
theorem flux_canonical_longest :
    0 < maxNanos ∧ ofNanos? maxNanos = some ⟨maxNanos⟩ ∧ flux ⟨maxNanos⟩ = "2562047788015h12m55s807ms" ∧
    read? "2562047788015h12m55s807ms" = some 9223372036854775807000000 ∧
    (∀ t : Span, t.flux = "2562047788015h12m55s807ms" → t = ⟨maxNanos⟩) ∧
    ofNanos? (-maxNanos) = some ⟨-maxNanos⟩ ∧ flux ⟨-maxNanos⟩ = "0s" := by
  have hpos : 0 < maxNanos := by decide
  have hflux : flux ⟨maxNanos⟩ = "2562047788015h12m55s807ms" := by decide +kernel
  obtain ⟨-, hread, honly⟩ := (flux_canonical ⟨maxNanos⟩).1 hpos
  rw [hflux] at hread honly
  exact ⟨hpos, by decide +kernel, hflux, hread, honly, by decide +kernel, (flux_canonical ⟨-maxNanos⟩).2 (by decide)⟩

end FluxQuery.Span
