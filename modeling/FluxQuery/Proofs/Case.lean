import FluxQuery.Text.Case
import Mathlib.Data.List.Chain

/-!
# Writing a name in words, twice

A name that has been written in words needs no further cut: in the text that `Case.delimited` gives, letters never
meet digits and all letters are of one case (`settled_spellAll`), so a second pass only changes the case
(`spellAll_of_settled`). Hence the last pass decides alone, whatever was done before it (`delimited_delimited`), and
snake case can be taken of a name in screaming case as well as of the name itself.
-/

namespace FluxQuery

/-! ### Characters -/

private theorem isUpper_iff_val {c : Char} : c.isUpper = true ↔ c.val ≥ 'A'.val ∧ c.val ≤ 'Z'.val :=
  decide_eq_true_iff

private theorem isLower_iff_val {c : Char} : c.isLower = true ↔ 'a'.val ≤ c.val ∧ c.val ≤ 'z'.val := by
  change (decide (c.val ≥ 'a'.val) && decide (c.val ≤ 'z'.val)) = true ↔ _
  rw [Bool.and_eq_true, decide_eq_true_iff, decide_eq_true_iff]

private theorem isUpper_iff {c : Char} : c.isUpper = true ↔ 65 ≤ c.toNat ∧ c.toNat ≤ 90 := by
  rw [isUpper_iff_val]
  simp [UInt32.le_iff_toNat_le, ← Char.toNat_val]

private theorem isLower_iff {c : Char} : c.isLower = true ↔ 97 ≤ c.toNat ∧ c.toNat ≤ 122 := by
  rw [isLower_iff_val]
  simp [UInt32.le_iff_toNat_le, ← Char.toNat_val]

theorem isDigit_iff {c : Char} : c.isDigit = true ↔ 48 ≤ c.toNat ∧ c.toNat ≤ 57 := by
  simp [Char.isDigit, UInt32.le_iff_toNat_le, ← Char.toNat_val]

private theorem isAlpha_eq (c : Char) : c.isAlpha = (c.isUpper || c.isLower) := rfl

private theorem toNat_toLower (c : Char) : c.toLower.toNat = if c.isUpper then c.toNat + 32 else c.toNat := by
  delta Char.toLower
  by_cases h : c.isUpper = true
  · rw [dif_pos (isUpper_iff_val.1 h), if_pos h]
    have hc : c.toNat ≤ 90 := (isUpper_iff.1 h).2
    show (c.val + 32).toNat = c.val.toNat + 32
    rw [UInt32.toNat_add]
    simp
    omega
  · rw [dif_neg (fun hv => h (isUpper_iff_val.2 hv)), if_neg h]

private theorem toNat_toUpper (c : Char) : c.toUpper.toNat = if c.isLower then c.toNat - 32 else c.toNat := by
  delta Char.toUpper
  by_cases h : c.isLower = true
  · rw [dif_pos (isLower_iff_val.1 h), if_pos h]
    have hlow : 97 ≤ c.toNat := (isLower_iff.1 h).1
    have hhigh : c.toNat ≤ 122 := (isLower_iff.1 h).2
    show (c.val + ('A'.val - 'a'.val)).toNat = c.val.toNat - 32
    rw [UInt32.toNat_add]
    simp
    omega
  · rw [dif_neg (fun hv => h (isLower_iff_val.2 hv)), if_neg h]

theorem isUpper_toLower (c : Char) : c.toLower.isUpper = false := by
  rw [Bool.eq_false_iff, ne_eq, isUpper_iff, toNat_toLower]
  have := @isUpper_iff c
  grind

theorem isLower_toUpper (c : Char) : c.toUpper.isLower = false := by
  rw [Bool.eq_false_iff, ne_eq, isLower_iff, toNat_toUpper]
  have := @isLower_iff c
  grind

theorem toLower_eq_self {c : Char} (h : c.isUpper = false) : c.toLower = c := by
  apply Char.toNat_inj.1
  rw [toNat_toLower, h, if_neg Bool.false_ne_true]

theorem toUpper_eq_self {c : Char} (h : c.isLower = false) : c.toUpper = c := by
  apply Char.toNat_inj.1
  rw [toNat_toUpper, h, if_neg Bool.false_ne_true]

/-! ### Blanks -/

private theorem trimEnd_isPrefix (cs : List Char) : trimEnd cs <+: cs := by
  have h : cs.reverse.dropWhile isBlank <:+ cs.reverse := List.dropWhile_suffix _
  simpa [trimEnd] using List.reverse_prefix.2 h

private theorem head?_dropWhile_isBlank {cs : List Char} {c : Char} (h : (cs.dropWhile isBlank).head? = some c) :
    isBlank c = false := by
  have := List.head?_dropWhile_not isBlank cs
  rw [h] at this
  exact this

private theorem isBlank_of_head?_trim {cs : List Char} {c : Char} (h : (trim cs).head? = some c) :
    isBlank c = false := by
  apply @head?_dropWhile_isBlank cs
  obtain ⟨rest, hrest⟩ := trimEnd_isPrefix (cs.dropWhile isBlank)
  rw [← hrest, List.head?_append]
  unfold trim at h
  simp [h]

private theorem isBlank_of_getLast?_trim {cs : List Char} {c : Char} (h : (trim cs).getLast? = some c) :
    isBlank c = false := by
  apply @head?_dropWhile_isBlank (cs.dropWhile isBlank).reverse
  simpa [trim, trimEnd] using h

/-- Trimming keeps a text without blanks at its ends. -/
theorem trim_eq_self {cs : List Char} (hhead : ∀ c, cs.head? = some c → isBlank c = false)
    (hlast : ∀ c, cs.getLast? = some c → isBlank c = false) : trim cs = cs := by
  have h1 : cs.dropWhile isBlank = cs := by
    cases cs with
    | nil => rfl
    | cons c cs => simp [hhead c rfl]
  have h2 : cs.reverse.dropWhile isBlank = cs.reverse := by
    cases h : cs.reverse with
    | nil => rfl
    | cons c rest =>
      have : isBlank c = false := hlast c (by rw [← List.head?_reverse, h]; rfl)
      simp [this]
  rw [trim, h1, trimEnd, h2, List.reverse_reverse]

theorem trim_eq_self_iff {cs : List Char} :
    trim cs = cs ↔ (∀ c, cs.head? = some c → isBlank c = false) ∧ ∀ c, cs.getLast? = some c → isBlank c = false := by
  constructor
  · intro h
    exact ⟨fun c hc => @isBlank_of_head?_trim cs c (by rw [h, hc]), fun c hc => @isBlank_of_getLast?_trim cs c (by rw [h, hc])⟩
  · exact fun h => trim_eq_self h.1 h.2

namespace Case

/-! ### The two cases -/

/-- The two ways to write letters. -/
inductive Recasing : (Char → Char) → Prop where
  | lower : Recasing Char.toLower
  | upper : Recasing Char.toUpper

namespace Recasing

variable {f g : Char → Char}

/-- The later of two recasings decides. -/
theorem comp (hf : Recasing f) (hg : Recasing g) (c : Char) : g (f c) = g c := by
  have key : ∀ {x y : Char}, x.toNat = y.toNat → x = y := fun h => Char.toNat_inj.1 h
  have hu := @isUpper_iff c
  have hl := @isLower_iff c
  cases hf <;> cases hg <;> apply key <;>
    simp only [toNat_toLower, toNat_toUpper, isUpper_iff, isLower_iff] <;> grind

theorem isDigit (hf : Recasing f) (c : Char) : (f c).isDigit = c.isDigit := by
  rw [Bool.eq_iff_iff]
  cases hf <;> simp only [isDigit_iff, toNat_toLower, toNat_toUpper, isUpper_iff, isLower_iff] <;> grind

/-- Letters stay letters. -/
theorem isAlpha (hf : Recasing f) (c : Char) : (f c).isAlpha = c.isAlpha := by
  rw [Bool.eq_iff_iff]
  cases hf <;>
    simp only [isAlpha_eq, Bool.or_eq_true, toNat_toLower, toNat_toUpper, isUpper_iff, isLower_iff] <;> grind

theorem oneCase (hf : Recasing f) : (∀ c, (f c).isUpper = false) ∨ (∀ c, (f c).isLower = false) := by
  cases hf with
  | lower => exact .inl isUpper_toLower
  | upper => exact .inr isLower_toUpper

/-- What is no letter stays as it is, and nothing else becomes it. -/
theorem eq_iff (hf : Recasing f) {c d : Char} (hd : d.isAlpha = false) : f c = d ↔ c = d := by
  constructor
  · intro h
    have hc : c.isAlpha = false := by rw [← hf.isAlpha, h, hd]
    simp only [isAlpha_eq, Bool.or_eq_false_iff] at hc
    have : (f c).toNat = c.toNat := by cases hf <;> simp [toNat_toLower, toNat_toUpper, hc]
    rw [← h]
    exact (Char.toNat_inj.1 this).symm
  · rintro rfl
    simp only [isAlpha_eq, Bool.or_eq_false_iff] at hd
    apply Char.toNat_inj.1
    cases hf <;> simp [toNat_toLower, toNat_toUpper, hd]

theorem isBlank (hf : Recasing f) {c : Char} (hc : isBlank c = false) : isBlank (f c) = false := by
  by_cases ha : c.isAlpha = true
  · have hfa : (f c).isAlpha = true := by rw [hf.isAlpha, ha]
    simp only [isAlpha_eq, Bool.or_eq_true, isUpper_iff, isLower_iff] at hfa
    simp only [FluxQuery.isBlank, Bool.or_eq_false_iff, Bool.and_eq_false_iff, decide_eq_false_iff_not,
      beq_eq_false_iff_ne]
    omega
  · rw [(hf.eq_iff (by simpa using ha)).2 rfl]
    exact hc

end Recasing

/-! ### One pass -/

variable {f g : Char → Char}

/-- What a character itself becomes, without the underscores around it. -/
private def written (f : Char → Char) (c : Char) : Char := if isSeparator c then '_' else f c

private theorem isBlank_written (hf : Recasing f) {c : Char} (hc : isBlank c = false) : isBlank (written f c) = false := by
  unfold written
  split
  · decide
  · exact hf.isBlank hc

/-- A pass puts in nothing but underscores. -/
theorem mem_spellAll {prev : Option Char} {cs : List Char} {x : Char} (hx : x ∈ spellAll f prev cs) :
    x = '_' ∨ ∃ c ∈ cs, isSeparator c = false ∧ x = f c := by
  induction cs generalizing prev with
  | nil => simp [spellAll] at hx
  | cons c cs ih =>
    rw [spellAll, List.mem_append] at hx
    rcases hx with hx | hx
    · simp only [spell, List.mem_append, List.mem_cons] at hx
      rcases hx with hx | hx | hx
      · left
        split at hx <;> simp_all
      · split at hx
        · exact .inl hx
        · exact .inr ⟨c, by simp, by simp_all, hx⟩
      · left
        split at hx <;> simp_all
    · rcases ih hx with h | ⟨d, hd, h⟩
      · exact .inl h
      · exact .inr ⟨d, by simp [hd], h⟩

private theorem head?_spellAll_none (c : Char) (cs : List Char) :
    (spellAll f none (c :: cs)).head? = some (written f c) := by
  simp [spellAll, spell, written]

private theorem head?_spellAll (prev : Option Char) (c : Char) (cs : List Char) :
    (spellAll f prev (c :: cs)).head? = some '_' ∨ (spellAll f prev (c :: cs)).head? = some (written f c) := by
  simp only [spellAll, spell, List.append_assoc, List.cons_append]
  split
  · exact .inl rfl
  · exact .inr rfl

private theorem getLast?_spellAll (prev : Option Char) (cs : List Char) :
    (spellAll f prev cs).getLast? = cs.getLast?.map (written f) := by
  induction cs generalizing prev with
  | nil => rfl
  | cons c cs ih =>
    cases cs with
    | nil => simp [spellAll, spell, written]
    | cons d cs =>
      have hne : spellAll f (some c) (d :: cs) ≠ [] := by
        intro h
        rcases @head?_spellAll f (some c) d cs with hd | hd <;> simp [h] at hd
      rw [spellAll, List.getLast?_append_of_ne_nil _ hne, ih, List.getLast?_cons_cons]

private theorem trim_spellAll (hf : Recasing f) (name : List Char) :
    trim (spellAll f none (trim name)) = spellAll f none (trim name) := by
  apply trim_eq_self
  · intro x hx
    cases h : trim name with
    | nil => simp [h, spellAll] at hx
    | cons c cs =>
      rw [h, head?_spellAll_none] at hx
      obtain rfl := Option.some.inj hx
      exact isBlank_written hf (@isBlank_of_head?_trim name c (by rw [h]; rfl))
  · intro x hx
    rw [getLast?_spellAll] at hx
    obtain ⟨c, hc, rfl⟩ := Option.map_eq_some_iff.1 hx
    exact isBlank_written hf (isBlank_of_getLast?_trim hc)

/-- Not a letter beside a digit. -/
def Apart (c d : Char) : Prop := ¬ (c.isAlpha = true ∧ d.isDigit = true) ∧ ¬ (c.isDigit = true ∧ d.isAlpha = true)

private theorem apart_underscore (c : Char) : Apart c '_' := ⟨fun h => absurd h.2 (by decide), fun h => absurd h.2 (by decide)⟩

private theorem underscore_apart (c : Char) : Apart '_' c := ⟨fun h => absurd h.1 (by decide), fun h => absurd h.1 (by decide)⟩

/-- A text that a pass leaves in one piece: no separator but the underscore, no letter beside a digit, and letters of
one case only. -/
structure Settled (cs : List Char) : Prop where
  separator : ∀ c ∈ cs, isSeparator c = true → c = '_'
  apart : cs.IsChain Apart
  oneCase : (∀ c ∈ cs, c.isUpper = false) ∨ (∀ c ∈ cs, c.isLower = false)

/-- A letter and a digit that meet in the new text, with no underscore put between them, met in the old one. -/
private theorem apart_written (hf : Recasing f) {c d : Char} (h : endsWord c d = false) :
    Apart (written f c) (written f d) := by
  have ha : ∀ x, (written f x).isAlpha = true → x.isAlpha = true := by
    intro x hx
    unfold written at hx
    split at hx
    · exact absurd hx (by decide)
    · rwa [hf.isAlpha] at hx
  have hd : ∀ x, (written f x).isDigit = true → x.isDigit = true := by
    intro x hx
    unfold written at hx
    split at hx
    · exact absurd hx (by decide)
    · rwa [hf.isDigit] at hx
  simp only [endsWord, Bool.or_eq_false_iff, Bool.and_eq_false_iff] at h
  constructor
  · rintro ⟨hc, hn⟩
    have h1 := ha c hc
    have h2 := hd d hn
    simp only [isAlpha_eq, Bool.or_eq_true] at h1
    simp_all
  · rintro ⟨hc, hn⟩
    have h1 := hd c hc
    have h2 := ha d hn
    simp only [isAlpha_eq, Bool.or_eq_true] at h2
    simp_all

private theorem apart_spell (prev : Option Char) (c : Char) (next : Option Char) :
    (spell f prev c next).IsChain Apart := by
  unfold spell
  generalize (if isSeparator c then '_' else f c) = v
  split <;> split <;> simp [apart_underscore, underscore_apart]

private theorem apart_spellAll (hf : Recasing f) (prev : Option Char) (cs : List Char) :
    (spellAll f prev cs).IsChain Apart := by
  induction cs generalizing prev with
  | nil => exact .nil
  | cons c cs ih =>
    rw [spellAll]
    refine List.IsChain.append (apart_spell prev c cs.head?) (ih (some c)) ?_
    -- at the seam there stands an underscore, or no word ends
    intro x hx y hy
    cases cs with
    | nil => simp [spellAll] at hy
    | cons d cs =>
      rcases @head?_spellAll f (some c) d cs with h | h
      · rw [h] at hy
        obtain rfl := Option.some.inj hy
        exact apart_underscore x
      · rw [h] at hy
        obtain rfl := Option.some.inj hy
        by_cases he : endsWord c d = true
        · obtain rfl : '_' = x := by simpa [spell, he] using hx
          exact underscore_apart _
        · obtain rfl : written f c = x := by simpa [spell, he, written] using hx
          exact apart_written hf (by simpa using he)

/-- What one pass gives is settled. -/
theorem settled_spellAll (hf : Recasing f) (prev : Option Char) (cs : List Char) : Settled (spellAll f prev cs) where
  separator x hx hsep := by
    rcases mem_spellAll hx with rfl | ⟨c, -, hc, rfl⟩
    · rfl
    · -- no other separator can come out of a recasing
      simp only [isSeparator, Bool.or_eq_true, beq_iff_eq] at hsep
      rcases hsep with ((h | h) | h) | h
      · rw [(hf.eq_iff (by decide)).1 h] at hc
        exact absurd hc (by decide)
      · exact h
      · rw [(hf.eq_iff (by decide)).1 h] at hc
        exact absurd hc (by decide)
      · rw [(hf.eq_iff (by decide)).1 h] at hc
        exact absurd hc (by decide)
  apart := apart_spellAll hf prev cs
  oneCase := by
    rcases hf.oneCase with h | h
    · left
      intro x hx
      rcases mem_spellAll hx with rfl | ⟨c, -, -, rfl⟩
      · rfl
      · exact h c
    · right
      intro x hx
      rcases mem_spellAll hx with rfl | ⟨c, -, -, rfl⟩
      · rfl
      · exact h c

/-! ### Another pass -/

/-- A pass over a settled text only changes the case of its letters. -/
theorem spellAll_of_settled (hg : Recasing g) {cs : List Char} (h : Settled cs) (prev : Option Char) :
    spellAll g prev cs = cs.map g := by
  induction cs generalizing prev with
  | nil => rfl
  | cons c cs ih =>
    have hrest : Settled cs :=
      ⟨fun x hx => h.separator x (by simp [hx]), h.apart.tail, h.oneCase.imp (fun hu x hx => hu x (by simp [hx]))
        (fun hl x hx => hl x (by simp [hx]))⟩
    have hwritten : (if isSeparator c then '_' else g c) = g c := by
      split
      · rename_i hsep
        rw [h.separator c (by simp) hsep]
        exact ((hg.eq_iff (by decide)).2 rfl).symm
      · rfl
    rw [spellAll, ih hrest, List.map_cons, ← List.singleton_append]
    congr 1
    cases cs with
    | nil => simp [spell, hwritten]
    | cons d cs =>
      have hends : endsWord c d = false := by
        have hcd := (List.isChain_cons_cons.1 h.apart).1
        simp only [Apart, isAlpha_eq] at hcd
        rcases h.oneCase with hu | hl
        · have := hu c (by simp); have := hu d (by simp)
          simp_all [endsWord]
        · have := hl c (by simp); have := hl d (by simp)
          simp_all [endsWord]
      have hopens : ∀ p, opensWord p c d = false := by
        intro p
        rcases h.oneCase with hu | hl
        · simp [opensWord, hu c (by simp)]
        · simp [opensWord, hl d (by simp)]
      cases prev with
      | none => simp [spell, hwritten, hends]
      | some p => simp [spell, hwritten, hends, hopens]

/-- Recasing what a pass has written is writing it in the other case. -/
private theorem map_spellAll (hf : Recasing f) (hg : Recasing g) (prev : Option Char) (cs : List Char) :
    (spellAll f prev cs).map g = spellAll g prev cs := by
  have hunder : g '_' = '_' := (hg.eq_iff (by decide)).2 rfl
  induction cs generalizing prev with
  | nil => rfl
  | cons c cs ih =>
    rw [spellAll, spellAll, List.map_append, ih]
    congr 1
    simp only [spell, List.map_append, List.map_cons]
    congr 1
    · split <;> simp [hunder]
    · congr 1
      · split
        · exact hunder
        · exact hf.comp hg c
      · split <;> simp [hunder]

theorem map_delimited (hf : Recasing f) (hg : Recasing g) (name : String) :
    (delimited f name).map g = delimited g name := by
  apply String.toList_inj.1
  simp only [delimited, String.toList_map, String.toList_ofList]
  exact map_spellAll hf hg none _

/-- The last of two passes decides. -/
theorem delimited_delimited (hf : Recasing f) (hg : Recasing g) (name : String) :
    delimited g (delimited f name) = delimited g name := by
  simp only [delimited, String.toList_ofList]
  rw [trim_spellAll hf, spellAll_of_settled hg (settled_spellAll hf none _), map_spellAll hf hg]

theorem trim_delimited (hf : Recasing f) (name : String) : trim (delimited f name).toList = (delimited f name).toList := by
  rw [delimited, String.toList_ofList]
  exact trim_spellAll hf name.toList

/-- A character that is neither a letter nor the underscore comes into the text from the name only. -/
theorem mem_of_mem_delimited (hf : Recasing f) {name : String} {x : Char} (ha : x.isAlpha = false) (hu : x ≠ '_')
    (hx : x ∈ (delimited f name).toList) : x ∈ name.toList := by
  rw [delimited, String.toList_ofList] at hx
  rcases mem_spellAll hx with h | ⟨c, hc, -, h⟩
  · exact absurd h hu
  · rw [(hf.eq_iff ha).1 h.symm] at hc
    exact (List.dropWhile_sublist _).mem ((trimEnd_isPrefix _).mem hc)

end Case

/-! ### Names -/

@[simp]
theorem snakeCase_snakeCase (name : String) : snakeCase (snakeCase name) = snakeCase name :=
  Case.delimited_delimited .lower .lower name

@[simp]
theorem snakeCase_screamingCase (name : String) : snakeCase (screamingCase name) = snakeCase name :=
  Case.delimited_delimited .upper .lower name

@[simp]
theorem screamingCase_snakeCase (name : String) : screamingCase (snakeCase name) = screamingCase name :=
  Case.delimited_delimited .lower .upper name

@[simp]
theorem screamingCase_screamingCase (name : String) : screamingCase (screamingCase name) = screamingCase name :=
  Case.delimited_delimited .upper .upper name

theorem space_not_mem_snakeCase (name : String) : ' ' ∉ (snakeCase name).toList := by
  intro h
  rw [snakeCase, Case.delimited, String.toList_ofList] at h
  have := (Case.settled_spellAll .lower _ _).separator ' ' h (by decide)
  exact absurd this (by decide)

end FluxQuery
