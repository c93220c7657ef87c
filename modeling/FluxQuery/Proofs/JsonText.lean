import FluxQuery.Json.Printer
import FluxQuery.Json.Reader
import FluxQuery.Proofs.Timestamps

/-!
# JSON through text

A value is read back from what is printed of it, without blanks (`read?_compress`) or with them (`read?_pretty_append`).
This holds of the values that text keeps (`Plain`): integers of 64 bits, strings as they are written, and whatever is
made of such values. Doubles are left out, and so are strings that hold an escape where none is needed.
-/

namespace FluxQuery

/-! ### Strings -/

namespace Quoted

private theorem hexValue?_digitChar : ∀ n < 16, hexValue? n.digitChar = some n := by
  decide

private theorem hex4?_control {n : Nat} (h : n < 32) :
    hex4? '0' '0' (n / 16).digitChar (n % 16).digitChar = some n := by
  have hzero : hexValue? '0' = some 0 := rfl
  have hhigh := hexValue?_digitChar (n / 16) (by omega)
  have hlow := hexValue?_digitChar (n % 16) (by omega)
  rw [hex4?, hzero, hhigh, hlow]
  simp only [Option.bind_eq_bind, Option.bind_some, Option.pure_def, Option.some.injEq]
  omega

private theorem resolve_escape_append (c : Char) (rest : List Char) :
    resolve (escape c ++ rest) = (resolve rest).map (c :: ·) := by
  unfold escape
  repeat' split
  -- the characters with an escape of their own
  iterate 7 (subst c; rfl)
  · rename_i hcontrol
    have hunit := hex4?_control hcontrol
    simp only [List.cons_append, List.nil_append, resolve, hunit, Option.bind_eq_bind, Option.bind_some]
    rw [if_neg (by omega), if_neg (by omega), Char.ofNat_toNat]
    rfl
  · rename_i hquote hbackslash _ _ _ _ _ _
    rw [List.singleton_append, resolve]
    · rfl
    · simp_all
    · simp_all

private theorem resolve_flatMap_escape (cs : List Char) : resolve (cs.flatMap escape) = some cs := by
  induction cs with
  | nil => rfl
  | cons c cs ih => rw [List.flatMap_cons, resolve_escape_append, ih, Option.map_some]

@[simp]
theorem text?_ofString (s : String) : (ofString s).text? = some s := by
  rw [text?, ofString, resolve_flatMap_escape, Option.map_some, String.ofList_toList]

end Quoted

namespace Json

private theorem scanQuoted_escape_append (c : Char) (rest : List Char) :
    scanQuoted (Quoted.escape c ++ rest) = (scanQuoted rest).map fun p => (Quoted.escape c ++ p.1, p.2) := by
  unfold Quoted.escape
  repeat' split
  iterate 7 (subst c; rfl)
  · rename_i hcontrol
    have hunit := Quoted.hex4?_control hcontrol
    simp only [List.cons_append, List.nil_append, scanQuoted, hunit]
    rfl
  · rename_i hquote hbackslash _ _ _ _ _ hcontrol
    rw [List.singleton_append, scanQuoted]
    · rw [if_neg hcontrol]
      rfl
    all_goals simp_all

private theorem scanQuoted_ofString (s : String) (rest : List Char) :
    scanQuoted ((Quoted.ofString s).raw ++ '"' :: rest) = .ok ((Quoted.ofString s).raw, rest) := by
  rw [Quoted.ofString]
  induction s.toList with
  | nil => rfl
  | cons c cs ih =>
    rw [List.flatMap_cons, List.append_assoc, scanQuoted_escape_append, ih]
    rfl

/-! ### Blanks -/

private theorem skipSpace_append {blanks : List Char} (h : ∀ c ∈ blanks, isSpace c = true) (cs : List Char) :
    skipSpace (blanks ++ cs) = skipSpace cs :=
  List.dropWhile_append_of_pos h

private theorem skipSpace_cons {c : Char} (h : isSpace c = false) (cs : List Char) : skipSpace (c :: cs) = c :: cs :=
  List.dropWhile_cons_of_neg (by simp [h])

private theorem skipSpace_skipSpace (cs : List Char) : skipSpace (skipSpace cs) = skipSpace cs := by
  induction cs with
  | nil => rfl
  | cons c cs ih =>
    cases h : isSpace c with
    | true => rwa [show skipSpace (c :: cs) = skipSpace cs from List.dropWhile_cons_of_pos h]
    | false => rw [skipSpace_cons h, skipSpace_cons h]

private theorem scanValue_skipSpace (fuel : Nat) (cs : List Char) :
    scanValue (fuel + 1) (skipSpace cs) = scanValue (fuel + 1) cs := by
  rw [scanValue, scanValue, skipSpace_skipSpace]

private theorem scanItems_skipSpace (fuel : Nat) (cs : List Char) :
    scanItems (fuel + 2) (skipSpace cs) = scanItems (fuel + 2) cs := by
  rw [scanItems, scanItems, scanValue_skipSpace]

private theorem scanMembers_skipSpace (fuel : Nat) (cs : List Char) :
    scanMembers (fuel + 1) (skipSpace cs) = scanMembers (fuel + 1) cs := by
  rw [scanMembers, scanMembers, skipSpace_skipSpace]

private theorem scanValue_append {blanks : List Char} (h : ∀ c ∈ blanks, isSpace c = true) (fuel : Nat)
    (cs : List Char) : scanValue (fuel + 1) (blanks ++ cs) = scanValue (fuel + 1) cs := by
  rw [scanValue, scanValue, skipSpace_append h]

/-- A layout that adds nothing but blanks. -/
structure Layout.Blank (layout : Layout) : Prop where
  newline : ∀ level, ∀ c ∈ layout.newline level, isSpace c = true
  colon : ∃ blanks, layout.colon = ':' :: blanks ∧ ∀ c ∈ blanks, isSpace c = true

theorem Layout.blank_compact : Layout.compact.Blank where
  newline _ _ h := by cases h
  colon := ⟨[], rfl, by simp⟩

theorem Layout.blank_indented : Layout.indented.Blank where
  newline level c h := by
    rcases List.mem_cons.1 h with rfl | h
    · rfl
    · rw [List.eq_of_mem_replicate h]
      rfl
  colon := ⟨[' '], rfl, by simp [isSpace]⟩

/-! ### Numbers -/

/-- What may stand behind a value: nothing that a number could go on with. -/
def Ended (rest : List Char) : Prop := ∀ c ∈ rest.head?, c = ',' ∨ c = ']' ∨ c = '}' ∨ isSpace c = true

private theorem Ended.stops {rest : List Char} (h : Ended rest) {c : Char} (hc : c ∈ rest.head?) :
    c.isDigit = false ∧ c ≠ '.' ∧ c ≠ 'e' ∧ c ≠ 'E' := by
  have hcases := h c hc
  simp only [isSpace, Bool.or_eq_true, beq_iff_eq] at hcases
  rcases hcases with rfl | rfl | rfl | ((rfl | rfl) | rfl) | rfl <;> decide

private theorem ended_append {blanks rest : List Char} (h : ∀ c ∈ blanks, isSpace c = true) (hrest : Ended rest) :
    Ended (blanks ++ rest) := by
  cases blanks with
  | nil => exact hrest
  | cons c blanks =>
    rintro _ ⟨⟩
    exact .inr (.inr (.inr (h c List.mem_cons_self)))

private theorem scanDigits_append {digits rest : List Char} (hne : digits ≠ [])
    (hdigits : ∀ c ∈ digits, c.isDigit = true) (hrest : ∀ c ∈ rest.head?, c.isDigit = false) :
    scanDigits (digits ++ rest) = .ok (digits, rest) := by
  have hstop : rest.takeWhile Char.isDigit = [] ∧ rest.dropWhile Char.isDigit = rest := by
    cases rest with
    | nil => exact ⟨rfl, rfl⟩
    | cons c rest =>
      have hc := hrest c rfl
      exact ⟨List.takeWhile_cons_of_neg (by simp [hc]), List.dropWhile_cons_of_neg (by simp [hc])⟩
  have htake : (digits ++ rest).takeWhile Char.isDigit = digits := by
    rw [List.takeWhile_append_of_pos hdigits, hstop.1, List.append_nil]
  have hdrop : (digits ++ rest).dropWhile Char.isDigit = rest := by
    rw [List.dropWhile_append_of_pos hdigits, hstop.2]
  rw [scanDigits, htake, hdrop]
  cases digits with
  | nil => exact absurd rfl hne
  | cons _ _ => rfl

private theorem scanNumber_ofNat (negative : Bool) (n : Nat) {rest : List Char} (hrest : Ended rest) :
    scanNumber negative (Digits.ofNat n ++ rest) =
      .ok (Number.ofLiteral negative (Digits.ofNat n) [] none, rest) := by
  have hdigits : scanDigits (Digits.ofNat n ++ rest) = .ok (Digits.ofNat n, rest) :=
    scanDigits_append Nat.toDigits_ne_nil (fun _ => Digits.isDigit_of_mem_ofNat) fun _ hc => (hrest.stops hc).1
  have hwhole : scanWhole (Digits.ofNat n ++ rest) = .ok (Digits.ofNat n, rest) := by
    rw [scanWhole, hdigits]
    simp only [bind, Except.bind]
    split
    · rename_i more tail hzero
      cases Digits.eq_nil_of_ofNat_eq hzero
    · rfl
  have hfraction : scanFraction rest = .ok ([], rest) := by
    cases rest with
    | nil => rfl
    | cons c rest =>
      rw [scanFraction]
      simpa using (hrest.stops rfl).2.1
  have hexponent : scanExponent rest = .ok (none, rest) := by
    cases rest with
    | nil => rfl
    | cons c rest =>
      obtain ⟨-, -, he, hE⟩ := hrest.stops rfl
      rw [scanExponent, if_neg (by simp [he, hE])]
  rw [scanNumber, hwhole]
  simp only [bind, Except.bind, hfraction, hexponent]
  rfl

private theorem isSpace_of_isDigit {c : Char} (hc : c.isDigit = true) : isSpace c = false := by
  rw [Bool.eq_false_iff]
  intro hspace
  simp only [isSpace, Bool.or_eq_true, beq_iff_eq] at hspace
  rcases hspace with ((rfl | rfl) | rfl) | rfl <;> cases hc

private theorem scanValue_digit {c : Char} (hc : c.isDigit = true) (fuel : Nat) (cs : List Char) :
    scanValue (fuel + 1) (c :: cs) = (scanNumber false (c :: cs)).map fun p => (.num p.1, p.2) := by
  rw [scanValue, skipSpace_cons (isSpace_of_isDigit hc)]
  split
  case h_9 c' cs' heq =>
    obtain ⟨rfl, rfl⟩ := List.cons.inj heq
    rw [if_pos hc]
    rfl
  -- no digit opens anything but a number
  all_goals
    rename_i heq
    cases heq <;> cases hc

private theorem exists_ofNat_eq (n : Nat) : ∃ c cs, Digits.ofNat n = c :: cs ∧ c.isDigit = true := by
  cases hdigits : Digits.ofNat n with
  | nil => exact absurd hdigits Nat.toDigits_ne_nil
  | cons c cs => exact ⟨c, cs, rfl, Digits.isDigit_of_mem_ofNat (hdigits ▸ List.mem_cons_self)⟩

private theorem scanValue_printInt {n : Int} (hlow : -(Nat.pow 2 63 : Int) ≤ n) (hhigh : n < UInt64.size) (fuel : Nat)
    {rest : List Char} (hrest : Ended rest) :
    scanValue (fuel + 1) (Number.printInt n ++ rest) = .ok (.int n, rest) := by
  by_cases hn : n < 0
  · have hliteral : Number.ofLiteral true (Digits.ofNat n.natAbs) [] none = .int n := by
      have hle : n.natAbs ≤ Nat.pow 2 63 := by omega
      have hne : n ≠ 0 := by omega
      have habs : -(n.natAbs : Int) = n := by omega
      rw [Number.ofLiteral, Digits.value_ofNat, if_neg (by simp), if_pos (by simp [hle, hne]), habs]
    rw [Number.printInt, if_pos hn, List.cons_append, scanValue, skipSpace_cons rfl]
    simp only [scanNumber_ofNat true n.natAbs hrest, hliteral]
    rfl
  · have hliteral : Number.ofLiteral false (Digits.ofNat n.natAbs) [] none = .int n := by
      have hlt : n.natAbs < UInt64.size := by omega
      have habs : (n.natAbs : Int) = n := by omega
      rw [Number.ofLiteral, Digits.value_ofNat, if_pos (by simp [hlt]), habs]
    have hscan := scanNumber_ofNat false n.natAbs hrest
    obtain ⟨c, cs, hdigits, hc⟩ := exists_ofNat_eq n.natAbs
    rw [hliteral, hdigits, List.cons_append] at hscan
    rw [Number.printInt, if_neg hn, hdigits, List.cons_append, scanValue_digit hc, hscan]
    rfl

/-! ### Values -/

/-- The values that text keeps. -/
inductive Plain : Json → Prop
  | null : Plain .null
  | bool (b : Bool) : Plain (.bool b)
  | int {n : Int} (low : -(Nat.pow 2 63 : Int) ≤ n) (high : n < UInt64.size) : Plain (.int n)
  | string (s : String) : Plain (.string s)
  | arr {items : List Json} (h : ∀ j ∈ items, Plain j) : Plain (.arr items)
  | object {members : List (String × Json)} (h : ∀ m ∈ members, Plain m.2) : Plain (.object members)

/-- The members of an object as they are written. -/
private def written (members : List (String × Json)) : List (Quoted × Json) :=
  members.map fun (key, value) => (.ofString key, value)

private theorem written_cons (key : String) (value : Json) (members : List (String × Json)) :
    written ((key, value) :: members) = (.ofString key, value) :: written members := rfl

/-- What is printed of `j` is read back as `j`, on any level and before any text that ends it. -/
private def ReadsBack (layout : Layout) (j : Json) : Prop :=
  ∀ level fuel rest, 2 * (printAt layout level j).length ≤ fuel + 1 → Ended rest →
    scanValue (fuel + 1) (printAt layout level j ++ rest) = .ok (j, rest)

/-- A closing bracket cannot be taken for the first character of a value. -/
private theorem Plain.exists_printAt_eq {j : Json} (h : Plain j) (layout : Layout) (level : Nat) :
    ∃ c cs, printAt layout level j = c :: cs ∧ isSpace c = false ∧ c ≠ ']' := by
  cases h with
  | null => exact ⟨_, _, rfl, rfl, by decide⟩
  | bool b => cases b <;> exact ⟨_, _, rfl, rfl, by decide⟩
  | @int n _ _ =>
    by_cases hn : n < 0
    · exact ⟨'-', Digits.ofNat n.natAbs, if_pos hn, rfl, by decide⟩
    · obtain ⟨c, cs, hdigits, hc⟩ := exists_ofNat_eq n.natAbs
      refine ⟨c, cs, (if_neg hn).trans hdigits, isSpace_of_isDigit hc, ?_⟩
      rintro rfl
      cases hc
  | string s => exact ⟨_, _, rfl, rfl, by decide⟩
  | @arr items _ => cases items <;> exact ⟨_, _, rfl, rfl, by decide⟩
  | @object members _ => cases members <;> exact ⟨_, _, rfl, rfl, by decide⟩

private theorem Plain.length_printAt_pos {j : Json} (h : Plain j) (layout : Layout) (level : Nat) :
    0 < (printAt layout level j).length := by
  obtain ⟨c, cs, hstart, -⟩ := h.exists_printAt_eq layout level
  simp [hstart]

/-! ### Steps of the reader -/

private theorem scanItems_last {fuel : Nat} {cs after rest : List Char} {item : Json}
    (hitem : scanValue fuel cs = .ok (item, after)) (hafter : skipSpace after = ']' :: rest) :
    scanItems (fuel + 1) cs = .ok ([item], rest) := by
  rw [scanItems, hitem]
  simp only [bind, Except.bind, hafter]
  rfl

private theorem scanItems_more {fuel : Nat} {cs after more rest : List Char} {item : Json} {items : List Json}
    {c : Char} (hitem : scanValue fuel cs = .ok (item, after)) (hafter : skipSpace after = ',' :: more)
    (hmore : (skipSpace more).head? = some c) (hc : c ≠ ']')
    (hitems : scanItems fuel (skipSpace more) = .ok (items, rest)) :
    scanItems (fuel + 1) cs = .ok (item :: items, rest) := by
  obtain ⟨tail, htail⟩ := List.head?_eq_some_iff.1 hmore
  rw [htail] at hitems
  rw [scanItems, hitem]
  simp only [bind, Except.bind, hafter, htail]
  split
  · rename_i heq
    exact absurd (List.cons.inj heq).1 hc
  · rw [hitems]
    rfl

private theorem scanValue_arr {fuel : Nat} {more rest : List Char} {items : List Json} {c : Char}
    (hmore : (skipSpace more).head? = some c) (hc : c ≠ ']')
    (hitems : scanItems fuel (skipSpace more) = .ok (items, rest)) :
    scanValue (fuel + 1) ('[' :: more) = .ok (.arr items, rest) := by
  obtain ⟨tail, htail⟩ := List.head?_eq_some_iff.1 hmore
  rw [htail] at hitems
  rw [scanValue, skipSpace_cons rfl]
  simp only [htail]
  split
  · rename_i heq
    cases heq
  · rename_i heq
    exact absurd (List.cons.inj heq).1 hc
  · rw [hitems]
    rfl

section

variable {fuel : Nat} {cs text more gap after rest raw : List Char} {value : Json}
  (hopen : skipSpace cs = '"' :: text) (hkey : scanQuoted text = .ok (raw, more)) (hcolon : skipSpace more = ':' :: gap)
  (hvalue : scanValue fuel gap = .ok (value, after))
include hopen hkey hcolon hvalue

private theorem scanMembers_last (hafter : skipSpace after = '}' :: rest) :
    scanMembers (fuel + 1) cs = .ok ([(⟨raw⟩, value)], rest) := by
  rw [scanMembers, hopen]
  simp only [bind, Except.bind, hkey, hcolon, hvalue, hafter]
  rfl

private theorem scanMembers_more {tail next : List Char} {members : List (Quoted × Json)}
    (hafter : skipSpace after = ',' :: tail) (hnext : skipSpace tail = '"' :: next)
    (hmembers : scanMembers fuel (skipSpace tail) = .ok (members, rest)) :
    scanMembers (fuel + 1) cs = .ok ((⟨raw⟩, value) :: members, rest) := by
  rw [hnext] at hmembers
  rw [scanMembers, hopen]
  simp only [bind, Except.bind, hkey, hcolon, hvalue, hafter, hnext]
  split
  · rename_i heq
    cases heq
  · rw [hmembers]
    rfl

end

private theorem scanValue_obj {fuel : Nat} {more next rest : List Char} {members : List (Quoted × Json)}
    (hnext : skipSpace more = '"' :: next) (hmembers : scanMembers fuel (skipSpace more) = .ok (members, rest)) :
    scanValue (fuel + 1) ('{' :: more) = .ok (.obj members, rest) := by
  rw [hnext] at hmembers
  rw [scanValue, skipSpace_cons rfl]
  simp only [hnext]
  split
  · rename_i heq
    cases heq
  · rename_i heq
    cases heq
  · rw [hmembers]
    rfl

section

variable {layout : Layout} (hlayout : layout.Blank) {blanks : List Char} (hblanks : ∀ c ∈ blanks, isSpace c = true)
include hlayout

private theorem exists_head?_printItems {item : Json} (h : Plain item) (items : List Json) (level : Nat)
    (tail : List Char) :
    ∃ c, (skipSpace (printItems layout level (item :: items) ++ tail)).head? = some c ∧ c ≠ ']' := by
  obtain ⟨c, cs, hstart, hspace, hc⟩ := h.exists_printAt_eq layout level
  refine ⟨c, ?_, hc⟩
  simp only [printItems, hstart, List.append_assoc, List.cons_append]
  rw [skipSpace_append (hlayout.newline level), skipSpace_cons hspace]
  rfl

private theorem skipSpace_printMembers (key : String) (value : Json) (members : List (Quoted × Json)) (level : Nat)
    (tail : List Char) :
    skipSpace (printMembers layout level ((.ofString key, value) :: members) ++ tail) =
      '"' :: ((Quoted.ofString key).raw ++ '"' :: (layout.colon ++ (printAt layout level value ++
        (comma members ++ (printMembers layout level members ++ tail))))) := by
  simp only [printMembers, printQuoted, List.append_assoc, List.cons_append, List.nil_append]
  rw [skipSpace_append (hlayout.newline level), skipSpace_cons rfl]

include hblanks

private theorem scanItems_printItems (level : Nat) (rest : List Char) {items : List Json} (hne : items ≠ [])
    (hplain : ∀ j ∈ items, Plain j) (hread : ∀ j ∈ items, ReadsBack layout j) {fuel : Nat}
    (hfuel : 2 * (printItems layout level items).length + 1 ≤ fuel) :
    scanItems fuel (printItems layout level items ++ (blanks ++ ']' :: rest)) = .ok (items, rest) := by
  induction items generalizing fuel with
  | nil => exact absurd rfl hne
  | cons item items ih =>
    obtain ⟨hitem, hitems⟩ := List.forall_mem_cons.1 hplain
    obtain ⟨hread, hreads⟩ := List.forall_mem_cons.1 hread
    have hpos : 0 < (printAt layout level item).length := hitem.length_printAt_pos layout level
    simp only [printItems, List.length_append] at hfuel
    obtain ⟨fuel, rfl⟩ : ∃ n, fuel = n + 2 := ⟨fuel - 2, by omega⟩
    -- the loop reads the item and then looks at what `after` begins with
    let after := comma items ++ (printItems layout level items ++ (blanks ++ ']' :: rest))
    have htext : printItems layout level (item :: items) ++ (blanks ++ ']' :: rest) =
        layout.newline level ++ (printAt layout level item ++ after) := by
      simp only [printItems, List.append_assoc, after]
    have hvalue (hended : Ended after) :
        scanValue (fuel + 1) (layout.newline level ++ (printAt layout level item ++ after)) = .ok (item, after) := by
      rw [scanValue_append (hlayout.newline level)]
      exact hread level _ after (by omega) hended
    rw [htext]
    cases items with
    | nil =>
      have hended : Ended (blanks ++ ']' :: rest) := ended_append hblanks (by rintro _ ⟨⟩; simp)
      have hclose : skipSpace (blanks ++ ']' :: rest) = ']' :: rest := by
        rw [skipSpace_append hblanks, skipSpace_cons rfl]
      exact scanItems_last (hvalue hended) hclose
    | cons next items =>
      have hnext : Plain next := hitems next List.mem_cons_self
      have hended : Ended after := by rintro _ ⟨⟩; simp
      have hcomma : (comma (next :: items)).length = 1 := rfl
      have hrest := ih (by simp) hitems hreads (show _ ≤ fuel + 1 by omega)
      obtain ⟨c, hhead, hc⟩ := exists_head?_printItems hlayout hnext items level (blanks ++ ']' :: rest)
      obtain ⟨fuel, rfl⟩ : ∃ n, fuel = n + 1 := ⟨fuel - 1, by omega⟩
      rw [← scanItems_skipSpace] at hrest
      exact scanItems_more (hvalue hended) (skipSpace_cons rfl _) hhead hc hrest

private theorem scanMembers_printMembers (level : Nat) (rest : List Char) {members : List (String × Json)}
    (hne : members ≠ []) (hread : ∀ m ∈ members, ReadsBack layout m.2) {fuel : Nat}
    (hfuel : 2 * (printMembers layout level (written members)).length + 1 ≤ fuel) :
    scanMembers fuel (printMembers layout level (written members) ++ (blanks ++ '}' :: rest)) =
      .ok (written members, rest) := by
  induction members generalizing fuel with
  | nil => exact absurd rfl hne
  | cons member members ih =>
    obtain ⟨key, value⟩ := member
    obtain ⟨hread : ReadsBack layout value, hreads⟩ := List.forall_mem_cons.1 hread
    obtain ⟨gap, hcolon, hgap⟩ := hlayout.colon
    simp only [written_cons, printMembers, printQuoted, List.length_append, List.length_cons] at hfuel
    obtain ⟨fuel, rfl⟩ : ∃ n, fuel = n + 2 := ⟨fuel - 2, by omega⟩
    let after := comma (written members) ++ (printMembers layout level (written members) ++ (blanks ++ '}' :: rest))
    have hopen := skipSpace_printMembers hlayout key value (written members) level (blanks ++ '}' :: rest)
    have hkey := scanQuoted_ofString key (layout.colon ++ (printAt layout level value ++ after))
    have hmark : skipSpace (layout.colon ++ (printAt layout level value ++ after)) =
        ':' :: (gap ++ (printAt layout level value ++ after)) := by
      rw [hcolon, List.cons_append, skipSpace_cons rfl]
    have hvalue (hended : Ended after) :
        scanValue (fuel + 1) (gap ++ (printAt layout level value ++ after)) = .ok (value, after) := by
      rw [scanValue_append hgap]
      exact hread level _ after (by omega) hended
    cases members with
    | nil =>
      have hended : Ended (blanks ++ '}' :: rest) := ended_append hblanks (by rintro _ ⟨⟩; simp)
      have hclose : skipSpace (blanks ++ '}' :: rest) = '}' :: rest := by
        rw [skipSpace_append hblanks, skipSpace_cons rfl]
      exact scanMembers_last hopen hkey hmark (hvalue hended) hclose
    | cons next members =>
      have hended : Ended after := by rintro _ ⟨⟩; simp
      have hrest := ih (by simp) hreads (show _ ≤ fuel + 1 by omega)
      rw [← scanMembers_skipSpace] at hrest
      exact scanMembers_more hopen hkey hmark (hvalue hended) (skipSpace_cons rfl _)
        (skipSpace_printMembers hlayout ..) hrest

end

private theorem Plain.readsBack {layout : Layout} (hlayout : layout.Blank) {j : Json} (h : Plain j) :
    ReadsBack layout j := by
  intro level fuel rest hfuel hrest
  induction h generalizing level fuel rest with
  | null => rfl
  | bool b => cases b <;> rfl
  | int hlow hhigh => exact scanValue_printInt hlow hhigh fuel hrest
  | string s =>
    have hquoted := scanQuoted_ofString s rest
    have htext : printAt layout level (.string s) ++ rest = '"' :: ((Quoted.ofString s).raw ++ '"' :: rest) := by
      simp [Json.string, printAt, printQuoted]
    rw [htext, scanValue, skipSpace_cons rfl]
    simp only [hquoted]
    rfl
  | @arr items h ih =>
    cases items with
    | nil => rfl
    | cons item items =>
      have htext : printAt layout level (.arr (item :: items)) ++ rest =
          '[' :: (printItems layout (level + 1) (item :: items) ++ (layout.newline level ++ ']' :: rest)) := by
        simp [printAt]
      have hlength := congrArg List.length htext
      simp only [List.length_cons, List.length_append] at hlength
      obtain ⟨fuel, rfl⟩ : ∃ n, fuel = n + 2 := ⟨fuel - 2, by omega⟩
      have hitems := scanItems_printItems hlayout (hlayout.newline level) (level + 1) rest (by simp) h ih
        (show _ ≤ fuel + 2 by omega)
      obtain ⟨c, hhead, hc⟩ := exists_head?_printItems hlayout (h item List.mem_cons_self) items (level + 1)
        (layout.newline level ++ ']' :: rest)
      rw [← scanItems_skipSpace] at hitems
      rw [htext]
      exact scanValue_arr hhead hc hitems
  | @object members h ih =>
    cases members with
    | nil => rfl
    | cons member members =>
      obtain ⟨key, value⟩ := member
      have htext : printAt layout level (.object ((key, value) :: members)) ++ rest =
          '{' :: (printMembers layout (level + 1) (written ((key, value) :: members)) ++
            (layout.newline level ++ '}' :: rest)) := by
        simp [Json.object, printAt, written]
      have hlength := congrArg List.length htext
      simp only [List.length_cons, List.length_append] at hlength
      obtain ⟨fuel, rfl⟩ : ∃ n, fuel = n + 1 := ⟨fuel - 1, by omega⟩
      have hmembers := scanMembers_printMembers hlayout (hlayout.newline level) (level + 1) rest (by simp) ih
        (show _ ≤ fuel + 1 by omega)
      rw [← scanMembers_skipSpace] at hmembers
      rw [htext]
      exact scanValue_obj (skipSpace_printMembers hlayout ..) hmembers

private theorem Plain.read?_printAt {layout : Layout} (hlayout : layout.Blank) {j : Json} (h : Plain j)
    {blanks : List Char} (hblanks : ∀ c ∈ blanks, isSpace c = true) :
    read? (String.ofList (printAt layout 0 j ++ blanks)) = some j := by
  have hended : Ended (blanks ++ []) := ended_append hblanks (by simp [Ended])
  have hrest : skipSpace (blanks ++ []) = [] := skipSpace_append hblanks []
  rw [List.append_nil] at hended hrest
  have hscan := h.readsBack hlayout 0 (2 * (printAt layout 0 j ++ blanks).length + 1) blanks
    (by rw [List.length_append]; omega) hended
  rw [read?, String.toList_ofList, read, hscan]
  simp only [bind, Except.bind, hrest]
  rfl

theorem Plain.read?_compress {j : Json} (h : Plain j) : read? j.compress = some j := by
  have hread := h.read?_printAt Layout.blank_compact (List.forall_mem_nil _)
  rwa [List.append_nil] at hread

/-- Blanks may follow the value. -/
theorem Plain.read?_pretty_append {j : Json} (h : Plain j) {blanks : String}
    (hblanks : ∀ c ∈ blanks.toList, isSpace c = true) : read? (j.pretty ++ blanks) = some j := by
  have hread := h.read?_printAt Layout.blank_indented hblanks
  rwa [String.ofList_append, String.ofList_toList] at hread

end Json

end FluxQuery
