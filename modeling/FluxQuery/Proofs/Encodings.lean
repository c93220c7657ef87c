import FluxQuery.Text.Base64
import FluxQuery.Text.Utf8
import Mathlib.Tactic.IntervalCases

/-!
# Texts through bytes

Reading back what was written: `Utf8.decode_encode` for a text as bytes, one character after the other, and
`Base64.decode_encode` for bytes as symbols. The second is proved on the values of the symbols, six bits each
(`Base64.sextets`): joining them gives the bytes back, the padding fills the last group, and the bits of its last
symbol that belong to no byte are zero.
-/

namespace FluxQuery

/-! ### UTF-8 -/

namespace Utf8

private theorem toNat_ofNat {n : Nat} (h : n < 256) : (UInt8.ofNat n).toNat = n := UInt8.toNat_ofNat_of_lt' h

private theorem start_one {n : Nat} (h : n ≤ 0x7F) : start (UInt8.ofNat n) = .char (Char.ofNat n) := by
  have hn : (UInt8.ofNat n).toNat = n := toNat_ofNat (by omega)
  have hlt : UInt8.ofNat n < 0x80 := UInt8.lt_iff_toNat_lt.2 (by rw [hn]; exact Nat.lt_succ_of_le h)
  unfold start
  rw [if_pos hlt, hn]

private theorem start_two {n : Nat} (hlow : 2 ≤ n) (h : n < 0x20) :
    start (UInt8.ofNat (n + 0xC0)) = .pending ⟨1, 0x80, 0xBF, n, 1⟩ := by
  interval_cases n <;> rfl

private theorem start_three {n : Nat} (h : n < 0x10) : start (UInt8.ofNat (n + 0xE0)) =
    .pending ⟨2, if n = 0 then 0xA0 else 0x80, if n = 0xD then 0x9F else 0xBF, n, 1⟩ := by
  interval_cases n <;> rfl

private theorem start_four {n : Nat} (h : n ≤ 4) : start (UInt8.ofNat (n + 0xF0)) =
    .pending ⟨3, if n = 0 then 0x90 else 0x80, if n = 4 then 0x8F else 0xBF, n, 1⟩ := by
  interval_cases n <;> rfl

/-- A byte that carries six bits more. -/
private theorem Pending.next_continuation {p : Pending} {n : Nat} (hn : n < 0x40) (hlow : p.low.toNat ≤ n + 0x80)
    (hhigh : n + 0x80 ≤ p.high.toNat) :
    p.next (UInt8.ofNat (n + 0x80)) = if p.owed ≤ 1 then .char (Char.ofNat (p.code * 64 + n))
      else .pending ⟨p.owed - 1, 0x80, 0xBF, p.code * 64 + n, p.seen + 1⟩ := by
  have hb : (UInt8.ofNat (n + 0x80)).toNat = n + 0x80 := toNat_ofNat (by omega)
  have hbits : (UInt8.ofNat (n + 0x80) - 0x80).toNat = n := by
    rw [UInt8.toNat_sub_of_le _ _ (UInt8.le_iff_toNat_le.2 (by rw [hb]; exact Nat.le_add_left _ _)), hb]
    exact Nat.add_sub_cancel n 0x80
  have hrange : (decide (p.low ≤ UInt8.ofNat (n + 0x80)) && decide (UInt8.ofNat (n + 0x80) ≤ p.high)) = true := by
    simp only [Bool.and_eq_true, decide_eq_true_eq, UInt8.le_iff_toNat_le, hb]
    exact ⟨hlow, hhigh⟩
  unfold Pending.next
  rw [if_pos hrange, hbits]

private theorem decodeFrom_start {b : UInt8} {p : Pending} (h : start b = .pending p) (index : Nat)
    (rest : List UInt8) : decodeFrom index none (b :: rest) = decodeFrom (index + 1) (some p) rest := by
  rw [decodeFrom, Option.elim_none, h]

private theorem decodeFrom_more {p : Pending} {n : Nat} (howed : ¬ p.owed ≤ 1) (hn : n < 0x40)
    (hlow : p.low.toNat ≤ n + 0x80) (hhigh : n + 0x80 ≤ p.high.toNat) (index : Nat) (rest : List UInt8) :
    decodeFrom index (some p) (UInt8.ofNat (n + 0x80) :: rest) =
      decodeFrom (index + 1) (some ⟨p.owed - 1, 0x80, 0xBF, p.code * 64 + n, p.seen + 1⟩) rest := by
  rw [decodeFrom, Option.elim_some, Pending.next_continuation hn hlow hhigh, if_neg howed]

private theorem decodeFrom_last {p : Pending} {n : Nat} (howed : p.owed ≤ 1) (hn : n < 0x40)
    (hlow : p.low.toNat ≤ n + 0x80) (hhigh : n + 0x80 ≤ p.high.toNat) (index : Nat) (rest : List UInt8) :
    decodeFrom index (some p) (UInt8.ofNat (n + 0x80) :: rest) =
      (decodeFrom (index + 1) none rest).map (Char.ofNat (p.code * 64 + n) :: ·) := by
  rw [decodeFrom, Option.elim_some, Pending.next_continuation hn hlow hhigh, if_pos howed]

private theorem toNat_high : (0xBF : UInt8).toNat = 0xBF := rfl

private theorem decodeFrom_one {v : Nat} (h : v ≤ 0x7F) (index : Nat) (rest : List UInt8) :
    decodeFrom index none (UInt8.ofNat v :: rest) = (decodeFrom (index + 1) none rest).map (Char.ofNat v :: ·) := by
  rw [decodeFrom, Option.elim_none, start_one h]

private theorem decodeFrom_two {v : Nat} (hlow : 0x7F < v) (hhigh : v ≤ 0x7FF) (index : Nat) (rest : List UInt8) :
    decodeFrom index none (UInt8.ofNat (v / 64 % 0x20 + 0xC0) :: UInt8.ofNat (v % 0x40 + 0x80) :: rest) =
      (decodeFrom (index + 2) none rest).map (Char.ofNat v :: ·) := by
  have hv : v / 64 % 0x20 * 64 + v % 0x40 = v := by omega
  have hlast : v % 0x40 < 0x40 := Nat.mod_lt v (by decide)
  rw [decodeFrom_start (start_two (by omega) (by omega)),
    decodeFrom_last (Nat.le_refl 1) hlast (by simp) (by simp only [toNat_high]; omega), hv]

/-- The byte after the first is bounded below if the bits of that are zero and above if they would begin a
surrogate. -/
private theorem decodeFrom_three {v : Nat} (hlow : 0x7FF < v) (hhigh : v ≤ 0xFFFF)
    (hvalid : v < 0xD800 ∨ 0xDFFF < v) (index : Nat) (rest : List UInt8) :
    decodeFrom index none (UInt8.ofNat (v / 4096 % 0x10 + 0xE0) :: UInt8.ofNat (v / 64 % 0x40 + 0x80) ::
      UInt8.ofNat (v % 0x40 + 0x80) :: rest) = (decodeFrom (index + 3) none rest).map (Char.ofNat v :: ·) := by
  have hv : (v / 4096 % 0x10 * 64 + v / 64 % 0x40) * 64 + v % 0x40 = v := by omega
  have hmiddle : v / 64 % 0x40 < 0x40 := Nat.mod_lt _ (by decide)
  have hlast : v % 0x40 < 0x40 := Nat.mod_lt v (by decide)
  have hfrom : (if v / 4096 % 0x10 = 0 then (0xA0 : UInt8) else 0x80).toNat ≤ v / 64 % 0x40 + 0x80 := by
    split
    · change 0xA0 ≤ _
      omega
    · exact Nat.le_add_left _ _
  have hto : v / 64 % 0x40 + 0x80 ≤ (if v / 4096 % 0x10 = 0xD then (0x9F : UInt8) else 0xBF).toNat := by
    split
    · change _ ≤ 0x9F
      omega
    · change _ ≤ 0xBF
      omega
  rw [decodeFrom_start (start_three (by omega)), decodeFrom_more (by simp) hmiddle hfrom hto,
    decodeFrom_last (Nat.le_refl 1) hlast (by simp) (by simp only [toNat_high]; omega), hv]

/-- The byte after the first is bounded so that the character needs four bytes and exists. -/
private theorem decodeFrom_four {v : Nat} (hlow : 0xFFFF < v) (hhigh : v < 0x110000) (index : Nat)
    (rest : List UInt8) :
    decodeFrom index none (UInt8.ofNat (v / 262144 % 0x08 + 0xF0) :: UInt8.ofNat (v / 4096 % 0x40 + 0x80) ::
      UInt8.ofNat (v / 64 % 0x40 + 0x80) :: UInt8.ofNat (v % 0x40 + 0x80) :: rest) =
      (decodeFrom (index + 4) none rest).map (Char.ofNat v :: ·) := by
  have hv : ((v / 262144 % 0x08 * 64 + v / 4096 % 0x40) * 64 + v / 64 % 0x40) * 64 + v % 0x40 = v := by omega
  have hsecond : v / 4096 % 0x40 < 0x40 := Nat.mod_lt _ (by decide)
  have hthird : v / 64 % 0x40 < 0x40 := Nat.mod_lt _ (by decide)
  have hlast : v % 0x40 < 0x40 := Nat.mod_lt v (by decide)
  have hfrom : (if v / 262144 % 0x08 = 0 then (0x90 : UInt8) else 0x80).toNat ≤ v / 4096 % 0x40 + 0x80 := by
    split
    · change 0x90 ≤ _
      omega
    · exact Nat.le_add_left _ _
  have hto : v / 4096 % 0x40 + 0x80 ≤ (if v / 262144 % 0x08 = 4 then (0x8F : UInt8) else 0xBF).toNat := by
    split
    · change _ ≤ 0x8F
      omega
    · change _ ≤ 0xBF
      omega
  rw [decodeFrom_start (start_four (by omega)), decodeFrom_more (by simp) hsecond hfrom hto,
    decodeFrom_more (by simp) hthird (by simp) (by simp only [toNat_high]; omega),
    decodeFrom_last (Nat.le_refl 1) hlast (by simp) (by simp only [toNat_high]; omega), hv]

private theorem utf8EncodeChar_eq (c : Char) : String.utf8EncodeChar c =
    if c.toNat ≤ 0x7F then [UInt8.ofNat c.toNat]
    else if c.toNat ≤ 0x7FF then
      [UInt8.ofNat (c.toNat / 64 % 0x20 + 0xC0), UInt8.ofNat (c.toNat % 0x40 + 0x80)]
    else if c.toNat ≤ 0xFFFF then
      [UInt8.ofNat (c.toNat / 4096 % 0x10 + 0xE0), UInt8.ofNat (c.toNat / 64 % 0x40 + 0x80),
        UInt8.ofNat (c.toNat % 0x40 + 0x80)]
    else
      [UInt8.ofNat (c.toNat / 262144 % 0x08 + 0xF0), UInt8.ofNat (c.toNat / 4096 % 0x40 + 0x80),
        UInt8.ofNat (c.toNat / 64 % 0x40 + 0x80), UInt8.ofNat (c.toNat % 0x40 + 0x80)] := rfl

/-- One character is read at a time. -/
private theorem exists_decodeFrom_append (c : Char) (index : Nat) (rest : List UInt8) : ∃ next,
    decodeFrom index none (String.utf8EncodeChar c ++ rest) = (decodeFrom next none rest).map (c :: ·) := by
  have hvalid : c.toNat < 0xD800 ∨ 0xDFFF < c.toNat ∧ c.toNat < 0x110000 := c.valid
  have hc : Char.ofNat c.toNat = c := Char.ofNat_toNat c
  -- the number of bytes depends on the number of the character alone
  rw [utf8EncodeChar_eq]
  generalize c.toNat = v at hvalid hc ⊢
  subst hc
  by_cases h₁ : v ≤ 0x7F
  · rw [if_pos h₁]
    exact ⟨_, decodeFrom_one h₁ _ _⟩
  by_cases h₂ : v ≤ 0x7FF
  · rw [if_neg h₁, if_pos h₂]
    exact ⟨_, decodeFrom_two (by omega) h₂ _ _⟩
  by_cases h₃ : v ≤ 0xFFFF
  · rw [if_neg h₁, if_neg h₂, if_pos h₃]
    exact ⟨_, decodeFrom_three (by omega) h₃ (by omega) _ _⟩
  · rw [if_neg h₁, if_neg h₂, if_neg h₃]
    exact ⟨_, decodeFrom_four (by omega) (by omega) _ _⟩

private theorem decodeFrom_encode (index : Nat) (text : List Char) :
    decodeFrom index none (encode text) = .ok text := by
  induction text generalizing index with
  | nil => rfl
  | cons c rest ih =>
    obtain ⟨next, h⟩ := exists_decodeFrom_append c index (encode rest)
    rw [encode, List.flatMap_cons, ← encode, h, ih]
    rfl

theorem decode_encode (text : List Char) : decode (encode text) = .ok text := decodeFrom_encode 0 text

end Utf8

/-! ### Base64 -/

namespace Base64

/-- The values of the symbols that stand for some bytes, six bits each. -/
def sextets : List UInt8 → List Nat
  | [] => []
  | [a] => [a.toNat / 4, a.toNat % 4 * 16]
  | [a, b] => [a.toNat / 4, a.toNat % 4 * 16 + b.toNat / 16, b.toNat % 16 * 4]
  | a :: b :: c :: rest =>
    a.toNat / 4 :: (a.toNat % 4 * 16 + b.toNat / 16) :: (b.toNat % 16 * 4 + c.toNat / 64) :: c.toNat % 64 ::
      sextets rest

/-- The byte of a value's symbol. -/
def symbolByte (value : Nat) : UInt8 := UInt8.ofNat (symbol value).toNat

/-- How many padding characters fill the last group of some bytes. -/
def padding (bytes : List UInt8) : Nat := (3 - bytes.length % 3) % 3

private theorem lt_of_mem_sextets {bytes : List UInt8} {v : Nat} (h : v ∈ sextets bytes) : v < 64 := by
  induction bytes using sextets.induct with
  | case1 => cases h
  | case2 a =>
    have := a.toNat_lt
    simp only [sextets, List.mem_cons, List.not_mem_nil, or_false] at h
    omega
  | case3 a b =>
    have := a.toNat_lt
    have := b.toNat_lt
    simp only [sextets, List.mem_cons, List.not_mem_nil, or_false] at h
    omega
  | case4 a b c rest ih =>
    have := a.toNat_lt
    have := b.toNat_lt
    have := c.toNat_lt
    simp only [sextets, List.mem_cons] at h
    rcases h with h | h | h | h | h
    · omega
    · omega
    · omega
    · omega
    · exact ih h

private theorem length_sextets (bytes : List UInt8) : (sextets bytes).length = (bytes.length * 4 + 2) / 3 := by
  induction bytes using sextets.induct with
  | case1 => rfl
  | case2 a => simp [sextets]
  | case3 a b => simp [sextets]
  | case4 a b c rest ih =>
    simp only [sextets, List.length_cons, ih]
    omega

theorem join_sextets (bytes : List UInt8) : join (sextets bytes) = bytes := by
  induction bytes using sextets.induct with
  | case1 => rfl
  | case2 a =>
    have h : a.toNat / 4 * 4 + a.toNat % 4 * 16 / 16 = a.toNat := by omega
    simp only [sextets, join, h, UInt8.ofNat_toNat]
  | case3 a b =>
    have hb := b.toNat_lt
    have h₁ : a.toNat / 4 * 4 + (a.toNat % 4 * 16 + b.toNat / 16) / 16 = a.toNat := by omega
    have h₂ : (a.toNat % 4 * 16 + b.toNat / 16) % 16 * 16 + b.toNat % 16 * 4 / 4 = b.toNat := by omega
    simp only [sextets, join, h₁, h₂, UInt8.ofNat_toNat]
  | case4 a b c rest ih =>
    have hb := b.toNat_lt
    have hc := c.toNat_lt
    have h₁ : a.toNat / 4 * 4 + (a.toNat % 4 * 16 + b.toNat / 16) / 16 = a.toNat := by omega
    have h₂ : (a.toNat % 4 * 16 + b.toNat / 16) % 16 * 16 + (b.toNat % 16 * 4 + c.toNat / 64) / 4 = b.toNat := by omega
    have h₃ : (b.toNat % 16 * 4 + c.toNat / 64) % 4 * 64 + c.toNat % 64 = c.toNat := by omega
    simp only [sextets, join, h₁, h₂, h₃, UInt8.ofNat_toNat, ih]

/-- The bits of the last symbol that belong to no byte are zero. -/
private theorem spareBits_sextets (bytes : List UInt8) :
    spareBits ((sextets bytes).drop ((bytes.length - 1) / 3 * 4)) = 0 := by
  induction bytes using sextets.induct with
  | case1 => rfl
  | case2 a => simp [sextets, spareBits]
  | case3 a b => simp [sextets, spareBits]
  | case4 a b c rest ih =>
    cases rest with
    | nil => simp [sextets, spareBits]
    | cons d more =>
      -- the last group is that of the rest
      have h : ((a :: b :: c :: d :: more).length - 1) / 3 * 4 = ((d :: more).length - 1) / 3 * 4 + 4 := by
        simp only [List.length_cons]
        omega
      rw [h, sextets]
      exact ih

/-! ### Symbols of base64 -/

private theorem symbol_law : ∀ v < 64, String.utf8EncodeChar (symbol v) = [symbolByte v] ∧
    value? (symbolByte v) = some v ∧ symbolByte v ≠ pad := by
  decide

private theorem encode_symbol {v : Nat} (h : v < 64) (rest : List Char) :
    Utf8.encode (symbol v :: rest) = symbolByte v :: Utf8.encode rest := by
  rw [Utf8.encode, List.flatMap_cons, (symbol_law v h).1]
  rfl

private theorem encode_pad (rest : List Char) : Utf8.encode ('=' :: rest) = pad :: Utf8.encode rest := rfl

/-- The text of some bytes, as bytes itself. -/
private theorem encode_encode (bytes : List UInt8) :
    Utf8.encode (encode bytes) = (sextets bytes).map symbolByte ++ List.replicate (padding bytes) pad := by
  induction bytes using sextets.induct with
  | case1 => rfl
  | case2 a =>
    have ha := a.toNat_lt
    rw [encode, encode_symbol (by omega), encode_symbol (by omega), encode_pad, encode_pad, sextets]
    rfl
  | case3 a b =>
    have ha := a.toNat_lt
    have hb := b.toNat_lt
    rw [encode, encode_symbol (by omega), encode_symbol (by omega), encode_symbol (by omega), encode_pad, sextets]
    rfl
  | case4 a b c rest ih =>
    have ha := a.toNat_lt
    have hb := b.toNat_lt
    have hc := c.toNat_lt
    have hpadding : padding (a :: b :: c :: rest) = padding rest := by
      simp only [padding, List.length_cons]
      omega
    rw [encode, encode_symbol (by omega), encode_symbol (by omega), encode_symbol (by omega),
      encode_symbol (by omega), ih, sextets, hpadding]
    rfl

private theorem values_map {vs : List Nat} (h : ∀ v ∈ vs, v < 64) (offset : Nat) :
    values offset (vs.map symbolByte) = .ok vs := by
  induction vs generalizing offset with
  | nil => rfl
  | cons v rest ih =>
    rw [List.map_cons, values, (symbol_law v (h v List.mem_cons_self)).2.1]
    simp only [ih fun w hw => h w (List.mem_cons_of_mem v hw)]
    rfl

private theorem lastValues_pads (groupStart : Nat) {i : Nat} (hi : 2 ≤ i) (firstPad : Option Nat) (n : Nat) :
    lastValues groupStart i firstPad (List.replicate n pad) = .ok ([], n) := by
  induction n generalizing i firstPad with
  | zero => rfl
  | succ n ih =>
    rw [List.replicate_succ, lastValues.eq_def]
    simp only [beq_self_eq_true, if_true, if_neg (Nat.not_lt.2 hi), ih (Nat.le_succ_of_le hi)]
    rfl

private theorem lastValues_map {vs : List Nat} (h : ∀ v ∈ vs, v < 64) (groupStart : Nat) {i : Nat}
    (hi : 2 ≤ i + vs.length) (n : Nat) :
    lastValues groupStart i none (vs.map symbolByte ++ List.replicate n pad) = .ok (vs, n) := by
  induction vs generalizing i with
  | nil => exact lastValues_pads groupStart hi none n
  | cons v rest ih =>
    obtain ⟨-, hvalue, hpad⟩ := symbol_law v (h v List.mem_cons_self)
    have hrest := ih (fun w hw => h w (List.mem_cons_of_mem v hw)) (i := i + 1) (by rw [List.length_cons] at hi; omega)
    rw [List.map_cons, List.cons_append, lastValues, if_neg (by simpa using hpad)]
    simp only [hvalue, hrest]
    rfl

private theorem decodeLast_map {vs : List Nat} (h : ∀ v ∈ vs, v < 64) (groupStart : Nat) {n : Nat}
    (htwo : 2 ≤ vs.length) (hfour : (vs.length + n) % 4 = 0) (hspare : spareBits vs = 0) :
    decodeLast groupStart (vs.map symbolByte ++ List.replicate n pad) = .ok vs := by
  unfold decodeLast
  rw [lastValues_map h groupStart (by omega)]
  simp only [bind, Except.bind, if_neg (Nat.not_lt.2 htwo), hfour, hspare]
  rfl

/-- Full groups, and a last one that padding fills. -/
private theorem decode_groups {first last : List Nat} {n : Nat} (hfirst : ∀ v ∈ first, v < 64)
    (hlast : ∀ v ∈ last, v < 64) (hfour : first.length % 4 = 0) (htwo : 2 ≤ last.length)
    (hgroup : last.length + n = 4) (hspare : spareBits last = 0) :
    decode (first.map symbolByte ++ (last.map symbolByte ++ List.replicate n pad)) = .ok (join (first ++ last)) := by
  have hlength : (first.map symbolByte ++ (last.map symbolByte ++ List.replicate n pad)).length = first.length + 4 := by
    simp only [List.length_append, List.length_map, List.length_replicate, hgroup]
  have hstart : (first.length + 4 - 1) / 4 * 4 = (first.map symbolByte).length := by
    rw [List.length_map]
    omega
  have hone : ((first.length + 4) % 4 == 1) = false := by
    rw [beq_eq_false_iff_ne]
    omega
  unfold decode
  split
  · rename_i hnone
    rw [List.getLast?_eq_none_iff] at hnone
    rw [hnone] at hlength
    exact absurd hlength (by simp)
  · simp only [hlength, hone, hstart, List.take_left, List.drop_left, values_map hfirst,
      decodeLast_map hlast _ htwo (congrArg (· % 4) hgroup) hspare]
    rfl

theorem decode_encode (bytes : List UInt8) : decode (Utf8.encode (encode bytes)) = .ok bytes := by
  by_cases hempty : bytes = []
  · rw [hempty]
    rfl
  -- `full` groups of three bytes, and a last one of `rest + 1`
  obtain ⟨full, rest, hrest, hbytes⟩ : ∃ full rest, rest < 3 ∧ bytes.length = 3 * full + rest + 1 := by
    have hpos : 0 < bytes.length := List.length_pos_iff.2 hempty
    exact ⟨(bytes.length - 1) / 3, (bytes.length - 1) % 3, by omega, by omega⟩
  have hlength : (sextets bytes).length = 4 * full + rest + 2 := by
    rw [length_sextets]
    omega
  have hpadding : padding bytes = 2 - rest := by
    rw [padding]
    omega
  have hspare : spareBits ((sextets bytes).drop (4 * full)) = 0 := by
    have hstart : (bytes.length - 1) / 3 * 4 = 4 * full := by omega
    rw [← hstart]
    exact spareBits_sextets bytes
  have hlt : ∀ v ∈ sextets bytes, v < 64 := fun _ => lt_of_mem_sextets
  have hdrop : ((sextets bytes).drop (4 * full)).length = rest + 2 := by
    rw [List.length_drop]
    omega
  have htake : ((sextets bytes).take (4 * full)).length = 4 * full := List.length_take_of_le (by omega)
  have hdecode := @decode_groups _ _ (padding bytes) (fun v hv => hlt v (List.mem_of_mem_take hv))
    (fun v hv => hlt v (List.mem_of_mem_drop hv)) (by rw [htake, Nat.mul_mod_right]) (by omega) (by omega) hspare
  rw [← List.append_assoc, ← List.map_append, List.take_append_drop, join_sextets] at hdecode
  rw [encode_encode]
  exact hdecode

end Base64

end FluxQuery
