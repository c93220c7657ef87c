import FluxQuery.Filter.Codec
import FluxQuery.Proofs.Case
import FluxQuery.Proofs.JsonText
import FluxQuery.Proofs.Tree

/-!
# Filters through JSON

What is written of a filter is read back as the same filter if its text is nested no deeper than a decoder goes, and is
refused otherwise. Every writer of `FluxQuery.Filter.Codec` is matched with its reader by `Json.Encodes`, which says
exactly where the nesting that is left stops being enough.
-/

namespace FluxQuery

open Json

namespace Json

/-! ### Nesting -/

mutual

/-- How deep arrays and objects are nested. -/
def nesting : Json → Nat
  | .arr items => nestingOfItems items + 1
  | .obj members => nestingOfMembers members + 1
  | _ => 0

def nestingOfItems : List Json → Nat
  | [] => 0
  | item :: items => max item.nesting (nestingOfItems items)

def nestingOfMembers : List (Quoted × Json) → Nat
  | [] => 0
  | (_, value) :: members => max value.nesting (nestingOfMembers members)

end

theorem nesting_arr_le_iff {items : List Json} {depth : Nat} :
    (Json.arr items).nesting ≤ depth + 1 ↔ ∀ j ∈ items, j.nesting ≤ depth := by
  rw [nesting, Nat.add_le_add_iff_right]
  induction items with
  | nil => simp [nestingOfItems]
  | cons item items ih => rw [nestingOfItems, Nat.max_le, ih, List.forall_mem_cons]

theorem nesting_object_le_iff {members : List (String × Json)} {depth : Nat} :
    (object members).nesting ≤ depth + 1 ↔ ∀ m ∈ members, m.2.nesting ≤ depth := by
  rw [object, nesting, Nat.add_le_add_iff_right]
  induction members with
  | nil => simp [nestingOfMembers]
  | cons member members ih => rw [List.map_cons, nestingOfMembers, Nat.max_le, ih, List.forall_mem_cons]

/-! ### Decoders that undo an encoder -/

/-- `j` stands for `x`: text keeps it, and `decode` has `x` from it exactly if the nesting that is left is enough. -/
structure Encodes {α : Type} (decode : Nat → Json → Option α) (j : Json) (x : α) : Prop where
  plain : Plain j
  decode_eq : ∀ depth, decode depth j = if j.nesting ≤ depth then some x else none

/-- A decoder that never looks into arrays and objects. -/
theorem Encodes.flat {α : Type} {decode : Json → Option α} {j : Json} {x : α} (hplain : Plain j)
    (hnesting : j.nesting = 0) (h : decode j = some x) : Encodes (fun _ => decode) j x where
  plain := hplain
  decode_eq depth := by rw [h, if_pos (by omega)]

theorem encodes_object {α : Type} {decode : Nat → Json → Option α} {members : List (String × Json)} {x : α}
    (hplain : ∀ m ∈ members, Plain m.2) (hzero : decode 0 (object members) = none)
    (hsucc : ∀ depth, decode (depth + 1) (object members) =
      if ∀ m ∈ members, m.2.nesting ≤ depth then some x else none) : Encodes decode (object members) x where
  plain := .object hplain
  decode_eq depth := by
    cases depth with
    | zero => rw [hzero, if_neg (by simp [object, nesting])]
    | succ depth => rw [hsucc, if_congr nesting_object_le_iff.symm rfl rfl]

/-- An object of one member, decoded as far as that member. -/
theorem Encodes.single {α β : Type} {inner : Nat → Json → Option α} {j : Json} {x : α} (h : Encodes inner j x)
    (make : α → β) {decode : Nat → Json → Option β} {name : String} (hzero : decode 0 (object [(name, j)]) = none)
    (hsucc : ∀ depth, decode (depth + 1) (object [(name, j)]) = (inner depth j).map make) :
    Encodes decode (object [(name, j)]) (make x) := by
  refine encodes_object (by simpa using h.plain) hzero fun depth => ?_
  rw [hsucc, h.decode_eq]
  by_cases hdepth : j.nesting ≤ depth <;> simp [hdepth]

/-- An object of two members, decoded as far as both of them. -/
theorem Encodes.pair {α β γ : Type} {left : Nat → Json → Option α} {right : Nat → Json → Option β} {j k : Json}
    {x : α} {y : β} (hx : Encodes left j x) (hy : Encodes right k y) (make : α → β → γ)
    {decode : Nat → Json → Option γ} {first second : String}
    (hzero : decode 0 (object [(first, j), (second, k)]) = none)
    (hsucc : ∀ depth, decode (depth + 1) (object [(first, j), (second, k)]) =
      (do return make (← left depth j) (← right depth k))) :
    Encodes decode (object [(first, j), (second, k)]) (make x y) := by
  refine encodes_object (by simpa using ⟨hx.plain, hy.plain⟩) hzero fun depth => ?_
  rw [hsucc, hx.decode_eq, hy.decode_eq]
  by_cases hj : j.nesting ≤ depth <;> by_cases hk : k.nesting ≤ depth <;> simp [hj, hk]

private theorem mapM_eq_ite {α β γ : Type} {f : α → Option β} {g : γ → α} {r : γ → β} {p : γ → Prop} [DecidablePred p]
    {l : List γ} (h : ∀ x ∈ l, f (g x) = if p x then some (r x) else none) :
    (l.map g).mapM f = if ∀ x ∈ l, p x then some (l.map r) else none := by
  induction l with
  | nil => rfl
  | cons x l ih =>
    obtain ⟨hx, hl⟩ := List.forall_mem_cons.1 h
    rw [List.map_cons, List.mapM_cons, hx, ih hl]
    by_cases hp : p x
    · by_cases hall : ∀ y ∈ l, p y
      · rw [if_pos hp, if_pos hall, if_pos (List.forall_mem_cons.2 ⟨hp, hall⟩)]
        rfl
      · rw [if_pos hp, if_neg hall, if_neg fun h => hall (List.forall_mem_cons.1 h).2]
        rfl
    · rw [if_neg hp, if_neg fun h => hp (List.forall_mem_cons.1 h).1]
      rfl

theorem encodes_list {α : Type} {encode : α → Json} {decode : Nat → Json → Option α} {xs : List α}
    (h : ∀ x ∈ xs, Encodes decode (encode x) x) : Encodes (asList? decode) (.arr (xs.map encode)) xs where
  plain := .arr (List.forall_mem_map.2 fun x hx => (h x hx).plain)
  decode_eq depth := by
    cases depth with
    | zero => rw [if_neg (by simp [nesting])]; rfl
    | succ depth =>
      have hitems := mapM_eq_ite fun x hx => (h x hx).decode_eq depth
      rw [asList?, hitems, List.map_id', if_congr nesting_arr_le_iff rfl rfl]
      simp only [List.forall_mem_map]

private theorem foldl_insert_toList {κ α : Type} [DecidableEq κ] [Ord κ] [Std.TransOrd κ] [Std.LawfulEqOrd κ]
    (table : Std.ExtTreeMap κ α) : table.toList.foldl (fun table (k, v) => table.insert k v) ∅ = table := by
  have hmany : ∀ (l : List (κ × α)) (t : Std.ExtTreeMap κ α),
      l.foldl (fun table (k, v) => table.insert k v) t = t.insertMany l := by
    intro l
    induction l with
    | nil => intro t; simp
    | cons entry l ih => intro t; rw [List.foldl_cons, ih, ← Std.ExtTreeMap.insertMany_cons]
  rw [hmany, ← Std.ExtTreeMap.ofList_eq_insertMany_empty]
  refine Std.ExtTreeMap.ext_getElem? fun k => ?_
  cases hk : table[k]? with
  | some v =>
    have hmem := Std.ExtTreeMap.mem_toList_iff_getElem?_eq_some.2 hk
    exact Std.ExtTreeMap.getElem?_ofList_of_mem Std.ReflCmp.compare_self table.distinct_keys_toList hmem
  | none =>
    have hfresh : (table.toList.map Prod.fst).contains k = false := by
      rw [Bool.eq_false_iff, ne_eq, List.contains_iff_mem]
      intro hmem
      obtain ⟨entry, hentry, rfl⟩ := List.mem_map.1 hmem
      rw [Std.ExtTreeMap.mem_toList_iff_getElem?_eq_some.1 hentry] at hk
      cases hk
    rw [Std.ExtTreeMap.getElem?_ofList_of_contains_eq_false hfresh]

/-- A table is restored if its keys are told apart by their names. -/
theorem encodes_table {κ α : Type} [DecidableEq κ] [Ord κ] [Std.TransOrd κ] [Std.LawfulEqOrd κ]
    {key : Quoted → Option κ} {name : κ → String} (hkey : ∀ k, key (.ofString (name k)) = some k) {encode : α → Json}
    {decode : Nat → Json → Option α} (h : ∀ x, Encodes decode (encode x) x) (table : Std.ExtTreeMap κ α) :
    Encodes (asTable? key decode) (ofTable name encode table) table := by
  refine encodes_object (List.forall_mem_map.2 fun entry _ => (h entry.2).plain) rfl fun depth => ?_
  let entryOf (m : Quoted × Json) : Option (κ × α) := do return (← key m.1, ← decode depth m.2)
  have hentry : ∀ entry ∈ table.toList, entryOf (.ofString (name entry.1), encode entry.2) =
      if (encode entry.2).nesting ≤ depth then some entry else none := by
    intro entry _
    simp only [entryOf, hkey, (h entry.2).decode_eq]
    by_cases hdepth : (encode entry.2).nesting ≤ depth <;> simp [hdepth]
  have hentries := mapM_eq_ite hentry
  rw [List.map_id'] at hentries
  have hobject : ofTable name encode table =
      .obj (table.toList.map fun entry => (.ofString (name entry.1), encode entry.2)) := by
    rw [ofTable, object, List.map_map]
    rfl
  show asTable? key decode (depth + 1) (ofTable name encode table) = _
  rw [hobject, asTable?]
  show ((List.map _ _).mapM entryOf).bind _ = _
  rw [hentries]
  simp only [List.forall_mem_map]
  split
  · exact congrArg some (foldl_insert_toList table)
  · rfl

/-! ### Fields and alternatives -/

private theorem keyed?_ofString (members : List (String × Json)) :
    keyed? (members.map fun (k, v) => (.ofString k, v)) = some members := by
  induction members with
  | nil => rfl
  | cons member members ih =>
    rw [keyed?] at ih ⊢
    simp [List.mapM_cons, ih]

private theorem sole?_of_mem {members : List (String × Json)} (hnodup : (members.map Prod.fst).Nodup)
    {m : String × Json} (h : m ∈ members) : sole? m.1 members = some (some m.2) := by
  have hfilter : members.filter (·.1 == m.1) = [m] := by
    induction members with
    | nil => cases h
    | cons member members ih =>
      obtain ⟨hfresh, hnodup⟩ := List.nodup_cons.1 hnodup
      rcases List.mem_cons.1 h with rfl | h
      · have hnone : members.filter (·.1 == m.1) = [] := by
          rw [List.filter_eq_nil_iff]
          intro other hother heq
          exact hfresh (List.mem_map.2 ⟨other, hother, by simpa using heq⟩)
        rw [List.filter_cons_of_pos (by simp), hnone]
      · have hne : member.1 ≠ m.1 := fun heq => hfresh (heq ▸ List.mem_map.2 ⟨m, h, rfl⟩)
        rw [List.filter_cons_of_neg (by simpa using hne), ih hnodup h]
  rw [sole?, hfilter]

/-- A record is taken apart into the fields that it was written with. -/
theorem asFields?_object {members : List (String × Json)} (hnodup : (members.map Prod.fst).Nodup) :
    asFields? (members.map Prod.fst) (object members) = some (members.map (some ·.2)) := by
  have hsole : ∀ m ∈ members, sole? m.1 members = if True then some (some m.2) else none := by
    intro m hm
    rw [if_pos trivial, sole?_of_mem hnodup hm]
  have hfields : (members.map Prod.fst).mapM (sole? · members) = _ := mapM_eq_ite hsole
  rw [if_pos fun _ _ => trivial] at hfields
  rw [object, asFields?, keyed?_ofString]
  exact hfields

theorem asVariant?_object (name : String) (payload : Json) :
    asVariant? (object [(name, payload)]) = some (name, some payload) := by
  simp [object, asVariant?]

theorem asName?_string (depth : Nat) (s : String) : asName? depth (.string s) = some s := by
  simp [Json.string, asName?, asVariant?]

theorem encodes_string (s : String) : Encodes (fun _ => asString?) (.string s) s :=
  .flat (.string s) rfl (Quoted.text?_ofString s)

theorem encodes_bool (b : Bool) : Encodes (fun _ => asBool?) (.bool b) b :=
  .flat (.bool b) rfl rfl

theorem encodes_uint64 (n : UInt64) : Encodes (fun _ => asUInt64?) (.nat n.toNat) n := by
  have hlt : n.toNat < UInt64.size := n.toNat_lt
  refine .flat (.int (by omega) (by omega)) rfl ?_
  rw [asUInt64?, Json.nat, asInt?, if_pos (by omega)]
  simp

theorem encodes_byte (b : UInt8) : Encodes (fun _ => asByte?) (.nat b.toNat) b := by
  have hlt : b.toNat < 256 := b.toNat_lt
  have hsize : 256 ≤ UInt64.size := by decide
  refine .flat (.int (by omega) (by omega)) rfl ?_
  rw [asByte?, Json.nat, asInt?, if_pos (by omega)]
  simp

theorem encodes_int64 (n : Int64) : Encodes (fun _ => asInt64?) (.int n.toInt) n := by
  have hlow := n.minValue_le_toInt
  have hhigh := n.toInt_le
  have hmin : Int64.minValue.toInt = -(Nat.pow 2 63 : Int) := rfl
  have hmax : Int64.maxValue.toInt < (UInt64.size : Int) := by decide
  refine .flat (.int (by omega) (by omega)) rfl ?_
  rw [asInt64?, Json.int, asInt?, if_pos ⟨hlow, hhigh⟩]
  simp

theorem encodes_int32 (n : Int32) : Encodes (fun _ => asInt32?) (.int n.toInt) n := by
  have hlow := n.minValue_le_toInt
  have hhigh := n.toInt_le
  have hmin : -(Nat.pow 2 63 : Int) ≤ Int32.minValue.toInt := by decide
  have hmax : Int32.maxValue.toInt < (UInt64.size : Int) := by decide
  refine .flat (.int (by omega) (by omega)) rfl ?_
  rw [asInt32?, Json.int, asInt?, if_pos ⟨hlow, hhigh⟩]
  simp

end Json

/-! ### Types and literals -/

private theorem Quoted.raw_ofString_toString (n : Nat) : (Quoted.ofString (toString n)).raw = Digits.ofNat n := by
  have htext : (toString n).toList = Digits.ofNat n := by
    simp [Digits.ofNat, Nat.repr]
  have hescape : ∀ c ∈ Digits.ofNat n, escape c = [c] := by
    intro c hc
    have hdigit := Digits.isDigit_of_mem_ofNat hc
    have hrange := isDigit_iff.1 hdigit
    unfold escape
    repeat rw [if_neg (by rintro rfl; cases hdigit)]
    rw [if_neg (by omega)]
  rw [ofString, htext]
  exact (List.flatMap_congr hescape).trans (List.flatMap_singleton' _)

private theorem TypeTable.keyOf?_ofString (id : NodeId) : keyOf? (.ofString (toString id.toNat)) = some id := by
  have hdigits : (Digits.ofNat id.toNat).all Char.isDigit = true :=
    List.all_eq_true.2 fun _ h => Digits.isDigit_of_mem_ofNat h
  have hlt : id.toNat < UInt64.size := id.toNat_lt
  simp only [keyOf?, Quoted.raw_ofString_toString, Digits.value_ofNat, hdigits]
  simp [hlt]

theorem Scalar.encodes (kind : Scalar) : Encodes Scalar.ofJson? (.string kind.name) kind where
  plain := .string _
  decode_eq depth := by
    rw [ofJson?, asName?_string]
    cases kind <;> rfl

theorem WellKnown.encodes (kind : WellKnown) : Encodes WellKnown.ofJson? (.string kind.name) kind where
  plain := .string _
  decode_eq depth := by
    rw [ofJson?, asName?_string]
    cases kind <;> rfl

theorem Ty.encodes (t : Ty) : Encodes Ty.ofJson? t.toJson t := by
  induction t with
  | scalar kind =>
    refine kind.encodes.single _ rfl fun depth => ?_
    simp only [ofJson?, asVariant?_object]
  | message name =>
    refine (encodes_string name).single _ rfl fun depth => ?_
    simp only [ofJson?, asVariant?_object]
  | wellKnown kind =>
    refine kind.encodes.single _ rfl fun depth => ?_
    simp only [ofJson?, asVariant?_object]
  | list item ih =>
    refine ih.single _ rfl fun depth => ?_
    simp only [ofJson?, asVariant?_object]

theorem TypeTable.encodes (table : TypeTable) : Encodes TypeTable.ofJson? table.toJson table :=
  encodes_table TypeTable.keyOf?_ofString Ty.encodes table

/-- An object under another name is never taken for `null`. -/
private theorem Json.asName?_object_ne {name : String} (h : name ≠ "null") (depth : Nat) (payload : Json) :
    asName? depth (object [(name, payload)]) ≠ some "null" := by
  have hvariant : asVariant? (.obj [(.ofString name, payload)]) = some (name, some payload) :=
    asVariant?_object name payload
  show asName? depth (.obj [(.ofString name, payload)]) ≠ some "null"
  cases payload with
  | null => by_cases hdepth : 0 < depth <;> simp [asName?, hvariant, hdepth, h]
  | _ => simp [asName?, hvariant]

namespace Literal

private theorem ofJson?_zero {name : String} (h : name ≠ "null") (payload : Json) :
    ofJson? 0 (object [(name, payload)]) = none := by
  unfold ofJson?
  rw [if_neg (asName?_object_ne h _ _)]

theorem encodes {l : Literal} (h : ∀ d, l ≠ .double d) : Encodes Literal.ofJson? l.toJson l := by
  cases l with
  | null =>
    refine ⟨.string _, fun depth => ?_⟩
    unfold ofJson?
    rw [toJson, asName?_string]
    rfl
  | bool b =>
    refine (encodes_bool b).single _ (ofJson?_zero (by decide) _) fun depth => ?_
    simp [ofJson?, asName?_object_ne, asVariant?_object]
  | int n =>
    refine (encodes_int64 n).single _ (ofJson?_zero (by decide) _) fun depth => ?_
    simp [ofJson?, asName?_object_ne, asVariant?_object]
  | uint n =>
    refine (encodes_uint64 n).single _ (ofJson?_zero (by decide) _) fun depth => ?_
    simp [ofJson?, asName?_object_ne, asVariant?_object]
  | double d => exact absurd rfl (h d)
  | string s =>
    refine (encodes_string s).single _ (ofJson?_zero (by decide) _) fun depth => ?_
    simp [ofJson?, asName?_object_ne, asVariant?_object]
  | bytes bs =>
    refine (encodes_list fun b _ => encodes_byte b).single _ (ofJson?_zero (by decide) _) fun depth => ?_
    simp [ofJson?, asName?_object_ne, asVariant?_object]

end Literal

/-! ### Expressions -/

namespace Expr

private theorem toJsons_eq (es : List Expr) : toJsons es = es.map toJson := by
  induction es with
  | nil => rfl
  | cons e es ih => rw [toJsons, ih, List.map_cons]

private theorem ofItems?_eq : ofItems? = asList? ofJson? := by
  funext depth j
  cases depth <;> cases j <;> rfl

private theorem encodes_items {es : List Expr} (h : ∀ e ∈ es, Encodes ofJson? e.toJson e) :
    Encodes ofItems? (.arr (toJsons es)) es := by
  rw [ofItems?_eq, toJsons_eq]
  exact encodes_list h

private theorem encodes_node {id : NodeId} {kind : String} {payload : Json} {e : Expr}
    (h : Encodes (ofKind? id) (object [(kind, payload)]) e) : Encodes ofJson? (toJson.node id kind payload) e := by
  have hid := encodes_uint64 id
  have hvalue : asUInt64? (.nat id.toNat) = some id := hid.decode_eq 0
  have hfields : asFields? ["id", "kind"] (object [("id", .nat id.toNat), ("kind", object [(kind, payload)])]) =
      some [some (.nat id.toNat), some (object [(kind, payload)])] := asFields?_object (by simp)
  refine hid.pair h (fun _ e => e) rfl fun depth => ?_
  rw [ofJson?, hfields]
  simp [hvalue]

private theorem encodes_name (name : String) : Encodes nameOf? (object [("name", .string name)]) name := by
  have hfields : asFields? ["name"] (object [("name", .string name)]) = some [some (.string name)] :=
    asFields?_object (by simp)
  refine (encodes_string name).single (fun name => name) rfl fun depth => ?_
  simp [nameOf?, hfields]

private theorem encodes_select {operand : Expr} (h : Encodes ofJson? operand.toJson operand) (id : NodeId)
    (field : String) :
    Encodes (ofSelect? id) (object [("operand", operand.toJson), ("field", .string field)])
      (select id operand field) := by
  have hfields : asFields? ["operand", "field"] (object [("operand", operand.toJson), ("field", .string field)]) =
      some [some operand.toJson, some (.string field)] := asFields?_object (by simp)
  refine h.pair (encodes_string field) _ rfl fun depth => ?_
  rw [ofSelect?, hfields]

private theorem encodes_call {args : List Expr} (h : ∀ a ∈ args, Encodes ofJson? a.toJson a) (id : NodeId)
    (function : String) :
    Encodes (ofCall? id) (object [("function", .string function), ("args", .arr (toJsons args))])
      (call id function args) := by
  have hfields : asFields? ["function", "args"]
      (object [("function", .string function), ("args", .arr (toJsons args))]) =
        some [some (.string function), some (.arr (toJsons args))] := asFields?_object (by simp)
  refine (encodes_string function).pair (encodes_items h) _ rfl fun depth => ?_
  rw [ofCall?, hfields]

/-- No constant of the tree is a double. -/
def NoDouble (e : Expr) : Prop := ∀ n ∈ e.nodes, ∀ d, n.literal? ≠ some (.double d)

private theorem NoDouble.child {e c : Expr} (h : e.NoDouble) (hc : c ∈ e.children) : c.NoDouble :=
  fun n hn => h n (mem_nodes_iff.2 (.inr ⟨c, hc, hn⟩))

theorem encodes {e : Expr} (h : e.NoDouble) : Encodes ofJson? e.toJson e := by
  induction e using Expr.induction with
  | const id value =>
    have hvalue : ∀ d, value ≠ .double d := fun d heq => h _ (self_mem_nodes _) d (congrArg some heq)
    refine encodes_node ((Literal.encodes hvalue).single _ rfl fun depth => ?_)
    simp only [ofKind?, asVariant?_object]
  | ident id name =>
    refine encodes_node ((encodes_name name).single _ rfl fun depth => ?_)
    simp only [ofKind?, asVariant?_object]
  | select id operand field ih =>
    have hoperand := ih (h.child List.mem_cons_self)
    refine encodes_node ((encodes_select hoperand id field).single (fun e => e) rfl fun depth => ?_)
    simp [ofKind?, asVariant?_object]
  | call id function args ih =>
    have hargs : ∀ a ∈ args, Encodes ofJson? a.toJson a := fun a ha => ih a ha (h.child ha)
    refine encodes_node ((encodes_call hargs id function).single (fun e => e) rfl fun depth => ?_)
    simp [ofKind?, asVariant?_object]
  | list id items ih =>
    have hitems : ∀ a ∈ items, Encodes ofJson? a.toJson a := fun a ha => ih a ha (h.child ha)
    refine encodes_node ((encodes_items hitems).single _ rfl fun depth => ?_)
    simp only [ofKind?, asVariant?_object]

end Expr

/-! ### Filters -/

theorem Checked.encodes {c : Checked} (h : c.expr.NoDouble) : Encodes Checked.ofJson? c.toJson c := by
  have hfields : asFields? ["expr", "type_map"]
      (object [("expr", c.expr.toJson), ("type_map", TypeTable.toJson c.types)]) =
        some [some c.expr.toJson, some (TypeTable.toJson c.types)] := asFields?_object (by simp)
  refine (Expr.encodes h).pair (TypeTable.encodes c.types) Checked.mk rfl fun depth => ?_
  rw [ofJson?, hfields]
  rfl

namespace Filter

theorem encodes {f : Filter} (h : ∀ e, f.expr? = some e → e.NoDouble) : Encodes Filter.ofJson? f.toJson f := by
  have hfields (j : Json) : asFields? ["checked_expr"] (object [("checked_expr", j)]) = some [some j] :=
    asFields?_object (by simp)
  obtain ⟨checked?⟩ := f
  cases checked? with
  | none =>
    refine encodes_object (by simpa using Plain.null) rfl fun depth => ?_
    rw [ofJson?]
    simp [hfields, nesting]
  | some c =>
    refine (Checked.encodes (h c.expr rfl)).single (fun c => Filter.mk (some c)) rfl fun depth => ?_
    rw [ofJson?, hfields]
    rfl

/-- The text of a filter is the text of its JSON value, and nested as deep. -/
private theorem json_read?_print {f : Filter} (h : ∀ e, f.expr? = some e → e.NoDouble) :
    Json.read? f.print = some f.toJson := (encodes h).plain.read?_compress

/-- A greeting with quotes and a line break, compared with bytes by a node with the last id there is. -/
private def greeting : Filter :=
  ⟨some ⟨.call 18446744073709551615 "=" [.select 0 (.ident 1 "größe") "\"hi\"\n", .const 2 (.bytes [0, 255])],
    (∅ : TypeTable).insert 1 (.list (.list (.message "😀")))⟩⟩

/-- A leaf inside of 41 lists. -/
private def nested (leaf : Expr) : Filter := ⟨some ⟨Nat.repeat (fun e => .list 0 [e]) 41 leaf, ∅⟩⟩

private theorem noDouble_repeat {leaf : Expr} (h : leaf.NoDouble) (depth : Nat) :
    (Nat.repeat (fun e => .list 0 [e]) depth leaf).NoDouble := by
  induction depth with
  | zero => exact h
  | succ depth ih =>
    intro n hn d
    rcases Expr.mem_nodes_iff.1 hn with rfl | ⟨c, hc, hn⟩
    · exact fun hliteral => by cases hliteral
    · rw [List.mem_singleton.1 hc] at hn
      exact ih n hn d

end Filter

end FluxQuery
