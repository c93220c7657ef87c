import FluxQuery.Command.Session

/-!
# Sessions step by step

A session that breaks off should have printed nothing. `Session.HaltsUnprinted` says this together with the reasons that
there may be, and has one rule for each kind of step: a step that may break off comes before what holds of the rest, and
lines are printed where nothing can break off any more (`Session.Ends`).
-/

namespace FluxQuery

namespace Outcome

@[simp]
theorem output_inj {text text' : String} : output text = output text' ↔ text = text' :=
  ⟨congrArg stdout, congrArg output⟩

@[simp]
theorem failure_inj {reason reason' : Failure} : failure reason = failure reason' ↔ reason = reason' :=
  ⟨fun h => Halt.failure.inj (Option.some.inj (congrArg halt? h)), congrArg failure⟩

theorem output_ne_failure (text : String) (reason : Failure) : output text ≠ failure reason := by
  intro h
  cases congrArg halt? h

end Outcome

namespace Session

variable {α β : Type} {P : Halt → Prop}

/-! ### Single steps -/

@[simp]
theorem attempt_ok_bind (a : α) (f : α → Session β) : attempt (.ok a) >>= f = f a := rfl

@[simp]
theorem attempt_error_bind (reason : Failure) (f : α → Session β) :
    attempt (.error reason) >>= f = throw (.failure reason) := rfl

@[simp]
theorem watch_some_bind (cause : Crash) (f : Unit → Session β) : watch (some cause) >>= f = throw (.crash cause) := rfl

@[simp]
theorem watch_none_bind (f : Unit → Session β) : watch none >>= f = f () := rfl

@[simp]
theorem orCrash_none_bind (cause : Crash) (f : α → Session β) :
    orCrash cause none >>= f = throw (.crash cause) := rfl

@[simp]
theorem outcome_throw (halt : Halt) : outcome (throw halt) = ⟨"", some halt⟩ := rfl

theorem outcome_throw_failure (reason : Failure) : outcome (throw (.failure reason)) = .failure reason := rfl

@[simp]
theorem outcome_printLine (text : String) : (printLine text).outcome = .output (text ++ "\n") := by
  have hprinted : (printLine text).outcome = .output ("" ++ text ++ "\n") := rfl
  rw [hprinted, String.empty_append]

/-! ### Sessions that break off -/

/-- The session comes to its end, whatever has been printed before it. -/
def Ends (s : Session α) : Prop := ∀ before, ∃ a after, s.run before = .ok a after

/-- If the session breaks off, then it does so for a reason in `P`, and nothing has been printed. -/
def HaltsUnprinted (P : Halt → Prop) (s : Session α) : Prop :=
  ∀ before halt after, s.run before = .error halt after → after = before ∧ P halt

theorem ends_printLine (text : String) : (printLine text).Ends := fun before => ⟨(), before ++ text ++ "\n", rfl⟩

theorem Ends.bind {s : Session α} {f : α → Session β} (hs : s.Ends) (hf : ∀ a, (f a).Ends) : Ends (s >>= f) := by
  intro before
  obtain ⟨a, after, hrun⟩ := hs before
  obtain ⟨b, after', hrun'⟩ := hf a after
  refine ⟨b, after', ?_⟩
  change EStateM.bind s f before = _
  rw [EStateM.bind, show s before = .ok a after from hrun]
  exact hrun'

theorem Ends.haltsUnprinted {s : Session α} (hs : s.Ends) : s.HaltsUnprinted P := by
  intro before halt after hrun
  obtain ⟨a, after', hends⟩ := hs before
  rw [hends] at hrun
  cases hrun

theorem haltsUnprinted_printLine (text : String) : (printLine text).HaltsUnprinted P :=
  (ends_printLine text).haltsUnprinted

theorem haltsUnprinted_throw {halt : Halt} (h : P halt) : HaltsUnprinted P (throw halt : Session α) := by
  rintro before _ _ ⟨⟩
  exact ⟨rfl, h⟩

theorem haltsUnprinted_attempt_bind {x : Except Failure α} {f : α → Session β} (herror : ∀ reason, P (.failure reason))
    (hok : ∀ a, x = .ok a → (f a).HaltsUnprinted P) : HaltsUnprinted P (attempt x >>= f) := by
  cases x with
  | error reason => exact haltsUnprinted_throw (herror reason)
  | ok a => exact hok a rfl

theorem haltsUnprinted_orCrash_bind {cause : Crash} {x : Option α} {f : α → Session β}
    (hnone : x = none → P (.crash cause)) (hsome : ∀ a, x = some a → (f a).HaltsUnprinted P) :
    HaltsUnprinted P (orCrash cause x >>= f) := by
  cases x with
  | none => exact haltsUnprinted_throw (hnone rfl)
  | some a => exact hsome a rfl

/-- What such a session leaves. -/
theorem HaltsUnprinted.outcome_eq {s : Session Unit} (h : s.HaltsUnprinted P) :
    s.outcome.halt? = none ∨ ∃ halt, P halt ∧ s.outcome = ⟨"", some halt⟩ := by
  unfold Session.outcome
  split
  · exact .inl rfl
  · rename_i halt printed hrun
    obtain ⟨rfl, hP⟩ := h _ _ _ hrun
    exact .inr ⟨halt, hP, rfl⟩

end Session

end FluxQuery
