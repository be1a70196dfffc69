import SyncSchema.Proofs.Outcome

/-!
# What an outcome tells

A run stops for two reasons that a datamodel can give: a value is used as something that it is not, or parts do not fit
together. `Outcome.Judged` ties an outcome to one condition for each of the two, and is put together step by step.
-/

namespace SyncSchema.Outcome

variable {α β : Type} {outcome : Except Failure α} {usable usable' fitting fitting' : Prop}

/-- Success shows that the values are usable, a misuse that they are not, a problem that the parts do not fit. -/
inductive Judged : Except Failure α → Prop → Prop → Prop
  | ok {a : α} {usable fitting : Prop} (holds : usable) : Judged (.ok a) usable fitting
  | misuse {misuse : Misuse} {usable fitting : Prop} (fault : ¬usable) : Judged (.error (.misuse misuse)) usable fitting
  | problem {p : Problem} {usable fitting : Prop} (fault : ¬fitting) : Judged (.error (.problem p)) usable fitting

namespace Judged

theorem imp (judged : Judged outcome usable fitting) (same : usable ↔ usable') (fits : fitting' → fitting) :
    Judged outcome usable' fitting' := by
  cases judged with
  | ok holds => exact .ok (same.1 holds)
  | misuse fault => exact .misuse fun holds => fault (same.2 holds)
  | problem fault => exact .problem fun holds => fault (fits holds)

theorem congr (judged : Judged outcome usable fitting) (same : usable ↔ usable') : Judged outcome usable' fitting :=
  judged.imp same id

theorem isOk (judged : Judged outcome usable fitting) (holds : usable) (fits : fitting) : ∃ a, outcome = .ok a := by
  cases judged with
  | ok => exact ⟨_, rfl⟩
  | misuse fault => exact absurd holds fault
  | problem fault => exact absurd fits fault

theorem bind {next : α → Except Failure β} (first : Judged outcome usable fitting)
    (later : ∀ a, outcome = .ok a → usable → Judged (next a) usable' fitting') :
    Judged (outcome >>= next) (usable ∧ usable') (fitting ∧ fitting') := by
  cases first with
  | @ok a _ _ holds => exact (later a rfl holds).imp (by simp [holds]) And.right
  | misuse fault => exact .misuse fun both => fault both.1
  | problem fault => exact .problem fun both => fault both.1

theorem bind_pure (first : Judged outcome usable fitting) (next : α → β) :
    Judged (outcome >>= fun a => .ok (next a)) usable fitting :=
  (first.bind fun _ _ _ => .ok trivial).imp (by simp) fun fits => ⟨fits, trivial⟩

theorem mapM {item : Type} {step : item → Except Failure β} {usable fitting : item → Prop} {items : List item}
    (each : ∀ a ∈ items, Judged (step a) (usable a) (fitting a)) :
    Judged (items.mapM step) (∀ a ∈ items, usable a) (∀ a ∈ items, fitting a) := by
  induction items with
  | nil => exact .ok (List.forall_mem_nil _)
  | cons a rest ih =>
    rw [List.forall_mem_cons] at each
    rw [List.mapM_cons, List.forall_mem_cons, List.forall_mem_cons]
    exact each.1.bind fun _ _ _ => (ih each.2).bind_pure _

theorem check {checked : Except Misuse α} (exact : (∃ a, checked = .ok a) ↔ usable) :
    Judged (checked.mapError .misuse) usable fitting := by
  cases checked with
  | ok a => exact .ok (exact.1 ⟨a, rfl⟩)
  | error misuse => exact .misuse fun holds => (exact.2 holds).elim fun a same => by cases same

theorem value_bind {next : α → Except Failure β} (first : Judged outcome usable True)
    (later : ∀ a, outcome = .ok a → usable → Judged (next a) usable' fitting) :
    Judged (outcome >>= next) (usable ∧ usable') fitting :=
  (first.bind later).imp Iff.rfl fun fits => ⟨trivial, fits⟩

theorem check_bind {checked : Except Misuse α} {next : α → Except Failure β} (exact : (∃ a, checked = .ok a) ↔ usable)
    (later : ∀ a, checked = .ok a → usable → Judged (next a) usable' fitting) :
    Judged (checked.mapError .misuse >>= next) (usable ∧ usable') fitting :=
  (check exact).value_bind fun a ok => later a (mapError_eq_ok.1 ok)

end Judged

end SyncSchema.Outcome
