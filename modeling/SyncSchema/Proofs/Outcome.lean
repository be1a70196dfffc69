import Mathlib.Data.List.Forall2
import SyncSchema.Run

namespace SyncSchema

namespace Outcome

variable {α β ε ε' : Type}

theorem bind_eq_ok {outcome : Except ε α} {next : α → Except ε β} {b : β} :
    (outcome >>= next) = .ok b ↔ ∃ a, outcome = .ok a ∧ next a = .ok b := by
  cases outcome <;> simp [bind, Except.bind]

theorem exists_bind_eq_ok {outcome : Except ε α} {next : α → Except ε β} :
    (∃ b, (outcome >>= next) = .ok b) ↔ ∃ a, outcome = .ok a ∧ ∃ b, next a = .ok b := by
  cases outcome <;> simp [bind, Except.bind]

theorem pure_eq_ok {a b : α} : (pure a : Except ε α) = .ok b ↔ a = b := by
  simp [pure, Except.pure]

theorem map_eq_ok {outcome : Except ε α} {f : α → β} {b : β} :
    f <$> outcome = .ok b ↔ ∃ a, outcome = .ok a ∧ f a = b := by
  cases outcome <;> simp [Functor.map, Except.map]

theorem ok_bind (a : α) (next : α → Except ε β) : Except.ok a >>= next = next a := rfl

theorem map_ok (f : α → β) (a : α) : f <$> (.ok a : Except ε α) = .ok (f a) := rfl

theorem mapError_eq_ok {outcome : Except ε α} {f : ε → ε'} {a : α} :
    outcome.mapError f = .ok a ↔ outcome = .ok a := by
  cases outcome <;> simp [Except.mapError]

theorem throw_ne_ok {failure : ε} {a : α} : (throw failure : Except ε α) ≠ .ok a := by
  simp [throw, throwThe, MonadExceptOf.throw]

theorem exists_of_isOk {outcome : Except ε α} (ok : outcome.isOk = true) : ∃ a, outcome = .ok a := by
  cases outcome with
  | error failure => cases ok
  | ok a => exact ⟨a, rfl⟩

theorem toOption_eq_some {outcome : Except ε α} {a : α} : outcome.toOption = some a ↔ outcome = .ok a := by
  cases outcome <;> simp [Except.toOption]

theorem mapM_eq_ok {f : α → Except ε β} {items : List α} {results : List β} :
    items.mapM f = .ok results ↔ List.Forall₂ (fun item result => f item = .ok result) items results := by
  induction items generalizing results with
  | nil => cases results <;> simp [pure_eq_ok]
  | cons item rest ih =>
    simp only [List.mapM_cons, bind_eq_ok, pure_eq_ok, List.forall₂_cons_left_iff, ih]
    constructor
    · rintro ⟨first, head, others, tail, rfl⟩
      exact ⟨first, others, head, tail, rfl⟩
    · rintro ⟨first, others, head, tail, rfl⟩
      exact ⟨first, head, others, tail, rfl⟩

theorem exists_mapM_eq_ok {f : α → Except ε β} {items : List α} (all : ∀ item ∈ items, ∃ result, f item = .ok result) :
    ∃ results, items.mapM f = .ok results := by
  induction items with
  | nil => exact ⟨[], rfl⟩
  | cons item rest ih =>
    rw [List.forall_mem_cons] at all
    obtain ⟨first, head⟩ := all.1
    obtain ⟨others, tail⟩ := ih all.2
    exact ⟨first :: others, by rw [List.mapM_cons, head, tail]; rfl⟩

theorem mapM_congr {f g : α → Except ε β} {items : List α} (same : ∀ item ∈ items, f item = g item) :
    items.mapM f = items.mapM g := by
  induction items with
  | nil => rfl
  | cons item rest ih =>
    rw [List.forall_mem_cons] at same
    rw [List.mapM_cons, List.mapM_cons, same.1, ih same.2]

theorem map_bind_cons (g : α → β) (first : Except ε α) (rest : Except ε (List α)) :
    List.map g <$> (do return (← first) :: (← rest)) = (do return (← g <$> first) :: (← List.map g <$> rest)) := by
  cases first <;> cases rest <;> rfl

theorem map_mapM {γ : Type} (g : β → γ) (f : α → Except ε β) (items : List α) :
    List.map g <$> items.mapM f = items.mapM fun item => g <$> f item := by
  induction items with
  | nil => rfl
  | cons item rest ih => rw [List.mapM_cons, map_bind_cons, ih, List.mapM_cons]

theorem map_eq_of_forall₂ {γ : Type} {related : α → β → Prop} {f : α → γ} {g : β → γ} {items : List α}
    {results : List β} (all : List.Forall₂ related items results)
    (same : ∀ item result, related item result → g result = f item) : results.map g = items.map f := by
  induction all with
  | nil => rfl
  | cons first rest ih => rw [List.map_cons, List.map_cons, same _ _ first, ih]

/-- A step that only checks its item and then computes makes a whole list of checks and a map. -/
theorem mapM_eq_ok_map {f : α → Except ε β} {fits : α → Prop} {g : α → β}
    (step : ∀ item result, f item = .ok result ↔ fits item ∧ result = g item) {items : List α}
    {results : List β} :
    items.mapM f = .ok results ↔ (∀ item ∈ items, fits item) ∧ results = items.map g := by
  rw [mapM_eq_ok]
  induction items generalizing results with
  | nil => simp
  | cons item rest ih =>
    simp only [List.forall₂_cons_left_iff, ih, List.forall_mem_cons, List.map_cons]
    constructor
    · rintro ⟨_, _, first, ⟨others, rfl⟩, rfl⟩
      obtain ⟨fit, rfl⟩ := (step item _).1 first
      exact ⟨⟨fit, others⟩, rfl⟩
    · rintro ⟨⟨fit, others⟩, rfl⟩
      exact ⟨_, _, (step item _).2 ⟨fit, rfl⟩, ⟨others, rfl⟩, rfl⟩

theorem forall₂_zip_of_forall₂ {γ : Type} {first : α → β → Prop} {second : α → γ → Prop} {both : α → β → γ → Prop}
    {items : List α} {bs : List β} {cs : List γ} (left : List.Forall₂ first items bs)
    (right : List.Forall₂ second items cs)
    (step : ∀ item ∈ items, ∀ b c, first item b → second item c → both item b c) :
    List.Forall₂ (fun row c => both row.1 row.2 c) (items.zip bs) cs := by
  induction left generalizing cs with
  | nil =>
    cases right
    exact .nil
  | cons head _ ih =>
    rw [List.forall_mem_cons] at step
    cases right with
    | cons head' tail' => exact .cons (step.1 _ _ head head') (ih tail' step.2)

theorem forall₂_of_forall₂ {γ : Type} {first : α → β → Prop} {second : α → γ → Prop} {both : β → γ → Prop}
    {items : List α} {bs : List β} {cs : List γ} (left : List.Forall₂ first items bs)
    (right : List.Forall₂ second items cs)
    (step : ∀ item ∈ items, ∀ b c, first item b → second item c → both b c) : List.Forall₂ both bs cs := by
  rw [← List.map_snd_zip (Nat.le_of_eq left.length_eq.symm), List.forall₂_map_left_iff]
  exact forall₂_zip_of_forall₂ left right step

theorem exists_pair {related : α → β → Prop} {items : List α} {results : List β}
    (all : List.Forall₂ related items results) {item : α} (member : item ∈ items) :
    ∃ result, (item, result) ∈ items.zip results := by
  induction all with
  | nil => cases member
  | cons first rest ih =>
    rcases List.mem_cons.1 member with rfl | member
    · exact ⟨_, List.mem_cons_self⟩
    · obtain ⟨result, member⟩ := ih member
      exact ⟨result, List.mem_cons_of_mem _ member⟩

theorem exists_result {related : α → β → Prop} {items : List α} {results : List β}
    (all : List.Forall₂ related items results) {item : α} (member : item ∈ items) :
    ∃ result ∈ results, related item result := by
  obtain ⟨result, pair⟩ := exists_pair all member
  exact ⟨result, (List.of_mem_zip pair).2, List.forall₂_zip all pair⟩

theorem exists_item {related : α → β → Prop} {items : List α} {results : List β}
    (all : List.Forall₂ related items results) {result : β} (member : result ∈ results) :
    ∃ item ∈ items, related item result :=
  exists_result all.flip member

theorem exists_map_of_forall₂ [Nonempty β] {f : α → Except ε β} {items : List α} {results : List β}
    (all : List.Forall₂ (fun item result => f item = .ok result) items results) :
    ∃ g : α → β, (∀ item ∈ items, f item = .ok (g item)) ∧ results = items.map g := by
  have chosen : ∃ g : α → β, ∀ item result, f item = .ok result → g item = result := by
    refine ⟨fun item => Classical.epsilon fun result => f item = .ok result, fun item result ok => ?_⟩
    have found := Classical.epsilon_spec (p := fun result => f item = .ok result) ⟨result, ok⟩
    exact Except.ok.inj (found.symm.trans ok)
  obtain ⟨g, chosen⟩ := chosen
  refine ⟨g, fun item member => ?_, ?_⟩
  · obtain ⟨result, -, ok⟩ := exists_result all member
    rw [chosen item result ok, ok]
  · have same := map_eq_of_forall₂ (f := g) (g := id) all fun item result ok => (chosen item result ok).symm
    rwa [List.map_id] at same

end Outcome

namespace Run

variable {α β : Type}

theorem map_id_run (run : Run α) : id <$> run = run := by
  cases run with
  | mk records result => cases result <;> simp [Functor.map]

theorem pure_bind_run (a : α) (next : α → Run β) : pure a >>= next = next a := rfl

theorem bind_assoc_run {γ : Type} (run : Run α) (next : α → Run β) (after : β → Run γ) :
    run >>= next >>= after = run >>= fun a => next a >>= after := by
  cases run with
  | mk records result =>
    cases result with
    | error failure => rfl
    | ok a =>
      cases h : next a with
      | mk records' result' => cases result' <;> simp [bind, h]

instance : LawfulMonad Run :=
  LawfulMonad.mk' Run map_id_run pure_bind_run bind_assoc_run

@[simp] theorem result_check (outcome : Except Misuse α) :
    (check outcome).result = outcome.mapError .misuse := rfl

theorem lift_map (f : α → β) (outcome : Except Failure α) : lift (f <$> outcome) = f <$> lift outcome := by
  cases outcome <;> rfl

theorem lift_ok_bind (a : α) (next : α → Run β) : lift (.ok a) >>= next = next a := rfl

theorem check_ok_bind (a : α) (next : α → Run β) : check (.ok a) >>= next = next a := rfl

theorem check_map (f : α → β) (outcome : Except Misuse α) : check (f <$> outcome) = f <$> check outcome := by
  cases outcome <;> rfl

@[simp] theorem result_map (f : α → β) (run : Run α) : (f <$> run).result = f <$> run.result := by
  cases run with
  | mk records result => cases result <;> rfl

@[simp] theorem result_mapM (f : α → Run β) (items : List α) :
    (items.mapM f).result = items.mapM fun item => (f item).result := by
  induction items with
  | nil => rfl
  | cons item rest ih => simp [ih]

theorem result_forM_log (level : Level) (message : α → String) (items : List α) :
    (items.forM fun item => log level (message item)).result = .ok () := by
  induction items with
  | nil => rfl
  | cons item rest ih =>
    rw [List.forM, result_bind, result_log]
    exact ih

end Run

end SyncSchema
