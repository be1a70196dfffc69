import Mathlib.Data.String.Basic

namespace SyncSchema.Text

def parts : List Char → List Char → Bool
  | c :: u, d :: v => c != d || parts u v
  | _, _ => false

theorem append_ne_append {u v : List Char} (apart : parts u v = true) (rest rest' : List Char) :
    u ++ rest ≠ v ++ rest' := by
  induction u generalizing v with
  | nil => cases apart
  | cons c u ih =>
    cases v with
    | nil => cases apart
    | cons d v =>
      rw [parts, Bool.or_eq_true, bne_iff_ne] at apart
      rw [List.cons_append, List.cons_append, Ne, List.cons.injEq, not_and]
      intro same
      exact ih (apart.resolve_left fun differs => differs same)

theorem append_ne {a b : String} (apart : parts a.toList b.toList = true) (rest rest' : String) :
    a ++ rest ≠ b ++ rest' := by
  intro same
  apply append_ne_append apart rest.toList rest'.toList
  rw [← String.toList_append, same, String.toList_append]

def Stops (p : Char → Bool) (rest : List Char) : Prop :=
  ∀ c ∈ rest.head?, p c = false

theorem stops_append {p : Char → Bool} {mark : String} (stops : mark.toList.head?.any (!p ·) = true)
    (rest : String) : Stops p (mark ++ rest).toList := by
  rw [String.toList_append]
  intro c head
  cases chars : mark.toList with
  | nil =>
    rw [chars] at stops
    cases stops
  | cons d more =>
    rw [chars] at stops head
    obtain rfl : d = c := by simpa using head
    simpa using stops

theorem chars_append_inj {p : Char → Bool} {u v rest rest' : List Char} (runU : ∀ c ∈ u, p c = true)
    (runV : ∀ c ∈ v, p c = true) (stops : Stops p rest) (stops' : Stops p rest')
    (same : u ++ rest = v ++ rest') : u = v ∧ rest = rest' := by
  have none {rest : List Char} (stops : Stops p rest) : rest.takeWhile p = [] := by
    cases rest with
    | nil => rfl
    | cons c rest => rw [List.takeWhile_cons_of_neg (by simp [stops c rfl])]
  have runs := congrArg (List.takeWhile p) same
  rw [List.takeWhile_append_of_pos runU, List.takeWhile_append_of_pos runV, none stops, none stops',
    List.append_nil, List.append_nil] at runs
  subst runs
  exact ⟨rfl, List.append_cancel_left same⟩

theorem run_append_inj {p : Char → Bool} {a b mark rest rest' : String}
    (stops : mark.toList.head?.any (!p ·) = true) (runA : ∀ c ∈ a.toList, p c = true)
    (runB : ∀ c ∈ b.toList, p c = true) (same : a ++ (mark ++ rest) = b ++ (mark ++ rest')) :
    a = b ∧ rest = rest' := by
  have chars : a.toList ++ (mark ++ rest).toList = b.toList ++ (mark ++ rest').toList := by
    rw [← String.toList_append, ← String.toList_append, same]
  obtain ⟨text, behind⟩ := chars_append_inj runA runB (stops_append stops rest) (stops_append stops rest') chars
  exact ⟨String.toList_inj.1 text, (String.append_right_inj mark).1 (String.toList_inj.1 behind)⟩

theorem intercalate_cons (separator first : String) (others : List String) :
    separator.intercalate (first :: others) = first ++ String.join (others.map (separator ++ ·)) := by
  induction others generalizing first with
  | nil => simp
  | cons next others ih =>
    rw [String.intercalate_cons_cons, ih, List.map_cons, String.join_cons, String.append_assoc, String.append_assoc]

section

variable {α β : Type} {part : α → String} {view : α → β} {fits : α → Prop} {items items' : List α}
  {rest rest' : String}

theorem map_append_inj
    (step : ∀ a b rest rest', fits a → fits b → part a ++ rest = part b ++ rest' → view a = view b ∧ rest = rest')
    (all : ∀ a ∈ items, fits a) (all' : ∀ a ∈ items', fits a) (ends : ∀ a more, part a ++ more ≠ rest)
    (ends' : ∀ a more, part a ++ more ≠ rest')
    (same : String.join (items.map part) ++ rest = String.join (items'.map part) ++ rest') :
    items.map view = items'.map view ∧ rest = rest' := by
  induction items generalizing items' with
  | nil =>
    cases items' with
    | nil => exact ⟨rfl, by simpa using same⟩
    | cons b items' =>
      rw [List.map_cons, String.join_cons, String.append_assoc] at same
      exact absurd same.symm (by simpa using ends b _)
  | cons a items ih =>
    rw [List.map_cons, String.join_cons, String.append_assoc] at same
    cases items' with
    | nil => exact absurd same (by simpa using ends' a _)
    | cons b items' =>
      rw [List.map_cons, String.join_cons, String.append_assoc] at same
      rw [List.forall_mem_cons] at all all'
      obtain ⟨here, behind⟩ := step a b _ _ all.1 all'.1 same
      obtain ⟨later, rest_eq⟩ := ih all.2 all'.2 behind
      exact ⟨by rw [List.map_cons, List.map_cons, here, later], rest_eq⟩

theorem headed_append_inj {heading mark : String} {headed : List α → String} (empty : headed [] = "")
    (headed_cons : ∀ a items, headed (a :: items) = heading ++ String.join ((a :: items).map part))
    (apart : parts mark.toList heading.toList = true)
    (step : ∀ a b rest rest', fits a → fits b → part a ++ rest = part b ++ rest' → view a = view b ∧ rest = rest')
    (all : ∀ a ∈ items, fits a) (all' : ∀ a ∈ items', fits a) (ends : ∀ rest a more, part a ++ more ≠ mark ++ rest)
    (same : headed items ++ (mark ++ rest) = headed items' ++ (mark ++ rest')) :
    items.map view = items'.map view ∧ rest = rest' := by
  have opens (a : α) (items : List α) (rest rest' : String) : mark ++ rest ≠ headed (a :: items) ++ rest' := by
    rw [headed_cons, String.append_assoc]
    exact append_ne apart _ _
  cases items with
  | nil =>
    rw [empty, String.empty_append] at same
    cases items' with
    | nil => exact ⟨rfl, by simpa only [empty, String.empty_append, String.append_right_inj] using same⟩
    | cons b items' => exact absurd same (opens b items' _ _)
  | cons a items =>
    cases items' with
    | nil =>
      rw [empty, String.empty_append] at same
      exact absurd same.symm (opens a items _ _)
    | cons b items' =>
      rw [headed_cons, headed_cons, String.append_assoc, String.append_assoc, String.append_right_inj] at same
      obtain ⟨views, behind⟩ := map_append_inj step all all' (ends _) (ends _) same
      exact ⟨views, (String.append_right_inj mark).1 behind⟩

theorem join_append_inj
    (step : ∀ a b rest rest', fits a → fits b → part a ++ rest = part b ++ rest' → a = b ∧ rest = rest')
    (all : ∀ a ∈ items, fits a) (all' : ∀ a ∈ items', fits a) (ends : ∀ a more, part a ++ more ≠ rest)
    (ends' : ∀ a more, part a ++ more ≠ rest')
    (same : String.join (items.map part) ++ rest = String.join (items'.map part) ++ rest') :
    items = items' ∧ rest = rest' := by
  have views : items.map id = items'.map id ∧ rest = rest' := map_append_inj step all all' ends ends' same
  rwa [List.map_id, List.map_id] at views

theorem intercalate_append_inj {separator : String}
    (step : ∀ a b rest rest', fits a → fits b → part a ++ rest = part b ++ rest' → a = b ∧ rest = rest')
    (all : ∀ a ∈ items, fits a) (all' : ∀ a ∈ items', fits a) (ends : ∀ a more, part a ++ more ≠ rest)
    (ends' : ∀ a more, part a ++ more ≠ rest') (last : ∀ more, separator ++ more ≠ rest)
    (last' : ∀ more, separator ++ more ≠ rest')
    (same : separator.intercalate (items.map part) ++ rest = separator.intercalate (items'.map part) ++ rest') :
    items = items' ∧ rest = rest' := by
  cases items with
  | nil =>
    cases items' with
    | nil => exact ⟨rfl, by simpa using same⟩
    | cons b items' =>
      rw [List.map_cons, intercalate_cons, String.append_assoc] at same
      exact absurd same.symm (by simpa using ends b _)
  | cons a items =>
    rw [List.map_cons, intercalate_cons, List.map_map, String.append_assoc] at same
    cases items' with
    | nil => exact absurd same (by simpa using ends' a _)
    | cons b items' =>
      rw [List.map_cons, intercalate_cons, List.map_map, String.append_assoc] at same
      rw [List.forall_mem_cons] at all all'
      obtain ⟨rfl, behind⟩ := step a b _ _ all.1 all'.1 same
      have steps (a b : α) (rest rest' : String) (fitsA : fits a) (fitsB : fits b)
          (same : separator ++ part a ++ rest = separator ++ part b ++ rest') : a = b ∧ rest = rest' := by
        rw [String.append_assoc, String.append_assoc, String.append_right_inj] at same
        exact step a b rest rest' fitsA fitsB same
      obtain ⟨later, rest_eq⟩ := join_append_inj steps all.2 all'.2
        (fun a more => by rw [String.append_assoc]; exact last _)
        (fun a more => by rw [String.append_assoc]; exact last' _) behind
      exact ⟨by rw [later], rest_eq⟩

end

end SyncSchema.Text
