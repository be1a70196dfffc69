import Mathlib.Data.List.Forall2
import Mathlib.Data.List.Induction
import SyncSchema.Json.Entries
import SyncSchema.Json.Misuse

namespace SyncSchema

theorem Json.eq_str_of_beq {name : Json} {s : String} (same : (name == .str s) = true) : name = .str s := by
  rw [Json.beq_iff, Json.canonical] at same
  cases name with
  | str t => simpa [Json.canonical] using same
  | float x =>
    simp only [Json.canonical, Json.canonicalFloat] at same
    repeat' split at same
    all_goals contradiction
  | _ => simp [Json.canonical] at same

theorem Json.eq_str_of_kind {name : Json} (text : name.kind = .string) : ∃ s, name = .str s := by
  cases name with
  | str s => exact ⟨s, rfl⟩
  | _ => cases text

theorem Json.key?_eq_ok {name key : Json} : name.key? = .ok key ↔ name.canBeKey = true ∧ name = key := by
  by_cases usable : name.canBeKey = true <;> simp [Json.key?, usable]

theorem Json.lt?_str (s t : String) : (Json.str s).lt? (.str t) = .ok (decide (s < t)) := by
  rw [Json.lt?]

def Distinct {α : Type} (name : α → Json) (items : List α) : Prop :=
  items.Pairwise fun a b => (name a == name b) = false

instance {α : Type} (name : α → Json) (items : List α) : Decidable (Distinct name items) :=
  inferInstanceAs (Decidable (items.Pairwise _))

namespace Distinct

variable {α β : Type} {name : α → Json} {items : List α}

theorem eq_of_beq (distinct : Distinct name items) {a b : α} (ha : a ∈ items) (hb : b ∈ items)
    (same : (name a == name b) = true) : a = b := by
  induction items with
  | nil => cases ha
  | cons item rest ih =>
    obtain ⟨apart, distinct⟩ := List.pairwise_cons.1 distinct
    rcases List.mem_cons.1 ha with rfl | restA <;> rcases List.mem_cons.1 hb with rfl | restB
    · rfl
    · simp [apart b restB] at same
    · rw [BEq.comm, apart a restA] at same
      contradiction
    · exact ih distinct restA restB

theorem find?_eq (distinct : Distinct name items) {a : α} (ha : a ∈ items) {n : Json}
    (same : (name a == n) = true) : items.find? (name · == n) = some a := by
  cases found : items.find? (name · == n) with
  | none => exact absurd same (List.find?_eq_none.1 found a ha)
  | some b =>
    have hb := List.find?_some found
    exact congrArg some (distinct.eq_of_beq (List.mem_of_find?_eq_some found) ha
      (BEq.trans hb (BEq.symm same)))

theorem sublist {others : List α} (distinct : Distinct name items) (sub : others.Sublist items) :
    Distinct name others :=
  List.Pairwise.sublist sub distinct

theorem map_iff {f : β → α} {others : List β} :
    Distinct name (others.map f) ↔ Distinct (name ∘ f) others :=
  List.pairwise_map

end Distinct

namespace Entries

variable {α : Type}

theorem set_fresh {entries : Entries α} {name : Json} {value : α}
    (fresh : ∀ entry ∈ entries, (entry.1 == name) = false) :
    set entries name value = entries ++ [(name, value)] := by
  induction entries with
  | nil => rfl
  | cons entry rest ih =>
    rw [List.forall_mem_cons] at fresh
    simp [set, fresh.1, ih fresh.2]

theorem get?_set (entries : Entries α) (name other : Json) (value : α) :
    (entries.set name value).get? other = if name == other then some value else entries.get? other := by
  induction entries with
  | nil => by_cases same : (name == other) = true <;> simp [set, get?, same]
  | cons entry rest ih =>
    obtain ⟨first, old⟩ := entry
    by_cases here : (first == name) = true
    · have there : (first == other) = (name == other) := BEq.congr_left here
      by_cases same : (name == other) = true <;> simp [set, here, get?, there, same]
    · by_cases there : (first == other) = true
      · have : (name == other) = false := by
          rw [Bool.eq_false_iff]
          exact fun same => here (BEq.trans there (BEq.symm same))
        simp [set, here, get?, there, this]
      · simp only [get?] at ih
        simpa [set, here, get?, there] using ih

theorem ofList_concat (pairs : List (Json × α)) (pair : Json × α) :
    ofList (pairs ++ [pair]) = (ofList pairs).set pair.1 pair.2 := by
  simp [ofList]

theorem get?_ofList (pairs : List (Json × α)) (name : Json) :
    (ofList pairs).get? name = (pairs.reverse.find? (·.1 == name)).map (·.2) := by
  induction pairs using List.reverseRecOn with
  | nil => rfl
  | append_singleton pairs pair ih =>
    rw [ofList_concat, get?_set, ih, List.reverse_append, List.reverse_singleton, List.singleton_append,
      List.find?_cons]
    by_cases same : (pair.1 == name) = true <;> simp [same]

theorem mem_set {entries : Entries α} {name : Json} {value : α} {entry : Json × α}
    (member : entry ∈ entries.set name value) :
    entry ∈ entries ∨ (name == entry.1) = true ∧ entry.2 = value := by
  induction entries with
  | nil =>
    rw [set, List.mem_singleton] at member
    subst member
    exact .inr ⟨BEq.rfl, rfl⟩
  | cons first rest ih =>
    rw [set] at member
    split at member
    · rename_i same
      rcases List.mem_cons.1 member with rfl | member
      · exact .inr ⟨BEq.symm same, rfl⟩
      · exact .inl (List.mem_cons_of_mem _ member)
    · rcases List.mem_cons.1 member with rfl | member
      · exact .inl List.mem_cons_self
      · exact (ih member).imp_left (List.mem_cons_of_mem _)

theorem mem_ofList {pairs : List (Json × α)} {entry : Json × α} (member : entry ∈ ofList pairs) :
    ∃ pair ∈ pairs, (pair.1 == entry.1) = true ∧ pair.2 = entry.2 := by
  induction pairs using List.reverseRecOn with
  | nil => cases member
  | append_singleton pairs pair ih =>
    rw [ofList_concat] at member
    rcases mem_set member with member | ⟨same, value⟩
    · obtain ⟨other, member, same⟩ := ih member
      exact ⟨other, List.mem_append_left _ member, same⟩
    · exact ⟨pair, by simp, same, value.symm⟩

section

variable {β : Type} {related : Json → α → β → Prop}
  (respects : ∀ name name' a b, (name == name') = true → related name a b → related name' a b)
include respects

theorem forall₂_set {entries : Entries α} {others : Entries β} {name : Json} {a : α} {b : β}
    (all : List.Forall₂ (fun entry other => other.1 = entry.1 ∧ related entry.1 entry.2 other.2) entries others)
    (new : related name a b) :
    List.Forall₂ (fun entry other => other.1 = entry.1 ∧ related entry.1 entry.2 other.2)
      (entries.set name a) (others.set name b) := by
  induction all with
  | nil => exact .cons ⟨rfl, new⟩ .nil
  | @cons entry other entries others head tail ih =>
    obtain ⟨first, old⟩ := entry
    obtain ⟨first', old'⟩ := other
    obtain ⟨rfl, here⟩ := head
    rw [set, set]
    split
    · rename_i same
      exact .cons ⟨rfl, respects _ _ _ _ (BEq.symm same) new⟩ tail
    · exact .cons ⟨rfl, here⟩ ih

theorem forall₂_ofList {pairs : List (Json × α)} {others : List (Json × β)}
    (all : List.Forall₂ (fun pair other => other.1 = pair.1 ∧ related pair.1 pair.2 other.2) pairs others) :
    List.Forall₂ (fun entry other => other.1 = entry.1 ∧ related entry.1 entry.2 other.2)
      (ofList pairs) (ofList others) := by
  suffices ∀ {entries : Entries α} {others' : Entries β},
      List.Forall₂ (fun entry other => other.1 = entry.1 ∧ related entry.1 entry.2 other.2) entries others' →
      List.Forall₂ (fun entry other => other.1 = entry.1 ∧ related entry.1 entry.2 other.2)
        (pairs.foldl (fun entries pair => set entries pair.1 pair.2) entries)
        (others.foldl (fun entries pair => set entries pair.1 pair.2) others') from this .nil
  induction all with
  | nil => exact id
  | cons head tail ih =>
    intro entries others' before
    rw [List.foldl_cons, List.foldl_cons, head.1]
    exact ih (forall₂_set respects before head.2)

end

theorem ofList_eq_self {pairs : List (Json × α)} (distinct : Distinct Prod.fst pairs) :
    ofList pairs = pairs := by
  induction pairs using List.reverseRecOn with
  | nil => rfl
  | append_singleton pairs pair ih =>
    obtain ⟨before, -, apart⟩ := List.pairwise_append.1 distinct
    rw [ofList_concat, ih before, set_fresh fun entry member => apart entry member pair (by simp)]

end Entries

end SyncSchema
