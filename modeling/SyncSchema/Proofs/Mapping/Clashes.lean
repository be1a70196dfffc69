import Mathlib.Data.List.Nodup
import SyncSchema.Proofs.Mapping.Tables
import SyncSchema.Proofs.Naming.Camel
import SyncSchema.Proofs.Samples

namespace SyncSchema
open Outcome

theorem Distinct.map_str_iff {α : Type} {name : α → String} {items : List α} :
    Distinct (fun a => .str (name a)) items ↔ (items.map name).Nodup := by
  rw [Distinct, List.Nodup, List.pairwise_map]
  simp only [Json.str_beq_str, beq_eq_false_iff_ne]

namespace Naming

def isReserved : Json → Bool
  | .str name => isUnderscored name
  | _ => false

def shown (asked : Bool) (name : Json) : Json :=
  match remap asked name with
  | .ok new => new
  | .error _ => name

theorem shown_str (asked : Bool) (name : String) :
    shown asked (.str name) = .str (if asked then camel name else name) := by
  cases asked <;> rfl

theorem resolveTableName_eq {naming : Naming} {source name : Json} {storedAs : Option Json}
    (resolved : naming.resolveTableName source = .ok (name, storedAs)) : name = shown naming.remapTables source := by
  rw [resolveTableName, tableName, bind_eq_ok] at resolved
  obtain ⟨new, remapped, entry⟩ := resolved
  rw [pure_eq_ok, renamed] at entry
  rw [shown, remapped]
  split at entry
  · rename_i same
    cases entry
    cases asked : naming.remapTables with
    | false =>
      rw [remap, asked] at remapped
      cases remapped
      rfl
    | true =>
      rw [remap, asked, if_pos rfl, bind_eq_ok] at remapped
      obtain ⟨text, -, camelled⟩ := remapped
      cases camelled
      exact Json.eq_str_of_beq (BEq.symm same)
  · cases entry
    rfl

theorem isReserved_shown (asked : Bool) (name : Json) : isReserved (shown asked name) = isReserved name := by
  cases asked with
  | false => rfl
  | true =>
    cases name with
    | str name => exact isUnderscored_camel name
    | _ => rfl

theorem shown_ne_join {name : Json} (free : isReserved name = false) (asked : Bool) (relation : String) :
    (shown asked name == shown asked (.str ("_" ++ relation))) = false := by
  rw [Bool.eq_false_iff]
  intro same
  have reserved : isReserved (shown asked (.str ("_" ++ relation))) = true := by
    rw [isReserved_shown, isReserved, isUnderscored, String.toList_append]
    rfl
  rw [shown_str] at same reserved
  rw [← Json.eq_str_of_beq same, isReserved_shown, free] at reserved
  contradiction

end Naming

/-- What is shown for the tables is distinct: for those of models, for join tables, and between the two kinds. -/
structure Datamodel.Apart (d : Datamodel) (excluded : List Json) (plans : List JoinTable.Plan)
    (source : Model → Json) (asked : Bool) : Prop where
  models : asked = true → Distinct (fun m => Naming.shown asked (source m)) (d.kept excluded)
  joins : Distinct (fun p : JoinTable.Plan => Naming.shown asked (.str p.name)) plans
  across : ∀ m ∈ d.kept excluded, Naming.isReserved (source m) = true → ∀ p ∈ plans,
    (Naming.shown asked (source m) == Naming.shown asked (.str p.name)) = false

namespace Datamodel

variable {d : Datamodel} {naming : Naming} {excluded : List Json} {s : Schema} {ctx : Context}
  {plans : List JoinTable.Plan} {tables joins : List Table} {source : Model → Json} {asked : Bool}

theorem plan_name (built : ctx.Built d naming excluded) (ok : d.joinPlans ctx excluded = .ok plans)
    {p : JoinTable.Plan} (member : p ∈ plans) : ∃ relation, p.name = "_" ++ relation := by
  obtain ⟨m, -, f, relation, target, -, back, calls⟩ := calls_of_mem_joinPlans built ok member
  exact ⟨_, calls.name_eq relation⟩

theorem distinct_append_iff (built : ctx.Built d naming excluded) (ok : d.joinPlans ctx excluded = .ok plans)
    (given : Distinct source (d.kept excluded)) {key : Table → Json}
    (ofModels : tables.map key = (d.kept excluded).map fun m => Naming.shown asked (source m))
    (ofJoins : joins.map key = plans.map fun p => Naming.shown asked (.str p.name)) :
    Distinct key (tables ++ joins) ↔ d.Apart excluded plans source asked := by
  have shown : Distinct key (tables ++ joins) ↔ Distinct id (((d.kept excluded).map fun m =>
      Naming.shown asked (source m)) ++ plans.map fun p => Naming.shown asked (.str p.name)) := by
    rw [← ofModels, ← ofJoins, ← List.map_append, Distinct.map_iff]
    rfl
  rw [shown, Distinct, List.pairwise_append, List.pairwise_map, List.pairwise_map]
  simp only [List.forall_mem_map, id]
  constructor
  · rintro ⟨models, joins, across⟩
    exact ⟨fun _ => models, joins, fun m kept _ => across m kept⟩
  · rintro ⟨models, joins, across⟩
    refine ⟨?_, joins, fun m kept p member => ?_⟩
    · -- Names that were given apart can only meet in camel case.
      cases asked with
      | false => exact given
      | true => exact models rfl
    · cases free : Naming.isReserved (source m) with
      | true => exact across m kept free p member
      | false =>
        obtain ⟨relation, name⟩ := plan_name built ok member
        rw [name]
        exact Naming.shown_ne_join free asked relation

theorem shown_of_tabled (built : ctx.Built d naming excluded)
    (tabled : List.Forall₂ (fun m t => (ctx.table m).result = .ok t) (d.kept excluded) tables) :
    (∀ asked, tables.map (fun t => Naming.shown asked (.str t.model)) =
        (d.kept excluded).map fun m => Naming.shown asked m.name) ∧
      tables.map Table.name = (d.kept excluded).map fun m => Naming.shown naming.remapTables m.sourceName := by
  constructor
  · intro asked
    exact map_eq_of_forall₂ tabled fun m t made => by rw [(Context.table_ok made).model_eq]
  · refine map_eq_of_forall₂ tabled fun m t made => ?_
    rw [← built.naming_eq]
    exact Naming.resolveTableName_eq (Context.table_ok made).named

theorem shown_of_joined (built : ctx.Built d naming excluded) (planned : d.joinPlans ctx excluded = .ok plans)
    (joined : List.Forall₂ (fun p t => (JoinTable.table ctx p.model p.other p.relation).result = .ok t) plans joins) :
    (∀ asked, joins.map (fun t => Naming.shown asked (.str t.model)) =
        plans.map fun p => Naming.shown asked (.str p.name)) ∧
      joins.map Table.name = plans.map fun p => Naming.shown naming.remapTables (.str p.name) := by
  have named : List.Forall₂ (fun p t => t.model = p.name ∧ t.name = Naming.shown naming.remapTables (.str p.name))
      plans joins := by
    rw [List.forall₂_iff_zip]
    refine ⟨joined.length_eq, fun {p t} row => ?_⟩
    have made := List.forall₂_zip joined row
    have model := (joined_model built planned (List.of_mem_zip row).1 made).1
    obtain ⟨a, b, idA, idB, sides⟩ := JoinTable.table_ok made
    have shown := Naming.resolveTableName_eq sides.resolved
    rw [model, built.naming_eq] at shown
    exact ⟨model, shown⟩
  constructor
  · intro asked
    exact map_eq_of_forall₂ named fun p t made => by rw [made.1]
  · exact map_eq_of_forall₂ named fun p t made => made.2

theorem toSchema_distinct_iff (ok : (d.toSchema naming excluded).result = .ok s)
    (sources : Distinct Model.sourceName d.models) :
    ∃ ctx plans, (Context.build d naming excluded).result = .ok ctx ∧ d.joinPlans ctx excluded = .ok plans ∧
      ((s.tables.map Table.constant).Nodup ↔ d.Apart excluded plans Model.name true) ∧
      ((s.tables.map Table.model).Nodup ↔ d.Apart excluded plans Model.name false) ∧
      (Distinct Table.name s.tables ↔ d.Apart excluded plans Model.sourceName naming.remapTables) := by
  obtain ⟨ctx, tables, joins, plans, ctxOk, rfl, tabled, planned, joined⟩ := toSchema_ok ok
  have built := Context.build_ok ctxOk
  obtain ⟨models, names⟩ := shown_of_tabled built tabled
  obtain ⟨joinModels, joinNames⟩ := shown_of_joined built planned joined
  refine ⟨ctx, plans, ctxOk, planned, ?_, ?_, ?_⟩
  · have constants : (tables ++ joins).map Table.constant =
        ((tables ++ joins).map fun t => Naming.camel t.model).map (· ++ "Table") := by
      rw [List.map_map]
      refine List.map_congr_left fun t member => ?_
      rcases List.mem_append.1 member with table | join
      · obtain ⟨m, -, made⟩ := exists_item tabled table
        exact (Context.table_ok made).constant_eq
      · obtain ⟨p, -, made⟩ := exists_item joined join
        obtain ⟨a, b, idA, idB, sides⟩ := JoinTable.table_ok made
        exact sides.constant_eq
    have injective : Function.Injective (· ++ "Table") := fun a b same => (String.append_left_inj "Table").1 same
    rw [constants, List.nodup_map_iff injective, ← Distinct.map_str_iff]
    exact distinct_append_iff built planned built.distinct_kept (models true) (joinModels true)
  · rw [← Distinct.map_str_iff]
    exact distinct_append_iff built planned built.distinct_kept (models false) (joinModels false)
  · exact distinct_append_iff built planned (sources.sublist List.filter_sublist) names joinNames

end Datamodel

namespace Sample

theorem blog_distinct_iff : ∃ s, (blog.toSchema ⟨true, true⟩ []).result = .ok s ∧
    Distinct Model.sourceName blog.models ∧
    ∃ ctx plans, (Context.build blog ⟨true, true⟩ []).result = .ok ctx ∧ blog.joinPlans ctx [] = .ok plans ∧
      ((s.tables.map Table.constant).Nodup ↔ blog.Apart [] plans Model.name true) ∧
      ((s.tables.map Table.model).Nodup ↔ blog.Apart [] plans Model.name false) ∧
      (Distinct Table.name s.tables ↔ blog.Apart [] plans Model.sourceName true) := by
  have sources : Distinct Model.sourceName blog.models := by decide +kernel
  obtain ⟨s, ok⟩ := blog_toSchema
  exact ⟨s, ok, sources, Datamodel.toSchema_distinct_iff ok sources⟩

def namesakes : Datamodel where
  models := [model "UserPost" [id "id" "Int"], model "User_Post" [id "id" "Int"]]
  enums := []

end Sample

theorem Datamodel.not_forall_distinct : ¬∀ (d : Datamodel) (naming : Naming) (excluded : List Json) (s : Schema),
    Distinct Model.sourceName d.models → (d.toSchema naming excluded).result = .ok s →
      (s.tables.map Table.constant).Nodup ∧ (s.tables.map Table.model).Nodup ∧ Distinct Table.name s.tables := by
  intro claim
  have clash : ∃ s ∈ (Sample.namesakes.toSchema ⟨false, false⟩ []).result.toOption,
      ¬(s.tables.map Table.constant).Nodup := by decide +kernel
  obtain ⟨s, made, clash⟩ := clash
  exact clash (claim Sample.namesakes ⟨false, false⟩ [] s (by decide +kernel) (toOption_eq_some.1 made)).1

end SyncSchema
