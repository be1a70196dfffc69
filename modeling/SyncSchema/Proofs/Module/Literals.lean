import SyncSchema.Proofs.Module.Pieces
import SyncSchema.Proofs.Text.Script

namespace SyncSchema

namespace Module
open Text.Script

variable {value : String} {after : List Piece}

theorem reads_literal (value : String) (after : List Piece) :
    Reads (print (.literal (.str value) :: after)).toList value (print after).toList := by
  rw [print_cons, String.toList_append]
  exact reads_quote value _

theorem toList_print_bare (value : String) (after : List Piece) :
    (print (.bare (.str value) :: after)).toList = '\'' :: (value.toList ++ '\'' :: (print after).toList) := by
  rw [print_cons, String.toList_append]
  simp [Piece.text]

/-- A module is made of its pieces, and what they say stands where a script reads it: always where it is escaped,
otherwise just if no character would have to be. -/
theorem text_reads (s : Schema) (enumsAsUnions : Bool) (hash : Option String) :
    text s enumsAsUnions hash = print (pieces s enumsAsUnions hash) ∧
    (pieces s enumsAsUnions hash).filter Piece.isMark = marks s enumsAsUnions ∧
    ∀ before piece after, pieces s enumsAsUnions hash = before ++ piece :: after → ∀ value,
      (piece = .literal (.str value) → Reads (print (piece :: after)).toList value (print after).toList) ∧
      (piece = .bare (.str value) → (Reads (print (piece :: after)).toList value (print after).toList ↔
        ∀ c ∈ value.toList, isPlain c = true)) := by
  refine ⟨text_eq s enumsAsUnions hash, marks_pieces s enumsAsUnions hash, ?_⟩
  intro before piece after _ value
  constructor
  · rintro rfl
    exact reads_literal value after
  · rintro rfl
    rw [toList_print_bare]
    exact reads_bare_iff value _

theorem exists_split {s : Schema} {enumsAsUnions : Bool} {piece : Piece} (mark : piece ∈ marks s enumsAsUnions)
    (hash : Option String) : ∃ before after, pieces s enumsAsUnions hash = before ++ piece :: after := by
  rw [← marks_pieces s enumsAsUnions hash] at mark
  exact List.append_of_mem (List.mem_of_mem_filter mark)

end Module

namespace Sample
open SyncSchema.Module Text.Script

def notes : Schema where
  tables := [{
    name := .str "note"
    storedAs := none
    model := "note"
    constant := "noteTable"
    columns := [(.str "its", ⟨"string()", false, some (.str "it's")⟩)]
    primaryKey := [.str "its"]
    relationships := [] }]
  enums := []

theorem notes_reads : ∃ before after, pieces notes false none = before ++ .literal (.str "note") :: after ∧
    Reads (print (.literal (.str "note") :: after)).toList "note" (print after).toList := by
  have mark : Piece.literal (.str "note") ∈ marks notes false := by
    simp [marks, notes, Marks.table]
  obtain ⟨before, after, split⟩ := exists_split mark none
  exact ⟨before, after, split, ((text_reads notes false none).2.2 before _ after split "note").1 rfl⟩

end Sample

theorem Module.not_forall_reads : ¬∀ (s : Schema) (enumsAsUnions : Bool) (hash : Option String)
    (before after : List Piece) (value : String),
    pieces s enumsAsUnions hash = before ++ .bare (.str value) :: after →
    Text.Script.Reads (print (.bare (.str value) :: after)).toList value (print after).toList := by
  intro reads
  have mark : Piece.bare (.str "it's") ∈ marks Sample.notes false := by
    simp [marks, Sample.notes, Marks.table, given, Option.filter]
  obtain ⟨before, after, split⟩ := exists_split mark none
  have whole := reads Sample.notes false none before after "it's" split
  rw [toList_print_bare] at whole
  have plain : "it".toList.all Text.Script.isPlain = true := by decide
  have early := (Text.Script.reads_bare_iff "it" ('s' :: '\'' :: (print after).toList)).2 (List.all_eq_true.1 plain)
  exact absurd (whole.unique early).1 (by decide)

end SyncSchema
