import SyncSchema.Mapping.Tables
import SyncSchema.Proofs.Outcome

namespace SyncSchema.Sample

def column (name type : String) : Field where
  name := .str name
  type := .str type
  kind := .str "scalar"
  mappedName := .null
  isRequired := .ofBool true
  isList := .ofBool false
  isId := .ofBool false
  isUnique := .ofBool false
  relationName := .null
  fromFields := []
  toFields := []
  defaultValue := .null

def id (name type : String) : Field :=
  { column name type with isId := .ofBool true }

def one (name type relation : String) (fromFields toFields : List String) : Field :=
  { column name type with
    kind := .str "object"
    relationName := .str relation
    fromFields := fromFields.map .str
    toFields := toFields.map .str }

def many (name type relation : String) : Field :=
  { one name type relation [] [] with isList := .ofBool true }

def model (name : String) (fields : List Field) : Model where
  name := .str name
  mappedName := .null
  fields := fields
  primaryKey := none
  uniqueFields := []
  uniqueIndexes := []

def posts : Field :=
  many "posts" "post" "written"

def author : Field :=
  one "author" "user" "written" ["author_email"] ["email"]

def user : Model :=
  model "user" [id "user_id" "Int", column "email" "String", posts]

def post : Model :=
  { model "post" [column "blog_id" "Int", column "post_no" "Int", column "author_email" "String", author] with
    primaryKey := some [.str "blog_id", .str "post_no"] }

def links : Field :=
  many "links" "link" "tagged"

def tags : Field :=
  many "tags" "tag" "tagged"

def tag : Model :=
  model "tag" [id "tag_id" "Int", links]

def link : Model :=
  model "link" [id "link_id" "String", tags]

def blog : Datamodel where
  models := [user, post, tag, link]
  enums := []

def retired : Datamodel :=
  { blog with
    models := model "tag" [column "tag_id" "Int", column "tag_id" "Int", one "owner" "nobody" "owned" [] []] ::
      blog.models }

theorem blog_toSchema : ∃ s, (blog.toSchema ⟨true, true⟩ []).result = .ok s := by
  have succeeds : (blog.toSchema ⟨true, true⟩ []).result.isOk = true := by decide +kernel
  exact Outcome.exists_of_isOk succeeds

end SyncSchema.Sample
