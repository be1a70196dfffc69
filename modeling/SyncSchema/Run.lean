import SyncSchema.Failure
import SyncSchema.Log

/-!
Runs that keep a log. A run that fails keeps the records it made before; the result does not depend on
the log, so `result` carries every composition of runs to one of plain outcomes.
-/

namespace SyncSchema

structure Run (α : Type) where
  records : List Record
  result : Except Failure α

namespace Run

variable {α β : Type}

instance : Monad Run where
  pure a := ⟨[], .ok a⟩
  bind run next :=
    match run.result with
    | .error failure => ⟨run.records, .error failure⟩
    | .ok a => ⟨run.records ++ (next a).records, (next a).result⟩

def log (level : Level) (message : String) : Run Unit :=
  ⟨[{ level, message }], .ok ()⟩

def fail (failure : Failure) : Run α :=
  ⟨[], .error failure⟩

def stop (problem : Problem) : Run α :=
  fail (.problem problem)

def lift (outcome : Except Failure α) : Run α :=
  ⟨[], outcome⟩

def check (outcome : Except Misuse α) : Run α :=
  ⟨[], outcome.mapError .misuse⟩

def encode (text : Text.Points) : Run ByteArray :=
  lift ((Text.encode text).mapError fun e => .invalid (.unencodable e))

def readFile (store : Store) (current : Location) (path : Path) (absent : Problem)
    (adjust : Text.Utf8.Error → Text.Utf8.Error) : Run (List Char) :=
  match store.content? current path with
  | .error refused => fail (.refused refused)
  | .ok none => stop absent
  | .ok (some content) => lift ((Store.decode content).mapError fun e => .undecodable (adjust e))

@[simp] theorem result_pure (a : α) : (pure a : Run α).result = .ok a := rfl

@[simp] theorem result_bind (run : Run α) (next : α → Run β) :
    (run >>= next).result = run.result >>= fun a => (next a).result := by
  cases run with
  | mk records result => cases result <;> rfl

@[simp] theorem result_log (level : Level) (message : String) : (log level message).result = .ok () := rfl

@[simp] theorem result_stop (problem : Problem) :
    (stop problem : Run α).result = .error (.problem problem) := rfl

@[simp] theorem result_lift (outcome : Except Failure α) : (lift outcome).result = outcome := rfl

end Run

end SyncSchema
