namespace SyncSchema

structure Level where
  number : Int
deriving DecidableEq

namespace Level

def debug : Level := ⟨10⟩
def info : Level := ⟨20⟩
def warning : Level := ⟨30⟩
def error : Level := ⟨40⟩
def critical : Level := ⟨50⟩

def name (level : Level) : String :=
  if level.number = 0 then "NOTSET"
  else if level = debug then "DEBUG"
  else if level = info then "INFO"
  else if level = warning then "WARNING"
  else if level = error then "ERROR"
  else if level = critical then "CRITICAL"
  else s!"Level {level.number}"

def ofName? : String → Option Level
  | "NOTSET" => some ⟨0⟩
  | "DEBUG" => some debug
  | "INFO" => some info
  | "WARN" | "WARNING" => some warning
  | "ERROR" => some error
  | "FATAL" | "CRITICAL" => some critical
  | _ => none

end Level

structure Record where
  level : Level
  message : String
  traced : Bool := false
deriving DecidableEq

end SyncSchema
