import SyncSchema.Command.Flag
import SyncSchema.Options.Load

namespace SyncSchema.Command

inductive UsageError where
  | ambiguous (argument : String) (spellings : List String)
  | expectsOne (flag : Flag)
  | expectsMore (flag : Flag)
  | ignoredValue (flag : Flag) (value : String)
  | noDocument
  | unknown (arguments : List String)
deriving DecidableEq

def UsageError.message : UsageError → String
  | ambiguous argument spellings =>
    s!"ambiguous option: {argument} could match " ++ ", ".intercalate spellings
  | expectsOne flag => s!"argument {flag.label}: expected one argument"
  | expectsMore flag => s!"argument {flag.label}: expected at least one argument"
  | ignoredValue flag value => s!"argument {flag.label}: ignored explicit argument {Text.literal value}"
  | noDocument => s!"the following arguments are required: {Flag.document.label}"
  | unknown arguments => "unrecognized arguments: " ++ " ".intercalate arguments

inductive Word where
  | plain
  | stop
  | option (flag : Flag) (spelling : String) (inline? : Option (List Char))
  | unknown

namespace Word

def splitValue (text : List Char) : List Char × Option (List Char) :=
  let name := text.takeWhile (· != '=')
  match text.drop name.length with
  | _ :: value => (name, some value)
  | [] => (name, none)

def isLineEnd (text : List Char) : Bool :=
  text.isEmpty || text == ['\n']

def isNegativeNumber : List Char → Bool
  | '-' :: rest =>
    let digits := rest.takeWhile Text.isDecimalDigit
    match rest.drop digits.length with
    | '.' :: more =>
      let fraction := more.takeWhile Text.isDecimalDigit
      !fraction.isEmpty && isLineEnd (more.drop fraction.length)
    | more => !digits.isEmpty && isLineEnd more
  | _ => false

def candidates (text : List Char) : List (Flag × String × Option (List Char)) :=
  match text with
  | '-' :: '-' :: _ =>
    let (name, inline?) := splitValue text
    (Flag.spellings.filter fun entry => name.isPrefixOf entry.1.toList).map fun (spelling, flag) =>
      (flag, spelling, inline?)
  | dash :: letter :: rest =>
    (Flag.spellings.filter fun entry => entry.1.toList == [dash, letter]).map fun (spelling, flag) =>
      (flag, spelling, some rest)
  | _ => []

def ofText (argument : String) : Except UsageError Word :=
  let text := argument.toList
  if text.head? != some '-' || text.length == 1 then .ok .plain
  else
    let (name, inline?) := splitValue text
    match Flag.spellings.lookup argument, Flag.spellings.lookup (String.ofList name) with
    | some flag, _ => .ok (.option flag argument none)
    | none, some flag => .ok (.option flag (String.ofList name) inline?)
    | none, none =>
      match candidates text with
      | [(flag, spelling, inline?)] => .ok (.option flag spelling inline?)
      | [] => .ok (if isNegativeNumber text || text.contains ' ' then .plain else .unknown)
      | several => .error (.ambiguous argument (several.map (·.2.1)))

def ofTexts : List String → Except UsageError (List (String × Word))
  | [] => .ok []
  | argument :: rest =>
    if argument == "--" then .ok ((argument, stop) :: rest.map (·, plain))
    else do
      let word ← ofText argument
      return (argument, word) :: (← ofTexts rest)

end Word

structure Use where
  flag : Flag
  spelling : String
  values : List String

structure Cluster where
  uses : List Use
  open? : Option (Flag × String)

namespace Cluster

def isShort (spelling : String) : Bool :=
  spelling.length == 2

/--
Takes an argument apart. Behind a short option without values stand more short options, the first letter
first; nothing else may stand there. A value of two dashes alone is dropped.
-/
def read (flag : Flag) (spelling : String) : Option (List Char) → Except UsageError Cluster
  | none => .ok ⟨[], some (flag, spelling)⟩
  | some value =>
    if flag.arity ≠ .none then .ok ⟨[⟨flag, spelling, [String.ofList value].erase "--"⟩], none⟩
    else
      let ignored := Except.error (UsageError.ignoredValue flag (String.ofList value))
      match value with
      | [] => ignored
      | letter :: more =>
        let next := String.ofList ['-', letter]
        match isShort spelling, Flag.spellings.lookup next with
        | true, some nextFlag =>
          let cluster := if more.isEmpty then read nextFlag next none else read nextFlag next (some more)
          cluster.map fun cluster => { cluster with uses := ⟨flag, spelling, []⟩ :: cluster.uses }
        | _, _ => ignored
termination_by inline? => (inline?.map (·.length + 1)).getD 0
decreasing_by all_goals simp

end Cluster

inductive Stop where
  | help
  | usage (error : UsageError)
deriving DecidableEq

namespace Stop

def status : Stop → Nat
  | help => 0
  | usage _ => 2

def text : Stop → String
  | help => ""
  | usage error => s!"zero-schema-gen: error: {error.message}\n"

end Stop

def followers (flag : Flag) (rest : List (String × Word)) : Except UsageError (List String) :=
  let plain := (rest.takeWhile fun (_, word) => match word with | .plain => true | _ => false).map (·.1)
  match flag.arity, plain with
  | .none, _ => .ok []
  | .one, value :: _ => .ok [value]
  | .one, [] => .error (.expectsOne flag)
  | .many, [] => .error (.expectsMore flag)
  | .many, values => .ok values

/-- The uses in their order, and the arguments that belong to none. Asking for help ends the reading. -/
def uses : List (String × Word) → Except Stop (List Use × List String)
  | [] => .ok ([], [])
  | (_, .option flag spelling inline?) :: rest => do
    let cluster ← (Cluster.read flag spelling inline?).mapError .usage
    let followed ←
      match cluster.open? with
      | none => .ok []
      | some (flag, spelling) =>
        (followers flag rest).map (fun values => [⟨flag, spelling, values⟩]) |>.mapError .usage
    let here := cluster.uses ++ followed
    if here.any (·.flag = .help) then throw .help
    let taken := (followed.flatMap (·.values)).length
    let (more, extra) ← uses (rest.drop taken)
    return (here ++ more, extra)
  | (argument, _) :: rest => do
    let (more, extra) ← uses rest
    return (more, argument :: extra)
termination_by words => words.length
decreasing_by all_goals (simp only [List.length_cons, List.length_drop]; omega)

inductive Single where
  | dropped
  | text (s : String)
deriving DecidableEq

namespace Single

def toJson : Single → Json
  | dropped => .arr []
  | text s => .str s

def path? : Single → Except Misuse Path
  | dropped => .error (.notAPath .list)
  | text s => .ok (.ofText s)

end Single

structure Arguments where
  document : Single
  config : Option Single
  outputDir : Option Single
  outputFile : Option Single
  excludeTables : Option (List String)
  remapTables : Option Bool
  remapColumns : Option Bool
  enumAsUnion : Option Bool
  prettier : Option Bool
  verbose : Bool
  noColor : Bool
deriving DecidableEq

namespace Arguments

def lastUse? (uses : List Use) (flag : Flag) : Option Use :=
  uses.reverse.find? (·.flag = flag)

def lastValue? (uses : List Use) (flag : Flag) : Option Single :=
  (lastUse? uses flag).map fun use => (use.values.head?.map .text).getD .dropped

def lastSwitch? (uses : List Use) (flag : Flag) : Option Bool :=
  (lastUse? uses flag).map fun use => !"--no-".toList.isPrefixOf use.spelling.toList

def ofUses? (uses : List Use) : Option Arguments :=
  (lastValue? uses .document).map fun document => {
    document
    config := lastValue? uses .config
    outputDir := lastValue? uses .outputDir
    outputFile := lastValue? uses .outputFile
    excludeTables := (lastUse? uses .excludeTables).map (·.values)
    remapTables := lastSwitch? uses .remapTables
    remapColumns := lastSwitch? uses .remapColumns
    enumAsUnion := lastSwitch? uses .enumAsUnion
    prettier := lastSwitch? uses .prettier
    verbose := (lastUse? uses .verbose).isSome
    noColor := (lastUse? uses .noColor).isSome }

def parse (arguments : List String) : Except Stop Arguments := do
  let words ← (Word.ofTexts arguments).mapError .usage
  let (found, extra) ← uses words
  match ofUses? found with
  | none => throw (.usage .noDocument)
  | some read => if extra.isEmpty then return read else throw (.usage (.unknown extra))

def configPath (a : Arguments) : String :=
  match a.config with
  | some (.text path) => path
  | _ => ""

def overrides (a : Arguments) : Options.Overrides :=
  (a.outputDir.map fun value => (.outputDir, .ofJson value.toJson)).toList ++
  (a.outputFile.map fun value => (.outputFile, .ofJson value.toJson)).toList ++
  (a.excludeTables.map fun names => (.excludeTables, .list (names.map .text))).toList ++
  (a.remapTables.map fun b => (.remapTables, .bool b)).toList ++
  (a.remapColumns.map fun b => (.remapColumns, .bool b)).toList ++
  (a.enumAsUnion.map fun b => (.enumAsUnion, .bool b)).toList ++
  (a.prettier.map fun b => (.prettier, .bool b)).toList

end Arguments

end SyncSchema.Command
