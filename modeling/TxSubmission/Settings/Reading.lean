import TxSubmission.Number.DecimalReading
import TxSubmission.Number.WholeReading
import TxSubmission.Settings
import TxSubmission.Settings.DotEnv

/-!
Reading settings. The environment wins over the settings file; names count in any letter case,
and of several spellings of one name the last wins. Texts are checked against what each setting
allows, and every setting at fault is told.
-/

namespace TxSubmission.Settings

open Number Text

inductive FieldFault where
  | notWhole
  | tooLong
  | notReal
  | tooSmall
  | unknownChoice
deriving DecidableEq, Repr

def FieldFault.code : FieldFault → String
  | .notWhole => "int_parsing"
  | .tooLong => "int_parsing_size"
  | .notReal => "float_parsing"
  | .tooSmall => "greater_than_equal"
  | .unknownChoice => "literal_error"

def readWhole (text : String) : Except FieldFault Int :=
  match Whole.read text with
  | .ok n => .ok n
  | .error .malformed => .error .notWhole
  | .error .tooLong => .error .tooLong

def readAtLeast (least : Int) (text : String) : Except FieldFault Int := do
  let n ← readWhole text
  if n < least then .error .tooSmall else pure n

def readSeconds (text : String) : Except FieldFault Amount :=
  match Binary64.readLoose? text with
  | none => .error .notReal
  | some .nan => .error .tooSmall
  | some x => if x.isBelowZero then .error .tooSmall else .ok (.real x)

def logFormats : List String := ["json", "console"]

def readLogFormat (text : String) : Except FieldFault String :=
  if text ∈ logFormats then .ok text else .error .unknownChoice

/-- The spelling of a name by which it is found: ASCII letters are small, and so is the Kelvin
sign, which is another capital K. -/
def foldName (name : String) : String :=
  String.ofList (name.toList.map fun c => if c = '\u212a' then 'k' else c.toLower)

/-- The value of a setting in the environment, or else in the file; of several spellings the
last is taken. -/
def find? (environment : List (String × String)) (file : List (String × Option String))
    (name : String) : Option String :=
  match environment.reverse.find? fun (other, _) => foldName other = name with
  | some (_, value) => some value
  | none => (file.reverse.find? fun (other, _) => foldName other = name).bind (·.2)

def readText {α : Type} (read : String → Except FieldFault α) :
    Option String → Except FieldFault (Option (Given α))
  | none => .ok none
  | some text => (read text).map (some ∘ .fit)

def readOr {α : Type} (fallback : Given α) (read : String → Except FieldFault α)
    (text : Option String) : Except FieldFault (Given α) :=
  (readText read text).map (·.getD fallback)

def fault? {α : Type} (name : String) : Except FieldFault α → Option (String × FieldFault)
  | .error fault => some (name, fault)
  | .ok _ => none

def names : List String :=
  ["block_time_seconds", "chain_id", "from_address", "incentive_address_method", "log_format",
   "log_level", "receipt_polling_attempts", "request_timeout_seconds", "rpc_url"]

/-- The settings that texts give, or the settings at fault, in the order of their names. -/
def ofTexts (text : String → Option String) : Except (List (String × FieldFault)) Settings :=
  let base : Settings := {}
  let plain (name : String) (fallback : Given String) : Given String :=
    ((text name).map .fit).getD fallback
  let blockTime := readOr base.blockTime readSeconds (text "block_time_seconds")
  let chainId := readText readWhole (text "chain_id")
  let logFormat := readOr base.logFormat readLogFormat (text "log_format")
  let attempts := readOr base.pollingAttempts (readAtLeast 1) (text "receipt_polling_attempts")
  let timeout := readText (fun s => (readWhole s).map .whole) (text "request_timeout_seconds")
  match blockTime, chainId, logFormat, attempts, timeout with
  | .ok blockTime, .ok chainId, .ok logFormat, .ok pollingAttempts, .ok requestTimeout =>
    .ok
      { logLevel := plain "log_level" base.logLevel
        logFormat
        rpcUrl := plain "rpc_url" base.rpcUrl
        requestTimeout := requestTimeout.or base.requestTimeout
        sender := plain "from_address" base.sender
        chainId := chainId.or base.chainId
        blockTime
        pollingAttempts
        incentiveMethod := plain "incentive_address_method" base.incentiveMethod }
  | _, _, _, _, _ =>
    .error
      ([fault? "block_time_seconds" blockTime, fault? "chain_id" chainId,
        fault? "log_format" logFormat, fault? "receipt_polling_attempts" attempts,
        fault? "request_timeout_seconds" timeout].filterMap id)

def read (environment : List (String × String)) (file : Option String) :
    Except (List (String × FieldFault)) Settings :=
  let bindings :=
    match file with
    | some content => DotEnv.read environment content
    | none => []
  ofTexts (find? environment bindings)

end TxSubmission.Settings
