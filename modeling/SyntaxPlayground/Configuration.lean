import SyntaxPlayground.Duration
import SyntaxPlayground.Editor

/-!
# Configuration

The playground is configured by environment variables. A variable that is missing, empty or
unreadable leaves the usual value, and so does a number that is not positive.
-/

namespace SyntaxPlayground

/-- The settings of the playground. Durations are in nanoseconds. -/
structure Configuration where
  port : Text := utf8 "8090"
  compilerUrl : Text := utf8 "http://localhost:8081"
  compilerApiKey : Text := []
  compilerTimeout : Int := 10 * Duration.second
  /-- The key that the session routes ask for; empty if they ask for none. -/
  apiKey : Text := []
  sessionTtl : Int := 30 * Duration.minute
  maxSessions : Int := 1000
  cleanupInterval : Int := Duration.minute
  maxSourceBytes : Int := 1048576
  offsetUnit : Text := utf8 "rune"
  socketEnabled : Bool := true
deriving DecidableEq, Repr

/-- What is wrong with a configuration. -/
inductive ConfigurationError where
  | noCompiler
  | badUnit (e : UnitError)
deriving DecidableEq, Repr

namespace ConfigurationError

/-- The text shown for the error. -/
def message : ConfigurationError → Text
  | noCompiler => utf8 "COMPILER_URL is required"
  | badUnit e => utf8 "OFFSET_UNIT: " ++ e.message

end ConfigurationError

/-- The environment: the value of each variable, empty if it is not set. -/
abbrev Environment := Text → Text

namespace Environment

/-- The value of a variable, or `fallback` if it is empty. -/
def textOr (env : Environment) (name fallback : Text) : Text :=
  if env name = [] then fallback else env name

/-- The value of a variable as `read` understands it, or `fallback`. -/
def readOr {α : Type} (env : Environment) (read : Text → Option α) (name : Text) (fallback : α) :
    α :=
  if env name = [] then fallback else (read (env name)).getD fallback

/-- The value of a variable if it is readable and positive, or `fallback`. -/
def positiveOr (env : Environment) (read : Text → Option Int) (name : Text) (fallback : Int) :
    Int :=
  let n := env.readOr read name fallback
  if n ≤ 0 then fallback else n

end Environment

/-- Reads a truth value. -/
def readBool? (t : Text) : Option Bool :=
  if ["1", "t", "T", "TRUE", "true", "True"].any (utf8 · == t) then some true
  else if ["0", "f", "F", "FALSE", "false", "False"].any (utf8 · == t) then some false
  else none

namespace Configuration

/-- The variables that are looked at. -/
def variableNames : List Text :=
  ["PORT", "COMPILER_URL", "COMPILER_API_KEY", "COMPILER_TIMEOUT", "ASTVIEW_API_KEY", "SESSION_TTL",
    "MAX_SESSIONS", "SESSION_CLEANUP_INTERVAL", "MAX_SOURCE_BYTES", "OFFSET_UNIT",
    "WS_ENABLED"].map utf8

/-- The configuration that an environment asks for. -/
def load (env : Environment) : Configuration :=
  let usual : Configuration := {}
  { port := env.textOr (utf8 "PORT") usual.port
    compilerUrl := env.textOr (utf8 "COMPILER_URL") usual.compilerUrl
    compilerApiKey := env (utf8 "COMPILER_API_KEY")
    compilerTimeout :=
      env.positiveOr Duration.read? (utf8 "COMPILER_TIMEOUT") usual.compilerTimeout
    apiKey := env (utf8 "ASTVIEW_API_KEY")
    sessionTtl := env.positiveOr Duration.read? (utf8 "SESSION_TTL") usual.sessionTtl
    maxSessions := env.positiveOr Text.readInt? (utf8 "MAX_SESSIONS") usual.maxSessions
    cleanupInterval :=
      env.positiveOr Duration.read? (utf8 "SESSION_CLEANUP_INTERVAL") usual.cleanupInterval
    maxSourceBytes := env.positiveOr Text.readInt? (utf8 "MAX_SOURCE_BYTES") usual.maxSourceBytes
    offsetUnit := env.textOr (utf8 "OFFSET_UNIT") usual.offsetUnit
    socketEnabled := env.readOr readBool? (utf8 "WS_ENABLED") usual.socketEnabled }

/-- The unit that the compiler's offsets count, if the configuration names one. -/
def unit? (c : Configuration) : Option OffsetUnit :=
  (OffsetUnit.read c.offsetUnit).toOption

/-- What is wrong with the configuration, if anything. -/
def problem? (c : Configuration) : Option ConfigurationError :=
  if c.compilerUrl = [] then some .noCompiler
  else
    match OffsetUnit.read c.offsetUnit with
    | .ok _ => none
    | .error e => some (.badUnit e)

end Configuration

end SyntaxPlayground
