import Corebank.Text

/-! # Application configuration -/

namespace Corebank
open Library

/-- `os.environ`. -/
abbrev Environ := String → Option String

def getenv (environ : Environ) (name default : String) : String := (environ name).getD default

structure Config where
  jwtSecretKey : Option String
  dbHost : String
  dbUser : String
  dbPassword : String
  dbName : String
  corsOrigins : String
  deriving DecidableEq, Repr

def BaseConfig (environ : Environ) : Config where
  jwtSecretKey := environ "JWT_SECRET_KEY"
  dbHost := getenv environ "DB_HOST" "localhost"
  dbUser := getenv environ "DB_USER" "root"
  dbPassword := getenv environ "DB_PASSWORD" ""
  dbName := getenv environ "DB_NAME" "bank"
  corsOrigins := getenv environ "CORS_ORIGINS" "*"

namespace ProductionConfig

def load (environ : Environ) : Config := BaseConfig environ

def required (config : Config) : List (String × Option String) :=
  [("JWT_SECRET_KEY", config.jwtSecretKey), ("DB_PASSWORD", some config.dbPassword),
    ("DB_NAME", some config.dbName), ("DB_USER", some config.dbUser),
    ("DB_HOST", some config.dbHost)]

/-- `None` and the empty string are falsy. -/
def missing (config : Config) : List String :=
  ((required config).filter fun setting => setting.2.all (· = "")).map Prod.fst

/-- An error is a `RuntimeError` with its message. -/
def validate (config : Config) : Except String Unit :=
  if missing config ≠ [] then
    .error ("Refusing to start: missing required environment variables: " ++
      ", ".intercalate (missing config))
  else if config.corsOrigins = "*" then
    .error "Refusing to start: CORS_ORIGINS must not be '*' in production."
  else .ok ()

end ProductionConfig

inductive Origins where
  | allowlist (origins : List (List Char))
  | all
  deriving DecidableEq, Repr

/-- The origins `_init_extensions` passes to `CORS`. -/
def initExtensions (config : Config) : Origins :=
  let origins := Text.fields isSpace ',' config.corsOrigins.toList
  if origins = [] then .all else .allowlist origins

end Corebank
