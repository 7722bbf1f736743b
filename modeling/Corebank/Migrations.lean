/-!
# Migrations

`run_migrations` of `scripts/migrate.py` over the two files of `migrations/`. Every statement commits
on its own, and a run may be stopped before any of them.
-/

namespace Corebank

inductive Ddl where
  /-- `CREATE TABLE IF NOT EXISTS`, with the tables its foreign keys refer to. -/
  | createTable (name : String) (references : List String)
  | createIndex (name table : String)
  deriving DecidableEq, Repr

structure Migration where
  version : String
  statements : List Ddl
  deriving DecidableEq, Repr

/-- The schema, and the rows of `schema_migrations` in the order they were inserted. -/
structure Catalog where
  database : Bool
  versionTable : Bool
  tables : List String
  indexes : List (String × String)
  applied : List String
  deriving DecidableEq, Repr

def Catalog.empty : Catalog := ⟨false, false, [], [], []⟩

/-! ## A run -/

inductive Step where
  | createDatabase
  | createVersionTable
  | selectApplied
  | statement (s : Ddl)
  | record (version : String)
  deriving DecidableEq, Repr

def Step.exec : Step → Catalog → Option Catalog
  | .createDatabase, c => some { c with database := true }
  | .createVersionTable, c => some { c with versionTable := true }
  | .selectApplied, c => some c
  | .statement (.createTable name references), c =>
      if name ∈ c.tables then some c
      else if references ⊆ c.tables then some { c with tables := c.tables ++ [name] }
      else none
  | .statement (.createIndex name table), c =>
      if table ∈ c.tables ∧ (name, table) ∉ c.indexes then
        some { c with indexes := c.indexes ++ [(name, table)] }
      else none
  | .record version, c =>
      if version ∈ c.applied then none else some { c with applied := c.applied ++ [version] }

def Migration.steps (m : Migration) : List Step := m.statements.map .statement ++ [.record m.version]

def preamble : List Step := [.createDatabase, .createVersionTable, .selectApplied]

def runSteps (files : List Migration) (c : Catalog) : List Step :=
  preamble ++ (files.filter fun m => m.version ∉ c.applied).flatMap Migration.steps

structure Run where
  catalog : Catalog
  executed : List Step
  completed : Bool
  deriving DecidableEq, Repr

/-- Performs steps until one fails, or until `stop` of them are done. -/
def perform : List Step → Option Nat → Catalog → Run
  | [], _, c => ⟨c, [], true⟩
  | _ :: _, some 0, c => ⟨c, [], false⟩
  | s :: rest, stop, c =>
      match s.exec c with
      | none => ⟨c, [], false⟩
      | some c' =>
          let run := perform rest (stop.map (· - 1)) c'
          { run with executed := s :: run.executed }

def runMigrations (files : List Migration) (stop : Option Nat) (c : Catalog) : Run :=
  perform (runSteps files c) stop c

def interrupted (files : List Migration) (stops : List Nat) (c : Catalog) : Catalog :=
  stops.foldl (fun c n => (runMigrations files (some n) c).catalog) c

/-! ## The files -/

def initialSchema : Migration where
  version := "001_initial_schema"
  statements :=
    [.createTable "customer" [], .createTable "user" ["customer"], .createTable "branch" [],
      .createTable "account" ["customer", "branch"], .createTable "loan" ["customer"],
      .createTable "loan_payment" ["loan"], .createTable "employee" ["branch"],
      .createTable "card" ["account"], .createTable "transaction" ["account"],
      .createTable "customer_support" ["customer", "employee"],
      .createTable "credit_score" ["customer"]]

def indexes : Migration where
  version := "002_indexes"
  statements :=
    [.createIndex "idx_user_customer" "user", .createIndex "idx_account_customer" "account",
      .createIndex "idx_account_branch" "account", .createIndex "idx_loan_customer" "loan",
      .createIndex "idx_loanpayment_loan" "loan_payment",
      .createIndex "idx_employee_branch" "employee", .createIndex "idx_card_account" "card",
      .createIndex "idx_transaction_from" "transaction",
      .createIndex "idx_transaction_to" "transaction",
      .createIndex "idx_ticket_customer" "customer_support",
      .createIndex "idx_ticket_employee" "customer_support",
      .createIndex "idx_ticket_status" "customer_support",
      .createIndex "idx_creditscore_customer" "credit_score"]

def migrations : List Migration := [initialSchema, indexes]

def migrated : Nat → Catalog
  | 0 => Catalog.empty
  | k + 1 => (runMigrations (migrations.take (k + 1)) none Catalog.empty).catalog

end Corebank
