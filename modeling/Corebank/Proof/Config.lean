import Corebank.Config

/-! # The origins production serves -/

namespace Corebank
open Library

def Origins.Restricted : Origins → Prop
  | .allowlist origins => ['*'] ∉ origins
  | .all => False

/-- Some entry of a comma-separated list is a star, with or without white space around it. -/
def HasStar (origins : List Char) : Prop :=
  ∃ before left right after, origins = before ++ (left ++ ['*'] ++ right) ++ after ∧
    (∀ c ∈ left, isSpace c) ∧ (∀ c ∈ right, isSpace c) ∧
      (before = [] ∨ ∃ more, before = more ++ [',']) ∧ (after = [] ∨ ∃ more, after = ',' :: more)

/-- Some character of the list is neither a comma nor white space. -/
def NamesOrigin (origins : List Char) : Prop := ∃ c ∈ origins, isSpace c = false ∧ c ≠ ','

theorem restricted_iff (config : Config) : (initExtensions config).Restricted ↔
    NamesOrigin config.corsOrigins.toList ∧ ¬ HasStar config.corsOrigins.toList := by
  have star : ['*'] ∈ Text.fields isSpace ',' config.corsOrigins.toList ↔
      HasStar config.corsOrigins.toList :=
    Text.mem_fields_padded (by decide) (by decide) (by decide) (by decide)
  have named : Text.fields isSpace ',' config.corsOrigins.toList ≠ [] ↔
      NamesOrigin config.corsOrigins.toList := by
    rw [Ne, Text.fields_eq_nil]
    simp [NamesOrigin]
  rw [initExtensions, ← star, ← named]
  split
  · rename_i none
    simp [Origins.Restricted, none]
  · rename_i some
    simp [Origins.Restricted, some]

theorem validate_ok {config : Config} : ProductionConfig.validate config = .ok () ↔
    ProductionConfig.missing config = [] ∧ config.corsOrigins ≠ "*" := by
  rw [ProductionConfig.validate]
  split
  · simp_all
  · split <;> simp_all

theorem missing_ne_nil {config : Config} : ProductionConfig.missing config ≠ [] ↔
    ∃ setting ∈ ProductionConfig.required config, setting.2 = none ∨ setting.2 = some "" := by
  have falsy (value : Option String) : value.all (· = "") ↔ value = none ∨ value = some "" := by
    cases value <;> simp
  rw [ProductionConfig.missing, Ne, List.map_eq_nil_iff, List.filter_eq_nil_iff]
  simp only [falsy, not_forall, not_not, exists_prop]

theorem production_restricted_iff (environ : Environ) :
    (ProductionConfig.validate (ProductionConfig.load environ) = .ok () →
        (initExtensions (ProductionConfig.load environ)).Restricted) ↔
      (∃ setting ∈ ProductionConfig.required (ProductionConfig.load environ),
        setting.2 = none ∨ setting.2 = some "") ∨
      getenv environ "CORS_ORIGINS" "*" = "*" ∨
      NamesOrigin (getenv environ "CORS_ORIGINS" "*").toList ∧
        ¬ HasStar (getenv environ "CORS_ORIGINS" "*").toList := by
  have origins : (ProductionConfig.load environ).corsOrigins =
      getenv environ "CORS_ORIGINS" "*" := rfl
  rw [validate_ok, restricted_iff, origins, ← missing_ne_nil]
  tauto

/-- Everything required is set, and the origins are the empty string. -/
def emptyOrigins : Environ := fun name =>
  if name = "JWT_SECRET_KEY" then some "secret"
  else if name = "DB_PASSWORD" then some "password"
  else if name = "CORS_ORIGINS" then some ""
  else none

theorem empty_origins_all :
    ¬ (ProductionConfig.validate (ProductionConfig.load emptyOrigins) = .ok () →
      (initExtensions (ProductionConfig.load emptyOrigins)).Restricted) := by
  intro safe
  have accepted : ProductionConfig.validate (ProductionConfig.load emptyOrigins) = .ok () := by
    decide
  exact safe accepted

end Corebank
