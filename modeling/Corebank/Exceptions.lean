namespace Corebank

inductive AppError where
  | badRequest | auth | forbidden | notFound | conflict | businessRule
  deriving DecidableEq, Repr

def AppError.statusCode : AppError → Nat
  | .badRequest => 400
  | .auth => 401
  | .forbidden => 403
  | .notFound => 404
  | .conflict => 409
  | .businessRule => 422

inductive ErrorClass where
  | integrity | operational | data | programming
  deriving DecidableEq, Repr

structure DriverError where
  errorClass : ErrorClass
  errno : Nat
  deriving DecidableEq, Repr

/-- PyMySQL's `error_map`, right for the numbers that are raised here and not for every one it lists. -/
def errorMap (errno : Nat) : ErrorClass :=
  if errno ∈ [1062, 1451, 1452] then .integrity
  else if errno ∈ [1264, 1406] then .data
  else if errno = 1064 then .programming
  else .operational

def mysqlError (errno : Nat) : DriverError := ⟨errorMap errno, errno⟩

inductive Exn where
  | app (error : AppError) (message : String)
  | driver (error : DriverError)
  | invalidOperation
  | http (code : Nat)
  | other (name : String)
  deriving DecidableEq, Repr

/-- The status the error handlers of `app/api/errors.py` answer with. -/
def Exn.statusCode : Exn → Nat
  | .app error _ => error.statusCode
  | .http code => code
  | _ => 500

/-- `integrity_guard`: only an `IntegrityError` is looked at, then its number. -/
def integrityGuard : Exn → Exn
  | .driver e =>
      if e.errorClass = .integrity then
        if e.errno = 1062 then .app .conflict "A record with these unique values already exists"
        else if e.errno = 1452 then .app .badRequest "A referenced record does not exist"
        else if e.errno = 1451 then
          .app .conflict "Cannot delete: this record is still referenced by others"
        else if e.errno = 3819 ∨ e.errno = 4025 then
          .app .businessRule "A database constraint was violated"
        else .driver e
      else .driver e
  | e => e

theorem integrityGuard_other (e : DriverError) (h : e.errorClass ≠ .integrity) :
    integrityGuard (.driver e) = .driver e := by
  simp [integrityGuard, h]

end Corebank
