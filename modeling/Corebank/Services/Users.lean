import Corebank.Services.Helpers

namespace Corebank

/-- `werkzeug.security`, whose hashes carry a salt of their own. -/
class Werkzeug where
  generatePasswordHash : (salt password : String) → String
  checkPasswordHash : (hash password : String) → Bool

export Werkzeug (generatePasswordHash checkPasswordHash)

@[reducible] def clearText : Werkzeug where
  generatePasswordHash salt password := salt ++ "$" ++ password
  checkPasswordHash hash password :=
    String.ofList ((hash.toList.dropWhile (· ≠ '$')).drop 1) = password

variable [Collation] [Werkzeug]

structure UserData where
  username : String
  password : String
  role : Role
  customerId : Option String
  deriving DecidableEq, Repr

namespace UserService

def record (env : Env) (data : UserData) : User :=
  { userId := env.newId, username := data.username,
    password := generatePasswordHash env.salt data.password, role := data.role,
    customerId := data.customerId }

def create (env : Env) (data : UserData) : Service PublicUser := do
  let created ← createRow .user (record env data)
  return created.publicColumns

def listAll : Service (List PublicUser) := listRows Users.listAll

def get (userId : String) : Service PublicUser := fetchRow (Users.get userId) "User not found"

def hashed (env : Env) (fields : UserFields) : UserFields :=
  { fields with password := fields.password.map (generatePasswordHash env.salt) }

def update (env : Env) (userId : String) (fields : UserFields) : Service (Option PublicUser) :=
  updateThenGet (Users.update userId (hashed env fields)) (Users.get userId) "User not found"

def delete (userId : String) : Service Unit :=
  deleteOrMissing guarded (Users.delete userId) "User not found"

end UserService

namespace AuthService

def authenticate (username password : String) : Service Actor := do
  match ← readOnly (Users.getByUsername username) with
  | none => raise .auth "Invalid credentials"
  | some user =>
      if checkPasswordHash user.password password then return ⟨user.userId, user.role, user.customerId⟩
      else raise .auth "Invalid credentials"

end AuthService

end Corebank
