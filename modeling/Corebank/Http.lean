import Corebank.Api

/-!
# Requests with tokens

`app/security/auth.py`, the login endpoint and the error envelope of `app/api/errors.py`: a request
comes with a bearer token or without one, and is answered with a status and a body.
-/

namespace Corebank

/-! ## Tokens -/

/-- The handlers of `register_jwt_handlers`. -/
inductive TokenFault where
  | missing | invalid | expired | revoked
  deriving DecidableEq, Repr

def TokenFault.message : TokenFault → String
  | .missing => "Missing or malformed Authorization header"
  | .invalid => "Invalid authentication token"
  | .expired => "Authentication token has expired"
  | .revoked => "Authentication token has been revoked"

/-- `flask_jwt_extended`. Times and lifetimes are in microseconds. -/
class Jwt where
  Token : Type
  createAccessToken : (claims : Actor) → (now expires : Int) → Token
  verifyJwt : Token → (now : Int) → Except TokenFault Actor

export Jwt (Token createAccessToken verifyJwt)

/-- `JWT_ACCESS_TOKEN_EXPIRES`. -/
def accessTokenExpires (hours : Int) : Int := hours * 3600000000

/-! ## Replies -/

structure Envelope where
  code : Nat
  status : String
  message : String
  deriving DecidableEq, Repr

/-- `HTTPStatus(code).phrase`, of the codes the application answers with. -/
def phrase : Nat → String
  | 400 => "Bad Request"
  | 401 => "Unauthorized"
  | 403 => "Forbidden"
  | 404 => "Not Found"
  | 409 => "Conflict"
  | 422 => "Unprocessable Entity"
  | 500 => "Internal Server Error"
  | _ => "Error"

def envelope (code : Nat) (message : String) : Envelope := ⟨code, phrase code, message⟩

/-- What the three error handlers say. Only failed validation is an `HTTPException` here. -/
def Exn.message : Exn → String
  | .app _ message => message
  | .http _ => "Validation failed"
  | _ => "Internal server error"

inductive Body [Jwt] where
  | json (response : Response)
  | bearer (accessToken : Token)
  | error (envelope : Envelope)

structure Reply [Jwt] where
  code : Nat
  body : Body

section
variable [Jwt]

def Reply.fail (e : Envelope) : Reply := ⟨e.code, .error e⟩

def Reply.token (reply : Reply) : Option Token :=
  match reply.body with
  | .bearer token => some token
  | _ => none

/-- The code its `blp.response` declares for a call. -/
def ApiCall.success : ApiCall → Nat
  | .createUser _ | .createCustomer _ | .createAccount _ | .createCard _ | .createBranch _
  | .createEmployee _ | .createLoan _ | .createLoanPayment _ | .transfer _ | .createCreditScore _
  | .createTicket _ => 201
  | .deleteUser _ | .deleteCustomer _ | .deleteAccount _ | .deleteCard _ | .deleteBranch _
  | .deleteEmployee _ | .deleteLoan _ | .deleteLoanPayment _ | .deleteTransaction _
  | .deleteCreditScore _ | .deleteTicket _ => 204
  | _ => 200

/-! ## Requests -/

/-- `authorization` is the token of a `Bearer` header. -/
structure HttpRequest where
  authorization : Option Token
  call : ApiCall
  env : Env

/-- Endpoints without `jwt_required` and `admin_required`. -/
def ApiCall.isOpen : ApiCall → Bool
  | .health | .ready | .login _ => true
  | _ => false

namespace HttpRequest

def now (r : HttpRequest) : Int := r.env.utcnow.micros

/-- `verify_jwt_in_request` and `current_user`. -/
def currentUser (r : HttpRequest) : Except TokenFault Actor :=
  match r.authorization with
  | none => .error .missing
  | some token => verifyJwt token r.now

variable [Collation] [Werkzeug] [Marshmallow]

/-- `Login.post` answers with a token for the principal it is given back. -/
def reply (hours : Int) (r : HttpRequest) : Except Exn Response → Reply
  | .ok response =>
      match r.call, response with
      | .login _, .token who =>
          ⟨r.call.success, .bearer (createAccessToken who r.now (accessTokenExpires hours))⟩
      | _, _ => ⟨r.call.success, .json response⟩
  | .error e => .fail (envelope e.statusCode e.message)

def serveAs (hours : Int) (r : HttpRequest) (actor : Actor) (db : Db) : Reply × Db :=
  let ran := (r.call.serve r.env actor).run db
  (r.reply hours ran.1, ran.2)

/-- Nobody's claims, which open endpoints do not read. -/
def nobody : Actor := ⟨"", .user, none⟩

def handle (hours : Int) (r : HttpRequest) (db : Db) : Reply × Db :=
  if r.call.isOpen then r.serveAs hours nobody db
  else
    match r.currentUser with
    | .error fault => (.fail ⟨401, "Unauthorized", fault.message⟩, db)
    | .ok actor => r.serveAs hours actor db

end HttpRequest

/-! ## Traffic -/

structure Exchange where
  request : HttpRequest
  reply : Reply
  before : Db
  after : Db

def issued (trace : List Exchange) : List Token := trace.filterMap fun x => x.reply.token

/-- Every token a client shows was handed out before, or is one that never verifies. -/
def Unforged (trace : List Exchange) (r : HttpRequest) : Prop :=
  ∀ token ∈ r.authorization, token ∈ issued trace ∨
    ∀ now actor, verifyJwt token now ≠ .ok actor

variable [Collation] [Werkzeug] [Marshmallow]

def HttpRequest.exchange (hours : Int) (r : HttpRequest) (db : Db) : Exchange :=
  ⟨r, (r.handle hours db).1, db, (r.handle hours db).2⟩

/-- The exchanges of a server since it got its secret, the last one first. -/
inductive Traffic (hours : Int) (start : Db) : List Exchange → Db → Prop
  | start : Traffic hours start [] start
  | request {trace : List Exchange} {db : Db} (past : Traffic hours start trace db)
      (r : HttpRequest) (clock : ∀ x ∈ trace, x.request.now ≤ r.now) (unforged : Unforged trace r) :
      Traffic hours start (r.exchange hours db :: trace) (r.exchange hours db).after

end

end Corebank
