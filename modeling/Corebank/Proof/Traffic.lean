import Corebank.Http
import Corebank.Proof.Updates
import Corebank.Proof.WriteIsolation

/-! # Sessions: what a token stands for -/

namespace Corebank
open Library

/-! ## What is assumed of tokens -/

/-- A token is signed with the server's secret, and good until it expires. -/
structure SignedTokens [Jwt] : Prop where
  claims : ∀ who issued expires now actor,
    verifyJwt (createAccessToken who issued expires) now = .ok actor → actor = who
  expires : ∀ who issued expires now actor,
    verifyJwt (createAccessToken who issued expires) now = .ok actor → now < issued + expires

def User.claims (u : User) : Actor := ⟨u.userId, u.role, u.customerId⟩

section
variable [Collation] [Werkzeug]

/-- At `y` the password of the user `u` was presented, and answered with `token`. -/
def LoggedIn [Jwt] (y : Exchange) (u : User) (token : Token) : Prop :=
  ∃ data, y.request.call = .login (some data) ∧ u ∈ y.before .user ∧
    key u.username = key data.username ∧ checkPasswordHash u.password data.password = true ∧
    y.reply.token = some token

theorem authenticate_ok {username password : String} {db db' : Db} {who : Actor}
    (run : (AuthService.authenticate username password).run db = (.ok who, db')) :
    ∃ u ∈ db .user, key u.username = key username ∧ checkPasswordHash u.password password = true ∧
      who = u.claims := by
  simp only [AuthService.authenticate, readOnly, Users.getByUsername, Service.readOnly_bind,
    Service.done_bind, Service.run, Sql.run] at run
  cases found : (db .user).find? fun u => key u.username = key username with
  | none =>
      rw [found] at run
      cases run
  | some u =>
      rw [found] at run
      simp only at run
      split at run
      · rename_i right
        cases run
        exact ⟨u, List.mem_of_find?_eq_some found, by simpa using List.find?_some found, right, rfl⟩
      · cases run

variable [Marshmallow] [Jwt] {hours : Int}

/-! ## One request -/

theorem serveAs_token {r : HttpRequest} {actor : Actor} {db : Db} {token : Token}
    (handed : (r.serveAs hours actor db).1.token = some token) :
    ∃ data u, r.call = .login (some data) ∧ u ∈ db .user ∧ key u.username = key data.username ∧
      checkPasswordHash u.password data.password = true ∧
      token = createAccessToken u.claims r.now (accessTokenExpires hours) := by
  rw [HttpRequest.serveAs] at handed
  cases ran : (r.call.serve r.env actor).run db with
  | mk outcome db' =>
      rw [ran] at handed
      cases outcome with
      | error e => cases handed
      | ok response =>
          simp only [HttpRequest.reply] at handed
          split at handed
          · rename_i body who login
            rw [login] at ran
            obtain ⟨data, rfl, ran⟩ := arguments_ok ran
            obtain ⟨who', same, ran⟩ := respond_ok ran
            cases same
            obtain ⟨u, mem, named, right, rfl⟩ := authenticate_ok ran
            cases handed
            exact ⟨data, u, login, mem, named, right, rfl⟩
          · cases handed

theorem handle_token {r : HttpRequest} {db : Db} {token : Token}
    (handed : (r.handle hours db).1.token = some token) :
    ∃ data u, r.call = .login (some data) ∧ u ∈ db .user ∧ key u.username = key data.username ∧
      checkPasswordHash u.password data.password = true ∧
      token = createAccessToken u.claims r.now (accessTokenExpires hours) := by
  unfold HttpRequest.handle at handed
  split at handed
  · exact serveAs_token handed
  · split at handed
    · cases handed
    · exact serveAs_token handed

theorem handle_valid (r : HttpRequest) {db : Db} (valid : db.Valid) : (r.handle hours db).2.Valid := by
  unfold HttpRequest.handle
  split
  · exact Service.run_valid _ valid
  · split
    · exact valid
    · exact Service.run_valid _ valid

/-- The claims a request is served with, if any are read. -/
def HttpRequest.actor (r : HttpRequest) : Option Actor :=
  if r.call.isOpen then none else r.currentUser.toOption

theorem handle_isolated (r : HttpRequest) {db : Db} (valid : db.Valid) {c : Option String}
    (claims : ∀ actor ∈ r.actor, actor.role ≠ .admin ∧ actor.customerId.map key = c.map key)
    (nameless : r.actor = none → c = none) : Isolated c db (r.handle hours db).2 := by
  unfold HttpRequest.handle
  split
  · rename_i opens
    obtain rfl := nameless (if_pos opens)
    have notAdmin : HttpRequest.nobody.role ≠ .admin := nofun
    exact serve_isolated notAdmin rfl r.env valid r.call
  · rename_i closed
    split
    · exact Isolated.refl c db
    · rename_i actor verified
      have served : r.actor = some actor := by
        rw [HttpRequest.actor, if_neg closed, verified]
        rfl
      obtain ⟨notAdmin, token⟩ := claims actor served
      exact serve_isolated notAdmin token r.env valid r.call

/-! ## Whole runs -/

section
variable {start db : Db} {trace : List Exchange}

theorem Traffic.valid (traffic : Traffic hours start trace db) (valid : start.Valid) : db.Valid := by
  induction traffic with
  | start => exact valid
  | request past r clock unforged ih => exact handle_valid r ih

/-- What stands in the trace: `earlier` led to `x`. -/
structure Past (hours : Int) (start : Db) (earlier : List Exchange) (x : Exchange) : Prop where
  traffic : Traffic hours start earlier x.before
  clock : ∀ y ∈ earlier, y.request.now ≤ x.request.now
  unforged : Unforged earlier x.request
  served : x = x.request.exchange hours x.before

theorem Traffic.past (traffic : Traffic hours start trace db) {later earlier : List Exchange}
    {x : Exchange} (split : trace = later ++ x :: earlier) : Past hours start earlier x := by
  induction traffic generalizing later with
  | start => simp at split
  | request past r clock unforged ih =>
      cases later with
      | nil =>
          cases split
          exact ⟨past, clock, unforged, rfl⟩
      | cons y later =>
          rw [List.cons_append, List.cons.injEq] at split
          exact ih split.2

/-- The request `r` shows a token that a login as `who` was answered with, less than its life ago. -/
def Presented (hours : Int) (earlier : List Exchange) (r : HttpRequest) (who : Actor) : Prop :=
  ∃ y ∈ earlier, ∃ u token, LoggedIn y u token ∧ r.authorization = some token ∧ who = u.claims ∧
    y.request.now ≤ r.now ∧ r.now < y.request.now + accessTokenExpires hours

theorem Past.presented (signed : SignedTokens) {earlier : List Exchange} {x : Exchange}
    (past : Past hours start earlier x) {actor : Actor} (served : x.request.actor = some actor) :
    Presented hours earlier x.request actor := by
  have verified : x.request.currentUser = .ok actor := by
    unfold HttpRequest.actor at served
    split at served
    · cases served
    · cases h : x.request.currentUser with
      | error e =>
          rw [h] at served
          cases served
      | ok who =>
          rw [h] at served
          cases served
          rfl
  unfold HttpRequest.currentUser at verified
  split at verified
  · cases verified
  · rename_i token shown
    rcases past.unforged token shown with handed | dead
    · obtain ⟨y, mem, handed⟩ := List.mem_filterMap.mp handed
      obtain ⟨later, before, split⟩ := List.append_of_mem mem
      have login := past.traffic.past split
      have answered : (y.request.exchange hours y.before).reply.token = some token :=
        login.served ▸ handed
      obtain ⟨data, u, call, known, named, right, rfl⟩ := handle_token answered
      refine ⟨y, mem, u, _, ⟨data, call, known, named, right, handed⟩, shown, ?_, past.clock y mem, ?_⟩
      · exact signed.claims _ _ _ _ _ verified
      · exact signed.expires _ _ _ _ _ verified
    · exact absurd verified (dead _ _)

/-- Whoever a request is served as presented the password of that user, and the request shows the
token that answered it, less than a token's life ago. -/
theorem session_origin (signed : SignedTokens) (traffic : Traffic hours start trace db)
    {later earlier : List Exchange} {x : Exchange} (split : trace = later ++ x :: earlier)
    {actor : Actor} (served : x.request.actor = some actor) :
    Presented hours earlier x.request actor :=
  (traffic.past split).presented signed served

/-! ## Money -/

theorem Past.kept {earlier : List Exchange} {x : Exchange} (past : Past hours start earlier x)
    (valid : start.Valid) {a : Account} (mem : a ∈ x.before .account)
    (foreign : ∀ who ∈ x.request.actor, who.role ≠ .admin ∧ ¬ Owns who.customerId a.customerId) :
    ∃ a' ∈ x.after .account, rowKey .account a' = rowKey .account a ∧ a.balance ≤ a'.balance := by
  have validBefore := past.traffic.valid valid
  obtain ⟨c, isolated, notOwn⟩ : ∃ c, Isolated c x.before x.after ∧ ¬ Owns c a.customerId := by
    rw [past.served]
    cases served : x.request.actor with
    | none =>
        refine ⟨none, handle_isolated x.request validBefore ?_ fun _ => rfl, nofun⟩
        intro who mem
        rw [served] at mem
        cases mem
    | some who =>
        obtain ⟨notAdmin, notOwn⟩ := foreign who served
        refine ⟨who.customerId, handle_isolated x.request validBefore ?_ ?_, notOwn⟩
        · intro who' mem
          rw [served] at mem
          cases mem
          exact ⟨notAdmin, rfl⟩
        · intro none
          rw [served] at none
          cases none
  have rel := isolated.accounts a.accountId
  have here : x.before.find .account a.accountId = some a := validBefore.find_of_mem mem rfl
  rw [here] at rel
  cases found : x.after.find .account a.accountId with
  | none =>
      rw [found] at rel
      cases rel
  | some a' =>
      rw [found] at rel
      cases rel with
      | some kept => exact ⟨a', Db.find_mem found, Db.find_key found, kept.2 notOwn⟩

/-- Money leaves an account, or the account goes, only in a request served as an administrator or as
a user of its owner, with the token of a login less than a token's life ago. -/
theorem money_leaves (signed : SignedTokens) (valid : start.Valid)
    (traffic : Traffic hours start trace db) {later earlier : List Exchange} {x : Exchange}
    (split : trace = later ++ x :: earlier) {a : Account} (mem : a ∈ x.before .account)
    (less : ∀ a' ∈ x.after .account, rowKey .account a' = rowKey .account a → a'.balance < a.balance) :
    ∃ who, x.request.actor = some who ∧ Presented hours earlier x.request who ∧
      (who.role = .admin ∨ Owns who.customerId a.customerId) := by
  have past := traffic.past split
  by_contra refused
  have foreign : ∀ who ∈ x.request.actor, who.role ≠ .admin ∧ ¬ Owns who.customerId a.customerId := by
    intro who served
    have presented := past.presented signed served
    exact ⟨fun admin => refused ⟨who, served, presented, Or.inl admin⟩,
      fun own => refused ⟨who, served, presented, Or.inr own⟩⟩
  obtain ⟨a', mem', same, more⟩ := past.kept valid mem foreign
  exact absurd more (Int.not_le.mpr (less a' mem' same))

/-! ## Privileges -/

/-- What only administrators change is as it was. -/
structure Untouched (db db' : Db) : Prop where
  kept : ∀ t ∈ [.user, .branch, .employee, .loan, .loanPayment, .creditScore], db' t = db t
  deleted : ∀ t, ∀ r ∈ db t, ∃ r' ∈ db' t, rowKey t r' = rowKey t r
  money : db'.totalBalance = db.totalBalance
  ledger : db .transaction <+: db' .transaction
  tickets : db .customerSupport <+: db' .customerSupport

omit [Werkzeug] [Marshmallow] [Jwt] in
theorem Untouched.refl (db : Db) : Untouched db db where
  kept _ _ := rfl
  deleted _ r mem := ⟨r, mem, rfl⟩
  money := rfl
  ledger := List.prefix_rfl
  tickets := List.prefix_rfl

omit [Werkzeug] [Marshmallow] [Jwt] in
theorem Untouched.isolated {db' db'' : Db} (first : Untouched db db') {c : Option String}
    (second : Isolated c db' db'') : Untouched db db'' where
  kept t mem := (second.kept t mem).trans (first.kept t mem)
  deleted t r mem := by
    obtain ⟨r', mem', same⟩ := first.deleted t r mem
    obtain ⟨r'', mem'', same'⟩ := second.deleted t r' mem'
    exact ⟨r'', mem'', same'.trans same⟩
  money := second.money.trans first.money
  ledger := by
    obtain ⟨sent, same, -⟩ := second.ledger
    exact first.ledger.trans (same ▸ List.prefix_append _ _)
  tickets := by
    obtain ⟨filed, same, -⟩ := second.tickets
    exact first.tickets.trans (same ▸ List.prefix_append _ _)

/-- Without an ADMIN user there is none later, and nothing of what is an administrator's changes. -/
theorem no_escalation (signed : SignedTokens) (valid : start.Valid)
    (noAdmin : ∀ u ∈ start .user, u.role ≠ .admin) (traffic : Traffic hours start trace db) :
    Untouched start db ∧ ∀ x ∈ trace, x.before .user = start .user ∧
      ∀ who ∈ x.request.actor, who.role ≠ .admin := by
  induction traffic with
  | start => exact ⟨Untouched.refl start, List.forall_mem_nil _⟩
  | @request trace db past r clock unforged ih =>
      obtain ⟨untouched, users⟩ := ih
      have before : db .user = start .user := untouched.kept .user List.mem_cons_self
      have here : Past hours start trace (r.exchange hours db) := ⟨past, clock, unforged, rfl⟩
      have customer : ∀ who ∈ r.actor, who.role ≠ .admin := by
        intro who served
        obtain ⟨y, mem, u, token, ⟨data, -, known, -⟩, -, rfl, -⟩ := here.presented signed served
        rw [(users y mem).1] at known
        exact noAdmin u known
      have isolated : ∃ c, Isolated c db (r.exchange hours db).after := by
        refine ⟨r.actor.bind Actor.customerId, handle_isolated r (past.valid valid) ?_ ?_⟩
        · intro who served
          refine ⟨customer who served, ?_⟩
          rw [Option.mem_def.mp served, Option.bind_some]
        · intro none
          rw [none, Option.bind_none]
      obtain ⟨c, isolated⟩ := isolated
      refine ⟨untouched.isolated isolated, List.forall_mem_cons.mpr ⟨⟨before, customer⟩, users⟩⟩

/-! ## A bank without users -/

omit [Jwt] in
theorem open_unchanged {call : ApiCall} (opens : call.isOpen = true) (env : Env) (actor : Actor)
    (db : Db) : ((call.serve env actor).run db).2 = db := by
  cases call with
  | health => rfl
  | ready => rfl
  | login body =>
      let kept (db db' : Db) : Prop := db' = db
      have refused : kept db db := rfl
      refine arguments_run refused fun data _ => ?_
      refine reads_run (issues_respond _ (Service.Issues.bind (issues_readOnly _) fun user => ?_)) db
      cases user with
      | none => trivial
      | some user =>
          simp only
          split <;> trivial
  | _ => cases opens

theorem handle_unserved {r : HttpRequest} (unserved : r.actor = none) (db : Db) :
    (r.handle hours db).2 = db ∧ (r.call.isOpen = true ∨ (r.handle hours db).1.code = 401) := by
  unfold HttpRequest.handle
  split
  · exact ⟨open_unchanged ‹_› _ _ _, Or.inl ‹_›⟩
  · rename_i closed
    split
    · exact ⟨rfl, Or.inr rfl⟩
    · rename_i actor verified
      rw [HttpRequest.actor, if_neg closed, verified] at unserved
      cases unserved

/-- With no users nobody gets in, and nothing can be created. -/
theorem locked_out (signed : SignedTokens) (empty : start .user = [])
    (traffic : Traffic hours start trace db) :
    db = start ∧ ∀ x ∈ trace, x.before = start ∧
      (x.request.call.isOpen = true ∨ x.reply.code = 401) := by
  induction traffic with
  | start => exact ⟨rfl, List.forall_mem_nil _⟩
  | @request trace db past r clock unforged ih =>
      obtain ⟨same, refused⟩ := ih
      have here : Past hours start trace (r.exchange hours db) := ⟨past, clock, unforged, rfl⟩
      have unserved : r.actor = none := by
        rw [Option.eq_none_iff_forall_not_mem]
        intro who served
        obtain ⟨y, mem, u, token, ⟨data, -, known, -⟩, -⟩ := here.presented signed served
        rw [(refused y mem).1, empty] at known
        cases known
      obtain ⟨unchanged, closed⟩ : (r.handle hours db).2 = db ∧
          (r.call.isOpen = true ∨ (r.handle hours db).1.code = 401) := handle_unserved unserved db
      exact ⟨unchanged.trans same, List.forall_mem_cons.mpr ⟨⟨same, closed⟩, refused⟩⟩

end

end

/-! ## Ann's day -/

attribute [local instance] foldCase clearText plainEmail

/-- A token is its claims and the time it expires. -/
@[reducible] def plainToken : Jwt where
  Token := Actor × Int
  createAccessToken claims now expires := (claims, now + expires)
  verifyJwt token now := if now < token.2 then .ok token.1 else .error .expired

attribute [local instance] plainToken

instance : DecidableEq plainToken.Token := inferInstanceAs (DecidableEq (Actor × Int))

theorem plainToken_signed : SignedTokens where
  claims who issued expires now actor verified := by
    simp only [verifyJwt] at verified
    split at verified <;> cases verified
    rfl
  expires who issued expires now actor verified := by
    simp only [verifyJwt] at verified
    split at verified
    · assumption
    · cases verified

def enrolled : Db := replay [(.createUser ⟨"annie", "secret", .user, some "ann"⟩, noon "u-1")] opened

def annsLogin : HttpRequest := ⟨none, .login (some ⟨"annie", "secret"⟩), noon ""⟩

def annsPayment : HttpRequest :=
  ⟨some (ann, (noon "").utcnow.micros + accessTokenExpires 1),
    .transfer (some ⟨"a-1", "b-1", 1000⟩), noon "t-1"⟩

def signedIn : Exchange := annsLogin.exchange 1 enrolled

def spent : Exchange := annsPayment.exchange 1 signedIn.after

theorem enrolled_valid : enrolled.Valid := (reachable_opened.replay _).valid

theorem traffic_ann : Traffic 1 enrolled [spent, signedIn] spent.after := by
  have first : Traffic 1 enrolled [signedIn] signedIn.after :=
    Traffic.start.request annsLogin (List.forall_mem_nil _) nofun
  refine first.request annsPayment ?_ ?_
  · decide +kernel
  · intro token shown
    cases shown
    have handed : signedIn.reply.token =
        some (ann, (noon "").utcnow.micros + accessTokenExpires 1) := by decide +kernel
    exact Or.inl (List.mem_filterMap.mpr ⟨signedIn, List.mem_cons_self, handed⟩)

theorem spent_last : [spent, signedIn] = [] ++ spent :: [signedIn] := rfl

theorem session_origin_ann : Presented 1 [signedIn] annsPayment ann :=
  session_origin plainToken_signed traffic_ann spent_last
    (by decide +kernel : annsPayment.actor = some ann)

def annsAccount : Account := ⟨"a-1", "ann", .checking, 10000, (noon "").utcnow, "north"⟩

theorem money_leaves_ann : ∃ who, annsPayment.actor = some who ∧
    Presented 1 [signedIn] annsPayment who ∧
    (who.role = .admin ∨ Owns who.customerId annsAccount.customerId) := by
  have here : annsAccount ∈ spent.before .account := by decide +kernel
  have less : ∀ a' ∈ spent.after .account, rowKey .account a' = rowKey .account annsAccount →
      a'.balance < annsAccount.balance := by
    decide +kernel
  exact money_leaves plainToken_signed enrolled_valid traffic_ann spent_last here less

theorem no_escalation_ann : Untouched enrolled spent.after :=
  (no_escalation plainToken_signed enrolled_valid (by decide +kernel) traffic_ann).1

def annsQuestion : HttpRequest := ⟨none, .getAccount "a-1", noon ""⟩

def knocked : Exchange := annsLogin.exchange 1 opened

def asked : Exchange := annsQuestion.exchange 1 knocked.after

theorem locked_out_opened : asked.after = opened ∧ asked.reply.code = 401 := by
  have first : Traffic 1 opened [knocked] knocked.after :=
    Traffic.start.request annsLogin (List.forall_mem_nil _) nofun
  have traffic : Traffic 1 opened [asked, knocked] asked.after :=
    first.request annsQuestion (by decide +kernel) nofun
  obtain ⟨same, refused⟩ := locked_out plainToken_signed (by decide +kernel) traffic
  exact ⟨same, (refused asked List.mem_cons_self).2.resolve_left nofun⟩

end Corebank
