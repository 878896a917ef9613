/-
# Roles, bearer tokens and accounts

`domain/models/user.py` gives each role a set of permissions (`ROLE_PERMISSIONS`); a user
holds a permission when it is active and its role's set has it. A route of the API names the
permissions it needs with `require_permission` (`api/dependencies/auth.py`): the dependency
decodes the bearer token, builds the user from the token's claims (`get_current_user`), and
answers 403 unless the user holds one of them.

The user a route sees comes from the token alone: `get_current_user` reads no store, and the
user it builds keeps `is_active`'s default, so the check that `has_permission` makes of
`is_active` never fails on a request. The claims come from `login`
(`api/routes/auth_routes.py`), which signs the stored user's role into the access token, and
the stored role is the one the `register` request names: a field of the request body, which
anyone may send. So a client with no token can register an ADMIN account, log in with it, and
pass every permission check (`register_admin_passes_every_check`). `register` does refuse a
name already stored, so over any run of the account routes a name belongs to one account
(`usernames_unique`).

A token is modelled by what `JWTHandler.decode_token` makes of it: the claims of a token
signed with the server's key and not expired, or the message of the `JWTError` that rejected
it. Passwords go through a `PasswordHasher`, which keeps of bcrypt the one property the code
relies on. Request bodies are those pydantic's validation lets through: a `RegisterRequest`
carries its length bounds and its email pattern (`matchesEmailPattern`), with `\w` read as
ASCII word characters.

Key definitions: `rolePermissions`, `User.hasPermission`, `getCurrentUser`,
`requirePermission`, `AuthRoutes.matchesEmailPattern`, `AuthRoutes.register`,
`AuthRoutes.login`, `AuthRoutes.run`.
Key theorems: `requirePermission_access`, `AuthRoutes.login_register`,
`AuthRoutes.register_admin_passes_every_check`, `AuthRoutes.usernames_unique`.
-/
import Orchestrator.Store

namespace Orchestrator

/-! ### Roles and permissions -/

/-- `Role`. -/
inductive Role
  | admin
  | operator
  | viewer
  | deployer
  deriving DecidableEq, Repr

/-- The role's `value`. -/
def Role.value : Role → String
  | .admin => "admin"
  | .operator => "operator"
  | .viewer => "viewer"
  | .deployer => "deployer"

/-- `Role(value)`: the member with that value; any other text raises `ValueError`. -/
def Role.ofValue? (value : String) : Option Role :=
  [Role.admin, .operator, .viewer, .deployer].find? (·.value = value)

@[simp] theorem Role.ofValue?_value (r : Role) : Role.ofValue? r.value = some r := by
  cases r <;> rfl

/-- `Permission`. -/
inductive Permission
  | deploymentCreate
  | deploymentRead
  | deploymentApprove
  | deploymentCancel
  | deploymentRollback
  | driftScan
  | driftRead
  | driftRemediate
  | userManage
  | systemAdmin
  deriving DecidableEq, Repr

/-- The permission's `value`. -/
def Permission.value : Permission → String
  | .deploymentCreate => "deployment:create"
  | .deploymentRead => "deployment:read"
  | .deploymentApprove => "deployment:approve"
  | .deploymentCancel => "deployment:cancel"
  | .deploymentRollback => "deployment:rollback"
  | .driftScan => "drift:scan"
  | .driftRead => "drift:read"
  | .driftRemediate => "drift:remediate"
  | .userManage => "user:manage"
  | .systemAdmin => "system:admin"

/-- `set(Permission)`: every member. -/
def Permission.all : List Permission :=
  [.deploymentCreate, .deploymentRead, .deploymentApprove, .deploymentCancel,
    .deploymentRollback, .driftScan, .driftRead, .driftRemediate, .userManage, .systemAdmin]

theorem Permission.mem_all (p : Permission) : p ∈ Permission.all := by
  cases p <;> decide

/-- `ROLE_PERMISSIONS`. Every role is a key, so the `.get(role, set())` default is never
taken. -/
def rolePermissions : Role → List Permission
  | .admin => Permission.all
  | .operator =>
    [.deploymentCreate, .deploymentRead, .deploymentApprove, .deploymentCancel,
      .deploymentRollback, .driftScan, .driftRead, .driftRemediate]
  | .deployer => [.deploymentCreate, .deploymentRead, .driftRead]
  | .viewer => [.deploymentRead, .driftRead]

/-- `User`, without the timestamps and `version`, which nothing here reads. -/
structure User where
  id : String
  username : String
  email : String
  hashedPassword : String := ""
  role : Role := .viewer
  tenantId : String := "default"
  isActive : Bool := true
  deriving DecidableEq, Repr

namespace User

def hasPermission (u : User) (permission : Permission) : Bool :=
  if !u.isActive then false else decide (permission ∈ rolePermissions u.role)

def hasAnyPermission (u : User) (permissions : List Permission) : Bool :=
  permissions.any u.hasPermission

end User

/-! ### The bearer token -/

/-- The claims of a decoded token that `get_current_user` reads, each present or not. -/
structure TokenPayload where
  sub : Option String := none
  username : Option String := none
  email : Option String := none
  role : Option String := none
  tenantId : Option String := none
  type : Option String := none
  deriving DecidableEq, Repr

/-- A bearer token, as `decode_token` finds it: signed with the server's key and not expired,
with its claims, or rejected by `jwt.decode` with the error's text. -/
inductive BearerToken
  | signed (payload : TokenPayload)
  | rejected (error : String)
  deriving DecidableEq, Repr

namespace JWTHandler

/-- `create_access_token(subject, role, tenant_id)`; no caller passes `extra`. -/
def createAccessToken (subject role tenantId : String) : TokenPayload :=
  { sub := some subject, role := some role, tenantId := some tenantId, type := some "access" }

/-- `create_refresh_token(subject)`. -/
def createRefreshToken (subject : String) : TokenPayload :=
  { sub := some subject, type := some "refresh" }

/-- `decode_token(token)`: the claims, or `InvalidTokenError` with its message. -/
def decodeToken : BearerToken → Except String TokenPayload
  | .signed payload => .ok payload
  | .rejected error => .error ("Invalid token: " ++ error)

end JWTHandler

/-- How a request fails: an `HTTPException`, answered with its status code and `detail`, or
any other exception, which reaches the server. -/
inductive ApiError
  | httpException (statusCode : ℕ) (detail : String)
  | uncaught
  deriving DecidableEq, Repr

/-- What the client receives: a route's body, `{"detail": ...}`, or the plain text of the
server's answer to an uncaught exception. -/
inductive ResponseBody (α : Type)
  | body (value : α)
  | detail (text : String)
  | plainText (text : String)
  deriving DecidableEq, Repr

/-- A response: status code and body. -/
structure Response (α : Type) where
  statusCode : ℕ
  body : ResponseBody α
  deriving DecidableEq, Repr

/-- The response to a failed request; Starlette's `ServerErrorMiddleware` answers an uncaught
exception with 500. -/
def ApiError.response {α : Type} : ApiError → Response α
  | .httpException statusCode detail => ⟨statusCode, .detail detail⟩
  | .uncaught => ⟨500, .plainText "Internal Server Error"⟩

/-- `get_current_user`: the user the token's claims describe. A missing `sub` or a role that
`Role(...)` rejects raises inside the dependency. -/
def getCurrentUser (token : BearerToken) : Except ApiError User :=
  match JWTHandler.decodeToken token with
  | .error message => .error (.httpException 401 message)
  | .ok payload =>
    if payload.type ≠ some "access" then .error (.httpException 401 "Invalid token type")
    else
      match payload.sub, Role.ofValue? (payload.role.getD "viewer") with
      | some sub, some role =>
        .ok { id := sub, username := payload.username.getD sub, email := payload.email.getD "",
              role := role, tenantId := payload.tenantId.getD "default" }
      | _, _ => .error .uncaught

/-- `str` of a list of strings, as an f-string prints it: `['a', 'b']`. -/
def reprStrList (xs : List String) : String :=
  "[" ++ ", ".intercalate (xs.map fun x => "\x27" ++ x ++ "\x27") ++ "]"

/-- `require_permission(*permissions)`: the dependency a route declares. It resolves the
user, then checks it. -/
def requirePermission (permissions : List Permission) (token : BearerToken) :
    Except ApiError User :=
  match getCurrentUser token with
  | .error e => .error e
  | .ok user =>
    if !user.hasAnyPermission permissions then
      .error (.httpException 403 ("Insufficient permissions. Required: " ++
        reprStrList (permissions.map Permission.value)))
    else .ok user

/-- The user of an access token `login` signed. -/
theorem getCurrentUser_access (subject tenantId : String) (r : Role) :
    getCurrentUser (.signed (JWTHandler.createAccessToken subject r.value tenantId)) =
      .ok { id := subject, username := subject, email := "", role := r, tenantId := tenantId } := by
  simp [getCurrentUser, JWTHandler.decodeToken, JWTHandler.createAccessToken]

/-- **The check of an access token**: it passes exactly when the token's role grants the
permission, and otherwise answers 403 naming it. -/
theorem requirePermission_access (p : Permission) (subject tenantId : String) (r : Role) :
    requirePermission [p] (.signed (JWTHandler.createAccessToken subject r.value tenantId)) =
      if p ∈ rolePermissions r then
        .ok { id := subject, username := subject, email := "", role := r, tenantId := tenantId }
      else .error (.httpException 403
        ("Insufficient permissions. Required: " ++ reprStrList [p.value])) := by
  rw [requirePermission, getCurrentUser_access]
  by_cases hp : p ∈ rolePermissions r <;> simp [User.hasAnyPermission, User.hasPermission, hp]

example : requirePermission [.deploymentApprove]
    (.signed (JWTHandler.createAccessToken "u1" Role.deployer.value "default")) =
      .error (.httpException 403 "Insufficient permissions. Required: [\x27deployment:approve\x27]") :=
  rfl

/-! ### Accounts -/

/-- `JWTHandler.hash_password` and `verify_password`. bcrypt salts each hash and accepts a
password against a hash made from it, which is all the code relies on. -/
structure PasswordHasher where
  hashPassword : String → String
  verifyPassword : String → String → Bool
  verify_hashPassword : ∀ password, verifyPassword password (hashPassword password) = true

namespace AuthRoutes

/-- A character of the pattern's `\w`: an ASCII letter, digit or `_`. -/
def isWordChar (c : Char) : Bool := c.isAlphanum || c = '_'

/-- A character of the pattern's `[\w\.-]`. -/
def isAddressChar (c : Char) : Bool := isWordChar c || c = '.' || c = '-'

/-- The pattern `^[\w\.-]+@[\w\.-]+\.\w+$` of `RegisterRequest.email`, anchored at both ends:
a non-empty run of `[\w.-]` up to the first `@`, then a domain whose part after its last `.`
is a non-empty run of `\w`, after a non-empty run of `[\w.-]`. Neither class holds `@`, so the
address has one `@`; `\w` holds no `.`, so the domain splits at its last `.`. -/
def matchesEmailPattern (email : String) : Bool :=
  match email.data.span (· ≠ '@') with
  | (user, '@' :: domain) =>
    match domain.reverse.span (· ≠ '.') with
    | (top, '.' :: rest) =>
      !user.isEmpty && user.all isAddressChar && !top.isEmpty && top.all isWordChar &&
        !rest.isEmpty && rest.all isAddressChar
    | _ => false
  | _ => false

example : matchesEmailPattern "mallory@corp.example" = true := by decide
example : matchesEmailPattern "mallory@corp" = false := by decide

/-- `RegisterRequest` as validation lets it through. -/
structure RegisterRequest where
  username : String
  email : String
  password : String
  role : Role := .viewer
  tenantId : String := "default"
  username_length : 3 ≤ username.length ∧ username.length ≤ 100
  email_pattern : matchesEmailPattern email = true
  password_length : 8 ≤ password.length

/-- `LoginRequest` as validation lets it through. -/
structure LoginRequest where
  username : String
  password : String
  username_length : 3 ≤ username.length ∧ username.length ≤ 100
  password_length : 8 ≤ password.length

/-- `TokenResponse`, with each token as the claims it carries. -/
structure TokenResponse where
  accessToken : TokenPayload
  refreshToken : TokenPayload
  tokenType : String := "bearer"
  expiresIn : ℕ
  deriving DecidableEq, Repr

/-- `_user_repo.get_by_username(username)`: the first stored user of that name. -/
def getByUsername (users : Store User User.id) (username : String) : Option User :=
  users.items.find? (·.username = username)

/-- `register(request)`, where `id` is what `generate_id()` returns for the new `User`. The
response is the stored user; `UserResponse` shows all of it but the hash. -/
def register (hasher : PasswordHasher) (request : RegisterRequest) (id : String)
    (users : Store User User.id) : Except ApiError User × Store User User.id :=
  match getByUsername users request.username with
  | some _ => (.error (.httpException 409 "Username already exists"), users)
  | none =>
    let user : User :=
      { id := id, username := request.username, email := request.email,
        hashedPassword := hasher.hashPassword request.password, role := request.role,
        tenantId := request.tenantId }
    (.ok user, users.put user)

/-- `login(request)`, with the settings' `access_token_expire_minutes`. It reads neither
`is_active` nor anything but the password. -/
def login (hasher : PasswordHasher) (accessTokenExpireMinutes : ℕ) (request : LoginRequest)
    (users : Store User User.id) : Except ApiError TokenResponse :=
  match getByUsername users request.username with
  | none => .error (.httpException 401 "Invalid credentials")
  | some user =>
    if !hasher.verifyPassword request.password user.hashedPassword then
      .error (.httpException 401 "Invalid credentials")
    else
      .ok { accessToken := JWTHandler.createAccessToken user.id user.role.value user.tenantId,
            refreshToken := JWTHandler.createRefreshToken user.id,
            expiresIn := accessTokenExpireMinutes * 60 }

/-- A name that one stored user alone holds finds that user. -/
theorem getByUsername_of_unique {users : Store User User.id} {u : User} (hu : u ∈ users.items)
    (huniq : ∀ v ∈ users.items, v.username = u.username → v = u) :
    getByUsername users u.username = some u := by
  obtain ⟨v, hv⟩ := Option.isSome_iff_exists.mp
    (List.find?_isSome.mpr ⟨u, hu, by simp⟩ : (getByUsername users u.username).isSome)
  have hname : v.username = u.username := by simpa using List.find?_some hv
  exact hv.trans (congrArg some (huniq v (List.mem_of_find?_eq_some hv) hname))

/-- After a put, a name no one else holds finds the user put. -/
theorem getByUsername_put_of_free {users : Store User User.id} {user : User}
    (hfree : ∀ u ∈ users.items, u.username ≠ user.username) :
    getByUsername (users.put user) user.username = some user :=
  getByUsername_of_unique ((Store.mem_put _ _ _).mpr (.inl rfl)) fun v hv hname =>
    ((Store.mem_put _ _ _).mp hv).resolve_right fun ⟨hv', _⟩ => hfree v hv' hname

variable (hasher : PasswordHasher)

/-- **A registration is followed by a login**: under a free name, `register` stores the user,
and `login` with the same name and password returns an access token with the role and tenant
the registration named. -/
theorem login_register (minutes : ℕ) (request : RegisterRequest) (id : String)
    (users : Store User User.id) (hfree : ∀ u ∈ users.items, u.username ≠ request.username) :
    ∃ user, register hasher request id users = (.ok user, users.put user) ∧
      login hasher minutes ⟨request.username, request.password, request.username_length,
          request.password_length⟩ (users.put user) =
        .ok { accessToken := JWTHandler.createAccessToken id request.role.value request.tenantId,
              refreshToken := JWTHandler.createRefreshToken id, expiresIn := minutes * 60 } := by
  have hnone : getByUsername users request.username = none :=
    List.find?_eq_none.mpr fun u hu => by simpa using hfree u hu
  refine ⟨_, by rw [register, hnone], ?_⟩
  rw [login, getByUsername_put_of_free hfree]
  simp [hasher.verify_hashPassword]

/-- **Anyone can become an administrator.** `register` takes no token and stores the role its
body names. From any user store in which the name is free, registering it as ADMIN and logging
in gives an access token that passes `require_permission` for every permission. -/
theorem register_admin_passes_every_check (minutes : ℕ) (request : RegisterRequest)
    (id : String) (users : Store User User.id)
    (hfree : ∀ u ∈ users.items, u.username ≠ request.username) :
    let admin := { request with role := .admin }
    ∃ tokens, login hasher minutes ⟨request.username, request.password, request.username_length,
        request.password_length⟩ (register hasher admin id users).2 = .ok tokens ∧
      ∀ permission, ∃ user, requirePermission [permission] (.signed tokens.accessToken) =
        .ok user ∧ user.id = id ∧ user.role = .admin := by
  intro admin
  obtain ⟨_, hreg, hlogin⟩ := login_register hasher minutes admin id users hfree
  refine ⟨_, by rw [hreg]; exact hlogin, fun permission => ?_⟩
  rw [requirePermission_access,
    if_pos (show permission ∈ rolePermissions admin.role from Permission.mem_all permission)]
  exact ⟨_, rfl, rfl, rfl⟩

/-- A first account, registered as ADMIN into an empty store. -/
theorem register_admin_passes_every_check_first_account :
    let hasher : PasswordHasher := ⟨id, fun p h => p == h, fun p => beq_self_eq_true p⟩
    let request : RegisterRequest :=
      { username := "mallory", email := "mallory@corp.example", password := "password1",
        username_length := by decide, email_pattern := by decide, password_length := by decide }
    (∀ u ∈ (Store.empty : Store User User.id).items, u.username ≠ request.username) ∧
      ∃ tokens, login hasher 30 ⟨request.username, request.password, request.username_length,
          request.password_length⟩ (register hasher { request with role := .admin } "u1" .empty).2 =
          .ok tokens ∧
        ∀ permission, ∃ user, requirePermission [permission] (.signed tokens.accessToken) =
          .ok user ∧ user.id = "u1" ∧ user.role = .admin := by
  intro hasher request
  have hfree : ∀ u ∈ (Store.empty : Store User User.id).items, u.username ≠ request.username :=
    fun u hu => absurd hu (List.not_mem_nil u)
  exact ⟨hfree, register_admin_passes_every_check hasher 30 request "u1" .empty hfree⟩

/-! ### Runs of registrations and logins -/

/-- A request to `/auth/register`, with the id its `User` draws, or to `/auth/login`. -/
inductive AuthRequest
  | register (request : RegisterRequest) (id : String)
  | login (request : LoginRequest)

/-- Requests to the account routes handled one after another: the user store they leave.
`login` writes nothing. -/
def run : Store User User.id → List AuthRequest → Store User User.id
  | users, [] => users
  | users, .register r id :: rs => run (register hasher r id users).2 rs
  | users, .login _ :: rs => run users rs

/-- No two stored users share a username. -/
def UsernamesUnique (users : Store User User.id) : Prop :=
  ∀ u ∈ users.items, ∀ v ∈ users.items, u.username = v.username → u = v

/-- `register` keeps names unique: it stores a user only under a name no one holds. -/
theorem UsernamesUnique.register {users : Store User User.id} (h : UsernamesUnique users)
    (r : RegisterRequest) (id : String) : UsernamesUnique (register hasher r id users).2 := by
  unfold AuthRoutes.register
  split
  · exact h
  rename_i hnone
  have hfree : ∀ u ∈ users.items, u.username ≠ r.username := fun u hu he => by
    simpa [he] using List.find?_eq_none.mp hnone u hu
  intro u hu v hv huv
  rcases (Store.mem_put _ _ _).mp hu with rfl | ⟨hu, -⟩ <;>
    rcases (Store.mem_put _ _ _).mp hv with rfl | ⟨hv, -⟩
  · rfl
  · exact absurd huv.symm (hfree v hv)
  · exact absurd huv (hfree u hu)
  · exact h u hu v hv huv

theorem UsernamesUnique.run :
    ∀ (requests : List AuthRequest) {users : Store User User.id}, UsernamesUnique users →
      UsernamesUnique (run hasher users requests)
  | [], _, h => h
  | .register r id :: rs, _, h => UsernamesUnique.run rs (h.register hasher r id)
  | .login _ :: rs, _, h => UsernamesUnique.run rs h

/-- **One account per name.** Over any run of registrations and logins from an empty user
store, no two stored users share a username, so `login` under a stored user's name reads that
user. -/
theorem usernames_unique (requests : List AuthRequest) :
    let users := run hasher .empty requests
    (∀ u ∈ users.items, ∀ v ∈ users.items, u.username = v.username → u = v) ∧
      ∀ u ∈ users.items, getByUsername users u.username = some u := by
  intro users
  have h : UsernamesUnique users :=
    UsernamesUnique.run hasher requests fun u hu => absurd hu (List.not_mem_nil u)
  exact ⟨h, fun u hu => getByUsername_of_unique hu fun v hv hname => h v hv u hu hname⟩

end AuthRoutes

end Orchestrator
