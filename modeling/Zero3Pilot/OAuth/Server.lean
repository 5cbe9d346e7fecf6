import Zero3Pilot.Foundations.AtomicReplace
import Zero3Pilot.Foundations.Procedure
import Zero3Pilot.Foundations.Uuid
import Zero3Pilot.ControlPlane.Validation

/-! # The authorization server

`OAuthServer` of `apps/web/src/oauth.rs`: clients register, the owner approves their authorization
requests, and codes and refresh tokens are exchanged for tokens. The state is changed in memory first
and then written to `state.json`, by an atomic replacement any step of which may fail; a restart reads
that file. What is written is read back as it is, so the file stands for the state it holds. Hashing
and encoding are parameters. `DateTime<Utc>` values are integers (nanoseconds). -/

namespace Zero3Pilot.OAuth

open ControlPlane (BTreeMap trim)
open Procedure (check read ofExcept modify require)

/-! ## Libraries -/

structure Libraries where
  /-- `Sha256::digest` of the bytes of a text. -/
  sha256 : String → List UInt8
  base64Url : List UInt8 → String
  urlEncode : String → String

/-- The two digits of `{byte:02x}`. -/
def byteHex (byte : UInt8) : List Char :=
  [(byte.toNat / 16).digitChar, (byte.toNat % 16).digitChar]

def hexDigits (digest : List UInt8) : String := String.ofList (digest.flatMap byteHex)

def Libraries.sha256Hex (libraries : Libraries) (value : String) : String :=
  hexDigits (libraries.sha256 value)

def Libraries.pkceChallenge (libraries : Libraries) (verifier : String) : String :=
  libraries.base64Url (libraries.sha256 verifier)

def constantTimeEq (left right : List UInt8) : Bool :=
  left.length = right.length &&
    (left.zip right).foldl (fun diff bytes => diff ||| (bytes.1 ^^^ bytes.2)) 0 = 0

/-! ## State -/

structure OAuthClient where
  clientId : String
  clientName : Option String
  redirectUris : List String
  createdAt : Int

structure PendingAuthorization where
  (requestId clientId redirectUri : String)
  state : Option String
  (codeChallenge scope : String)
  expiresAt : Int

structure AuthorizationCodeRecord where
  (codeHash clientId redirectUri codeChallenge scope : String)
  expiresAt : Int
  used : Bool

structure TokenRecord where
  (tokenHash clientId scope : String)
  expiresAt : Int
  revoked : Bool

structure OAuthState where
  clients : BTreeMap OAuthClient
  pending : BTreeMap PendingAuthorization
  codes : BTreeMap AuthorizationCodeRecord
  (accessTokens refreshTokens : BTreeMap TokenRecord)

def OAuthState.empty : OAuthState := ⟨∅, ∅, ∅, ∅, ∅⟩

/-- `OAuthServer`, but for its state. -/
structure OAuthServer where
  libraries : Libraries
  issuer : String
  ownerSecretHash : List UInt8

structure OAuthStore where
  memory : OAuthState
  file : Option OAuthState

def OAuthStore.loaded (store : OAuthStore) : OAuthState := store.file.getD .empty

def OAuthStore.empty : OAuthStore := ⟨.empty, none⟩

/-! ## Requests and errors -/

structure ClientRegistrationRequest where
  redirectUris : List String
  (clientName tokenEndpointAuthMethod : Option String)
  (grantTypes responseTypes : List String)

structure AuthorizeQuery where
  (responseType clientId redirectUri codeChallenge codeChallengeMethod : String)
  (scope state resource : Option String)

structure TokenRequest where
  grantType : String
  (code redirectUri clientId codeVerifier refreshToken : Option String)

structure RevokeRequest where
  token : String
  clientId : Option String

/-- `OAuthError`; its code goes with its status. -/
inductive OAuthError where
  | invalidRequest (description : String)
  | invalidClient (description : String)
  | invalidGrant (description : String)
  | invalidScope (description : String)
  | server (description : String)
deriving DecidableEq

structure RegistrationResponse where
  clientId : String
  clientIdIssuedAt : Int
  clientName : Option String
  redirectUris : List String
  tokenEndpointAuthMethod : String
  (grantTypes responseTypes : List String)
deriving DecidableEq

/-- The answer to an exchange. -/
structure TokenResponse where
  (accessToken tokenType : String)
  expiresIn : Int
  scope : String
  refreshToken : Option String
deriving DecidableEq

/-! ## Scopes and addresses -/

def workerScope : String := "zero3.worker"

def offlineScope : String := "offline_access"

def isAsciiWhitespace (char : Char) : Bool :=
  char = ' ' || char = '\t' || char = '\n' || char = '\x0c' || char = '\r'

def words (text : String) : List String :=
  ((text.toList.splitOnP isAsciiWhitespace).filter (· ≠ [])).map String.ofList

def collectScopes : List String → List String → Except OAuthError (List String)
  | [], scopes => .ok scopes
  | scope :: rest, scopes =>
    if scope ≠ workerScope ∧ scope ≠ offlineScope then
      .error (.invalidScope ("unsupported scope: " ++ scope))
    else if scope ∈ scopes then collectScopes rest scopes
    else collectScopes rest (scopes ++ [scope])

def normalizeScope (value : Option String) : Except OAuthError String := do
  let raw := trim (value.getD workerScope)
  if raw = "" then return workerScope
  else
    let scopes ← collectScopes (words raw) []
    if workerScope ∈ scopes then return String.intercalate " " scopes
    else return String.intercalate " " (workerScope :: scopes)

def scopeContains (scope expected : String) : Bool := (words scope).contains expected

def trimStartMatches (beginning : List Char) : Nat → List Char → List Char
  | 0, chars => chars
  | fuel + 1, chars =>
    if beginning.isPrefixOf chars then
      trimStartMatches beginning fuel (chars.drop beginning.length)
    else chars

def validateRedirectUri (uri : String) : Except OAuthError Unit := do
  let chars := uri.toList
  ensure (uri.utf8ByteSize ≤ 4096 ∧ "https://".toList.isPrefixOf chars = true ∧
      '#' ∉ chars ∧ '@' ∉ chars)
    (.invalidRequest "redirect_uri must be an https URL without userinfo or fragment")
  let authority := (trimStartMatches "https://".toList chars.length chars).takeWhile (· ≠ '/')
  ensure (authority ≠ [] ∧ authority.head? ≠ some '.' ∧ authority.getLast? ≠ some '.')
    (.invalidRequest "redirect_uri host is invalid")

def redirectWithCode (libraries : Libraries) (redirectUri code : String) (state : Option String) :
    String :=
  redirectUri ++ (if '?' ∈ redirectUri.toList then "&" else "?") ++ "code=" ++
    libraries.urlEncode code ++
    match state with
    | none => ""
    | some state => "&state=" ++ libraries.urlEncode state

/-! ## What the environment brings -/

def seconds (count : Int) : Int := count * 1000000000

def randomToken (kind : String) (uuids : Uuid × Uuid) : String :=
  kind ++ "-" ++ uuids.1.simple ++ uuids.2.simple

/-- What the environment brings to a call: clock readings, UUIDs, and the write step that fails. -/
structure Environment where
  (cleanedAt now issuedAt : Int)
  uuid : Uuid
  (codeUuids accessUuids refreshUuids : Uuid × Uuid)
  fault : Option (WriteStep × String)

/-- The authorization code that is drawn. -/
def Environment.code (environment : Environment) : String := randomToken "z3ac" environment.codeUuids

def Environment.accessToken (environment : Environment) : String :=
  randomToken "z3at" environment.accessUuids

def Environment.refreshToken (environment : Environment) : String :=
  randomToken "z3rt" environment.refreshUuids

/-- `persist`: `write_json_atomic` publishes the state in memory unless it fails before its rename. -/
def persist (environment : Environment) : Procedure OAuthStore OAuthError Unit :=
  match environment.fault with
  | none => modify fun store => { store with file := some store.memory }
  | some (step, message) => do
    modify fun store => { store with
      file := if publishes (some step) then some store.memory else store.file }
    Procedure.fail (.server message)

def update (change : OAuthState → OAuthState) : Procedure OAuthStore OAuthError Unit :=
  modify fun store => { store with memory := change store.memory }

def memory : Procedure OAuthStore OAuthError OAuthState := do
  let store ← read
  return store.memory

/-- `cleanup_state` at the clock reading `now`. -/
def cleanupState (now : Int) (state : OAuthState) : OAuthState where
  clients := state.clients
  pending := state.pending.filter fun _ record => now < record.expiresAt
  codes := state.codes.filter fun _ record => now < record.expiresAt && !record.used
  accessTokens := state.accessTokens.filter fun _ record => now < record.expiresAt
  refreshTokens := state.refreshTokens.filter fun _ record => now < record.expiresAt

/-! ## The operations -/

def registeredClient (input : ClientRegistrationRequest) (environment : Environment) :
    OAuthClient where
  clientId := "z3c-" ++ environment.uuid.simple
  clientName := input.clientName
  redirectUris := input.redirectUris
  createdAt := environment.now

def validateRegistration (input : ClientRegistrationRequest) : Except OAuthError Unit := do
  ensure (input.redirectUris ≠ [] ∧ input.redirectUris.length ≤ 16)
    (.invalidRequest "redirect_uris must contain 1..16 entries")
  input.redirectUris.forM validateRedirectUri
  ensure (∀ method ∈ input.tokenEndpointAuthMethod, method = "none")
    (.invalidRequest "only public PKCE clients are supported")
  ensure (∀ grant ∈ input.grantTypes, grant = "authorization_code" ∨ grant = "refresh_token")
    (.invalidRequest "unsupported grant_types")
  ensure (∀ response ∈ input.responseTypes, response = "code")
    (.invalidRequest "unsupported response_types")

def registerClient (input : ClientRegistrationRequest) (environment : Environment) :
    Procedure OAuthStore OAuthError RegistrationResponse := do
  ofExcept (validateRegistration input)
  let client := registeredClient input environment
  update fun state => { state with clients := state.clients.insert client.clientId client }
  persist environment
  return {
    clientId := client.clientId
    clientIdIssuedAt := environment.now / seconds 1
    clientName := input.clientName
    redirectUris := input.redirectUris
    tokenEndpointAuthMethod := "none"
    grantTypes := ["authorization_code", "refresh_token"]
    responseTypes := ["code"] }

def Environment.requestId (environment : Environment) : String :=
  "z3auth-" ++ environment.uuid.simple

def pendingAuthorization (query : AuthorizeQuery) (scope : String) (environment : Environment) :
    PendingAuthorization where
  requestId := environment.requestId
  clientId := query.clientId
  redirectUri := query.redirectUri
  state := query.state
  codeChallenge := query.codeChallenge
  scope := scope
  expiresAt := environment.now + seconds (10 * 60)

def beginAuthorization (server : OAuthServer) (query : AuthorizeQuery) (environment : Environment) :
    Procedure OAuthStore OAuthError String := do
  check (query.responseType = "code") (.invalidRequest "response_type must be code")
  check (query.codeChallengeMethod = "S256" ∧ 43 ≤ query.codeChallenge.utf8ByteSize ∧
      query.codeChallenge.utf8ByteSize ≤ 128)
    (.invalidRequest "S256 PKCE is required")
  let scope ← ofExcept (normalizeScope query.scope)
  check (∀ resource ∈ query.resource, resource = server.issuer ++ "/mcp")
    (.invalidRequest "resource does not match Zero3 MCP")
  update (cleanupState environment.cleanedAt)
  let state ← memory
  let client ← require state.clients[query.clientId]? (.invalidClient "unknown client_id")
  check (query.redirectUri ∈ client.redirectUris) (.invalidRequest "redirect_uri is not registered")
  update fun state => { state with
    pending := state.pending.insert environment.requestId
      (pendingAuthorization query scope environment) }
  persist environment
  return environment.requestId

def codeRecord (libraries : Libraries) (pending : PendingAuthorization)
    (environment : Environment) : AuthorizationCodeRecord where
  codeHash := libraries.sha256Hex environment.code
  clientId := pending.clientId
  redirectUri := pending.redirectUri
  codeChallenge := pending.codeChallenge
  scope := pending.scope
  expiresAt := environment.now + seconds (5 * 60)
  used := false

def approveAuthorization (server : OAuthServer) (requestId ownerSecret : String)
    (environment : Environment) : Procedure OAuthStore OAuthError String := do
  check (constantTimeEq (server.libraries.sha256 ownerSecret) server.ownerSecretHash = true)
    (.invalidClient "owner authorization failed")
  update (cleanupState environment.cleanedAt)
  let state ← memory
  let pending ← require state.pending[requestId]?
    (.invalidGrant "authorization request expired or invalid")
  update fun state => { state with
    pending := state.pending.erase requestId
    codes := state.codes.insert (server.libraries.sha256Hex environment.code)
      (codeRecord server.libraries pending environment) }
  persist environment
  return redirectWithCode server.libraries pending.redirectUri environment.code pending.state

/-- The record of a token that is issued for `ttl` seconds. -/
def tokenRecord (libraries : Libraries) (token clientId scope : String) (ttl : Int)
    (environment : Environment) : TokenRecord where
  tokenHash := libraries.sha256Hex token
  clientId := clientId
  scope := scope
  expiresAt := environment.issuedAt + seconds ttl
  revoked := false

def issueTokens (libraries : Libraries) (clientId scope : String) (environment : Environment)
    (state : OAuthState) : OAuthState :=
  { state with
    accessTokens := state.accessTokens.insert (libraries.sha256Hex environment.accessToken)
      (tokenRecord libraries environment.accessToken clientId scope (60 * 60) environment)
    refreshTokens :=
      if scopeContains scope offlineScope then
        state.refreshTokens.insert (libraries.sha256Hex environment.refreshToken)
          (tokenRecord libraries environment.refreshToken clientId scope (30 * 24 * 60 * 60)
            environment)
      else state.refreshTokens }

/-- `issue_tokens`: the answer. -/
def tokenResponse (scope : String) (environment : Environment) : TokenResponse where
  accessToken := environment.accessToken
  tokenType := "Bearer"
  expiresIn := 60 * 60
  scope := scope
  refreshToken := if scopeContains scope offlineScope then some environment.refreshToken else none

def exchangeAuthorizationCode (server : OAuthServer) (input : TokenRequest)
    (environment : Environment) : Procedure OAuthStore OAuthError TokenResponse := do
  let code ← require input.code (.invalidRequest "code is required")
  let clientId ← require input.clientId (.invalidClient "client_id is required")
  let redirectUri ← require input.redirectUri (.invalidRequest "redirect_uri is required")
  let verifier ← require input.codeVerifier (.invalidRequest "code_verifier is required")
  check (43 ≤ verifier.utf8ByteSize ∧ verifier.utf8ByteSize ≤ 128)
    (.invalidGrant "code_verifier length is invalid")
  let codeHash := server.libraries.sha256Hex code
  update (cleanupState environment.cleanedAt)
  let state ← memory
  let record ← require state.codes[codeHash]?
    (.invalidGrant "authorization code is invalid or expired")
  check (record.used = false ∧ environment.now < record.expiresAt ∧ record.clientId = clientId ∧
      record.redirectUri = redirectUri)
    (.invalidGrant "authorization code cannot be used")
  check (server.libraries.pkceChallenge verifier = record.codeChallenge)
    (.invalidGrant "PKCE verification failed")
  update fun state => issueTokens server.libraries clientId record.scope environment
    { state with codes := state.codes.insert codeHash { record with used := true } }
  persist environment
  return tokenResponse record.scope environment

def exchangeRefreshToken (server : OAuthServer) (input : TokenRequest)
    (environment : Environment) : Procedure OAuthStore OAuthError TokenResponse := do
  let token ← require input.refreshToken (.invalidRequest "refresh_token is required")
  let clientId ← require input.clientId (.invalidClient "client_id is required")
  let tokenHash := server.libraries.sha256Hex token
  update (cleanupState environment.cleanedAt)
  let state ← memory
  let record ← require state.refreshTokens[tokenHash]?
    (.invalidGrant "refresh token is invalid or expired")
  check (record.revoked = false ∧ environment.now < record.expiresAt ∧ record.clientId = clientId)
    (.invalidGrant "refresh token cannot be used")
  update fun state => issueTokens server.libraries clientId record.scope environment
    { state with refreshTokens := state.refreshTokens.insert tokenHash { record with revoked := true } }
  persist environment
  return tokenResponse record.scope environment

def exchangeToken (server : OAuthServer) (input : TokenRequest) (environment : Environment) :
    Procedure OAuthStore OAuthError TokenResponse :=
  if input.grantType = "authorization_code" then exchangeAuthorizationCode server input environment
  else if input.grantType = "refresh_token" then exchangeRefreshToken server input environment
  else Procedure.fail (.invalidRequest "unsupported grant_type")

def revokeIn (hash : String) (clientId : Option String) (records : BTreeMap TokenRecord) :
    BTreeMap TokenRecord :=
  match records[hash]? with
  | none => records
  | some record =>
    if ∀ client ∈ clientId, client = record.clientId then
      records.insert hash { record with revoked := true }
    else records

def revoke (server : OAuthServer) (input : RevokeRequest) (environment : Environment) :
    Procedure OAuthStore OAuthError Unit := do
  let hash := server.libraries.sha256Hex input.token
  update fun state => { state with
    accessTokens := revokeIn hash input.clientId state.accessTokens
    refreshTokens := revokeIn hash input.clientId state.refreshTokens }
  persist environment

def validateAccessToken (server : OAuthServer) (token requiredScope : String)
    (environment : Environment) : Procedure OAuthStore OAuthError Bool := do
  let hash := server.libraries.sha256Hex token
  update (cleanupState environment.cleanedAt)
  let state ← memory
  return state.accessTokens[hash]?.any fun record =>
    !record.revoked && environment.now < record.expiresAt && scopeContains record.scope requiredScope

/-- A restart, which reads the file. -/
def restart : Procedure OAuthStore OAuthError Unit :=
  modify fun store => { store with memory := store.loaded }

/-! ## The server -/

inductive OAuthOperation where
  | registerClient (input : ClientRegistrationRequest)
  | beginAuthorization (query : AuthorizeQuery)
  | approveAuthorization (requestId ownerSecret : String)
  | exchangeToken (input : TokenRequest)
  | revoke (input : RevokeRequest)
  | validateAccessToken (token requiredScope : String)
  | restart

structure OAuthCall where
  operation : OAuthOperation
  environment : Environment

/-- What a call returns. -/
inductive OAuthAnswer where
  | client (response : RegistrationResponse)
  | request (requestId : String)
  | redirect (location : String)
  | tokens (response : TokenResponse)
  | valid (accepted : Bool)
  | done
deriving DecidableEq

/-- **The server** serving calls, each under the lock. -/
def serve (server : OAuthServer) (call : OAuthCall) : Procedure OAuthStore OAuthError OAuthAnswer :=
  match call.operation with
  | .registerClient input => .client <$> registerClient input call.environment
  | .beginAuthorization query => .request <$> beginAuthorization server query call.environment
  | .approveAuthorization requestId ownerSecret =>
    .redirect <$> approveAuthorization server requestId ownerSecret call.environment
  | .exchangeToken input => .tokens <$> exchangeToken server input call.environment
  | .revoke input => (fun _ => .done) <$> revoke server input call.environment
  | .validateAccessToken token requiredScope =>
    .valid <$> validateAccessToken server token requiredScope call.environment
  | .restart => (fun _ => .done) <$> restart

abbrev oauthMachine (server : OAuthServer) :
    Machine OAuthStore OAuthCall (Except OAuthError OAuthAnswer) :=
  Procedure.machine (serve server)

end Zero3Pilot.OAuth
