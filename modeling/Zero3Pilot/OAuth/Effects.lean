import Zero3Pilot.OAuth.Server

/-! # What the calls of the authorization server do

A call is refused, with the state in memory as it was or cleaned up, or it changes that state and
writes it, which may fail. All of it is said once here, and the invariants follow. -/

namespace Zero3Pilot.OAuth

open Procedure (ensures_bind ensures_read ensures_modify ensures_fail ensures_pure ensures_ite
  ensures_map)

/-! ## Comparing digests -/

theorem collected_eq_zero (pairs : List (UInt8 × UInt8)) (diff : UInt8) :
    pairs.foldl (fun diff bytes => diff ||| (bytes.1 ^^^ bytes.2)) diff = 0 ↔
      diff = 0 ∧ ∀ bytes ∈ pairs, bytes.1 = bytes.2 := by
  induction pairs generalizing diff with
  | nil => simp
  | cons bytes pairs ih =>
    rw [List.foldl_cons, ih, UInt8.or_eq_zero_iff, UInt8.xor_eq_zero_iff, List.forall_mem_cons,
      and_assoc]

/-- **Exactly equal digests compare as equal.** -/
theorem constantTimeEq_iff {left right : List UInt8} :
    constantTimeEq left right = true ↔ left = right := by
  rw [constantTimeEq, Bool.and_eq_true, decide_eq_true_eq, decide_eq_true_eq, collected_eq_zero]
  induction left generalizing right with
  | nil => cases right <;> simp
  | cons byte left ih =>
    cases right with
    | nil => simp
    | cons byte' right =>
      rw [List.zip_cons_cons, List.forall_mem_cons, List.cons.injEq, ← ih]
      simp only [List.length_cons, Nat.add_right_cancel_iff, true_and]
      tauto

/-! ## Changes -/

/-- **The changes of the state in memory**, with the answer once they are written. A call changes the
state exactly when it passes every check. -/
inductive Change (server : OAuthServer) (call : OAuthCall) (memory : OAuthState) :
    OAuthAnswer → OAuthState → Prop
  | registered (input : ClientRegistrationRequest) (response : RegistrationResponse)
      (operation : call.operation = .registerClient input)
      (valid : validateRegistration input = .ok ()) :
      Change server call memory (.client response)
        { memory with
          clients := memory.clients.insert (registeredClient input call.environment).clientId
            (registeredClient input call.environment) }
  | begun (query : AuthorizeQuery) (scope : String) (client : OAuthClient) {cleaned : OAuthState}
      (isCleaned : cleaned = cleanupState call.environment.cleanedAt memory)
      (operation : call.operation = .beginAuthorization query)
      (response : query.responseType = "code")
      (method : query.codeChallengeMethod = "S256" ∧ 43 ≤ query.codeChallenge.utf8ByteSize ∧
        query.codeChallenge.utf8ByteSize ≤ 128)
      (isScope : normalizeScope query.scope = .ok scope)
      (isResource : ∀ resource ∈ query.resource, resource = server.issuer ++ "/mcp")
      (found : cleaned.clients[query.clientId]? = some client)
      (isUri : query.redirectUri ∈ client.redirectUris) :
      Change server call memory (.request call.environment.requestId)
        { cleaned with
          pending := cleaned.pending.insert call.environment.requestId
            (pendingAuthorization query scope call.environment) }
  | approved (requestId ownerSecret : String) (pending : PendingAuthorization) {cleaned : OAuthState}
      (isCleaned : cleaned = cleanupState call.environment.cleanedAt memory)
      (operation : call.operation = .approveAuthorization requestId ownerSecret)
      (owner : server.libraries.sha256 ownerSecret = server.ownerSecretHash)
      (found : cleaned.pending[requestId]? = some pending) :
      Change server call memory
        (.redirect (redirectWithCode server.libraries pending.redirectUri call.environment.code
          pending.state))
        { cleaned with
          pending := cleaned.pending.erase requestId
          codes := cleaned.codes.insert (server.libraries.sha256Hex call.environment.code)
            (codeRecord server.libraries pending call.environment) }
  | exchanged (input : TokenRequest) (code verifier : String) (record : AuthorizationCodeRecord)
      {cleaned : OAuthState}
      (isCleaned : cleaned = cleanupState call.environment.cleanedAt memory)
      (operation : call.operation = .exchangeToken input)
      (grant : input.grantType = "authorization_code") (isCode : input.code = some code)
      (isClient : input.clientId = some record.clientId)
      (isUri : input.redirectUri = some record.redirectUri)
      (isVerifier : input.codeVerifier = some verifier)
      (length : 43 ≤ verifier.utf8ByteSize ∧ verifier.utf8ByteSize ≤ 128)
      (found : cleaned.codes[server.libraries.sha256Hex code]? = some record)
      (unused : record.used = false) (fresh : call.environment.now < record.expiresAt)
      (challenge : server.libraries.pkceChallenge verifier = record.codeChallenge) :
      Change server call memory (.tokens (tokenResponse record.scope call.environment))
        (issueTokens server.libraries record.clientId record.scope call.environment
          { cleaned with
            codes := cleaned.codes.insert (server.libraries.sha256Hex code)
              { record with used := true } })
  | refreshed (input : TokenRequest) (token : String) (record : TokenRecord) {cleaned : OAuthState}
      (isCleaned : cleaned = cleanupState call.environment.cleanedAt memory)
      (operation : call.operation = .exchangeToken input)
      (grant : input.grantType = "refresh_token") (isToken : input.refreshToken = some token)
      (isClient : input.clientId = some record.clientId)
      (found : cleaned.refreshTokens[server.libraries.sha256Hex token]? = some record)
      (unrevoked : record.revoked = false) (fresh : call.environment.now < record.expiresAt) :
      Change server call memory (.tokens (tokenResponse record.scope call.environment))
        (issueTokens server.libraries record.clientId record.scope call.environment
          { cleaned with
            refreshTokens := cleaned.refreshTokens.insert (server.libraries.sha256Hex token)
              { record with revoked := true } })
  | revoked (input : RevokeRequest) (operation : call.operation = .revoke input) :
      Change server call memory .done
        { memory with
          accessTokens := revokeIn (server.libraries.sha256Hex input.token) input.clientId
            memory.accessTokens
          refreshTokens := revokeIn (server.libraries.sha256Hex input.token) input.clientId
            memory.refreshTokens }

def Accepts (server : OAuthServer) (cleaned : OAuthState) (token requiredScope : String)
    (now : Int) : Bool :=
  cleaned.accessTokens[server.libraries.sha256Hex token]?.any fun record =>
    !record.revoked && now < record.expiresAt && scopeContains record.scope requiredScope

/-- **How a call is served.** -/
inductive Serves (server : OAuthServer) (call : OAuthCall) (store : OAuthStore) :
    Except OAuthError OAuthAnswer → OAuthStore → Prop
  | refused (error : OAuthError) : Serves server call store (.error error) store
  /-- It is refused after the cleanup. -/
  | cleaned (error : OAuthError) : Serves server call store (.error error)
        ⟨cleanupState call.environment.cleanedAt store.memory, store.file⟩
  | validated (token requiredScope : String)
      (operation : call.operation = .validateAccessToken token requiredScope) :
      Serves server call store
        (.ok (.valid (Accepts server (cleanupState call.environment.cleanedAt store.memory) token
          requiredScope call.environment.now)))
        ⟨cleanupState call.environment.cleanedAt store.memory, store.file⟩
  | changed (answer : OAuthAnswer) (memory : OAuthState) (clean : call.environment.fault = none)
      (change : Change server call store.memory answer memory) :
      Serves server call store (.ok answer) ⟨memory, some memory⟩
  | failed (answer : OAuthAnswer) (memory : OAuthState) (step : WriteStep) (message : String)
      (fault : call.environment.fault = some (step, message))
      (change : Change server call store.memory answer memory) :
      Serves server call store (.error (.server message))
        ⟨memory, if publishes (some step) then some memory else store.file⟩
  | restarted (operation : call.operation = .restart) :
      Serves server call store (.ok .done) ⟨store.loaded, store.file⟩

section Serve

variable {server : OAuthServer} {call : OAuthCall} {store : OAuthStore}

theorem written_ensures {memory : OAuthState} {answer : OAuthAnswer}
    (change : Change server call store.memory answer memory) :
    (persist call.environment).Ensures (fun _ => Serves server call store (.ok answer))
      (fun error => Serves server call store (.error error))
      ⟨memory, store.file⟩ := by
  rw [persist]
  cases fault : call.environment.fault with
  | none =>
    rw [ensures_modify]
    exact .changed _ memory fault change
  | some failure =>
    obtain ⟨step, message⟩ := failure
    simp only [ensures_bind, ensures_modify, ensures_fail]
    exact .failed _ memory step message fault change

theorem registerClient_ensures {input : ClientRegistrationRequest}
    (operation : call.operation = .registerClient input) :
    (registerClient input call.environment).Ensures
      (fun response => Serves server call store (.ok (.client response)))
      (fun error => Serves server call store (.error error)) store := by
  rw [registerClient, ensures_bind]
  refine .ofExcept (fun _ valid => ?_) fun error => .refused error
  simp only [update, ensures_bind, ensures_modify, ensures_pure]
  exact written_ensures (.registered input _ operation valid)

theorem beginAuthorization_ensures {query : AuthorizeQuery}
    (operation : call.operation = .beginAuthorization query) :
    (beginAuthorization server query call.environment).Ensures
      (fun requestId => Serves server call store (.ok (.request requestId)))
      (fun error => Serves server call store (.error error)) store := by
  rw [beginAuthorization, ensures_bind]
  refine .check (fun response => ?_) (.refused _)
  refine .checked (fun method => ?_) (.refused _)
  rw [ensures_bind]
  refine .ofExcept (fun scope isScope => ?_) fun error => .refused error
  refine .checked (fun isResource => ?_) (.refused _)
  simp only [update, memory, ensures_bind, ensures_modify, ensures_read, ensures_pure]
  refine .require (fun client found => .check (fun isUri => ?_) (.cleaned _)) (.cleaned _)
  exact written_ensures
    (.begun query scope client rfl operation response method isScope isResource found isUri)

theorem approveAuthorization_ensures {requestId ownerSecret : String}
    (operation : call.operation = .approveAuthorization requestId ownerSecret) :
    (approveAuthorization server requestId ownerSecret call.environment).Ensures
      (fun location => Serves server call store (.ok (.redirect location)))
      (fun error => Serves server call store (.error error)) store := by
  rw [approveAuthorization, ensures_bind]
  refine .check (fun owner => ?_) (.refused _)
  simp only [update, memory, ensures_bind, ensures_modify, ensures_read, ensures_pure]
  refine .require (fun pending found => ?_) (.cleaned _)
  exact written_ensures
    (.approved requestId ownerSecret pending rfl operation (constantTimeEq_iff.1 owner) found)

theorem exchangeAuthorizationCode_ensures {input : TokenRequest}
    (operation : call.operation = .exchangeToken input)
    (grant : input.grantType = "authorization_code") :
    (exchangeAuthorizationCode server input call.environment).Ensures
      (fun response => Serves server call store (.ok (.tokens response)))
      (fun error => Serves server call store (.error error)) store := by
  rw [exchangeAuthorizationCode, ensures_bind]
  refine .require (fun code isCode => ?_) (.refused _)
  refine .required (fun clientId isClient => ?_) (.refused _)
  refine .required (fun redirectUri isUri => ?_) (.refused _)
  refine .required (fun verifier isVerifier => ?_) (.refused _)
  refine .checked (fun length => ?_) (.refused _)
  simp only [update, memory, ensures_bind, ensures_modify, ensures_read, ensures_pure]
  refine .require (fun record found => ?_) (.cleaned _)
  refine .check (fun usable => .check (fun challenge => ?_) (.cleaned _)) (.cleaned _)
  obtain ⟨unused, fresh, rfl, rfl⟩ := usable
  exact written_ensures
    (.exchanged input code verifier record rfl operation grant isCode isClient isUri isVerifier length
      found unused fresh challenge)

theorem exchangeRefreshToken_ensures {input : TokenRequest}
    (operation : call.operation = .exchangeToken input)
    (grant : input.grantType = "refresh_token") :
    (exchangeRefreshToken server input call.environment).Ensures
      (fun response => Serves server call store (.ok (.tokens response)))
      (fun error => Serves server call store (.error error)) store := by
  rw [exchangeRefreshToken, ensures_bind]
  refine .require (fun token isToken => ?_) (.refused _)
  refine .required (fun clientId isClient => ?_) (.refused _)
  simp only [update, memory, ensures_bind, ensures_modify, ensures_read, ensures_pure]
  refine .require (fun record found => .check (fun usable => ?_) (.cleaned _)) (.cleaned _)
  obtain ⟨unrevoked, fresh, rfl⟩ := usable
  exact written_ensures
    (.refreshed input token record rfl operation grant isToken isClient found unrevoked fresh)

/-- **How calls are served.** -/
theorem serve_ensures (server : OAuthServer) (call : OAuthCall) (store : OAuthStore) :
    (serve server call).Ensures (fun answer => Serves server call store (.ok answer))
      (fun error => Serves server call store (.error error)) store := by
  rw [serve]
  cases operation : call.operation with
  | registerClient input => exact (ensures_map _ _).2 (registerClient_ensures operation)
  | beginAuthorization query => exact (ensures_map _ _).2 (beginAuthorization_ensures operation)
  | approveAuthorization requestId ownerSecret =>
    exact (ensures_map _ _).2 (approveAuthorization_ensures operation)
  | exchangeToken input =>
    refine (ensures_map _ _).2 ?_
    rw [exchangeToken]
    simp only [ensures_ite, ensures_fail]
    exact ⟨exchangeAuthorizationCode_ensures operation,
      fun _ => ⟨exchangeRefreshToken_ensures operation, fun _ => .refused _⟩⟩
  | revoke input =>
    refine (ensures_map _ _).2 ?_
    simp only [revoke, update, ensures_bind, ensures_modify]
    exact written_ensures (.revoked input operation)
  | validateAccessToken token requiredScope =>
    refine (ensures_map _ _).2 ?_
    simp only [validateAccessToken, update, memory, ensures_bind, ensures_modify, ensures_read,
      ensures_pure]
    exact .validated token requiredScope operation
  | restart =>
    refine (ensures_map _ _).2 ?_
    rw [restart, ensures_modify]
    exact .restarted operation

theorem serves (server : OAuthServer) (call : OAuthCall) (store : OAuthStore) :
    Serves server call store (serve server call store).1 (serve server call store).2 := by
  have served := serve_ensures server call store
  cases ran : serve server call store with
  | mk answer after =>
    cases answer with
    | ok answer => exact served.returned ran
    | error error => exact served.threw ran

end Serve

end Zero3Pilot.OAuth
