import Zero3Pilot.OAuth.Effects

/-! # Failing calls of the authorization server

A call that is refused leaves the state as it was, but for a cleanup, and a restart finds that state,
but for cleanups. A call whose write fails has changed the state in memory already, and the file may
hold the state before or behind the change. -/

namespace Zero3Pilot.OAuth

open ControlPlane (BTreeMap)

/-! ## Statements -/

def NothingToRevoke (hash : String) (clientId : Option String) (records : BTreeMap TokenRecord) :
    Prop :=
  ∀ record, records[hash]? = some record →
    record.revoked = true ∨ ¬ ∀ client ∈ clientId, client = record.clientId

def Writes (server : OAuthServer) (store : OAuthStore) (call : OAuthCall) : Prop :=
  ∃ answer memory, Change server call store.memory answer memory

def RevokesNothing (server : OAuthServer) (store : OAuthStore) (call : OAuthCall) : Prop :=
  ∃ input, call.operation = .revoke input ∧
    NothingToRevoke (server.libraries.sha256Hex input.token) input.clientId
      store.memory.accessTokens ∧
    NothingToRevoke (server.libraries.sha256Hex input.token) input.clientId
      store.memory.refreshTokens

def WriteSucceeds (server : OAuthServer) (store : OAuthStore) (call : OAuthCall) : Prop :=
  Writes server store call → call.environment.fault = none ∨ RevokesNothing server store call

def cleanups (instants : List Int) (state : OAuthState) : OAuthState :=
  instants.foldl (fun state now => cleanupState now state) state

def CleanedAt (history : List (OAuthCall × Except OAuthError OAuthAnswer)) (instants : List Int) :
    Prop :=
  ∀ instant ∈ instants, ∃ step ∈ history, step.1.environment.cleanedAt = instant

/-- The state in memory is the one a restart loads, but for cleanups the run has made. -/
def Reloads (history : List (OAuthCall × Except OAuthError OAuthAnswer)) (store : OAuthStore) : Prop :=
  ∃ instants, CleanedAt history instants ∧ store.memory = cleanups instants store.loaded

/-- **What a failing call leaves**: the state as it was, but for its cleanup, which is the one a
restart loads, but for cleanups. -/
structure FailedAtomically (history : List (OAuthCall × Except OAuthError OAuthAnswer))
    (call : OAuthCall) (store after : OAuthStore) : Prop where
  memory : after.memory = store.memory ∨
    after.memory = cleanupState call.environment.cleanedAt store.memory
  restart : Reloads history after

/-! ## Revoking nothing -/

theorem insert_found {α : Type} {records : BTreeMap α} {key : String} {record : α}
    (found : records[key]? = some record) : records.insert key record = records := by
  refine Std.ExtTreeMap.ext_getElem? fun other => ?_
  rw [Std.ExtTreeMap.getElem?_insert]
  by_cases same : key = other
  · rw [if_pos (by simpa using same), ← same, found]
  · rw [if_neg (by simpa using same)]

theorem revokeIn_eq_self {hash : String} {clientId : Option String} {records : BTreeMap TokenRecord}
    (nothing : NothingToRevoke hash clientId records) : revokeIn hash clientId records = records := by
  rw [revokeIn]
  cases found : records[hash]? with
  | none => rfl
  | some record =>
    show (if _ then records.insert hash { record with revoked := true } else records) = records
    rcases nothing record found with revoked | other
    · have same : { record with revoked := true } = record := by
        rw [← revoked]
      rw [same, insert_found found, ite_self]
    · rw [if_neg other]

variable {server : OAuthServer} {call : OAuthCall} {store : OAuthStore}

theorem RevokesNothing.unchanged (nothing : RevokesNothing server store call) {answer : OAuthAnswer}
    {memory : OAuthState} (change : Change server call store.memory answer memory) :
    memory = store.memory := by
  obtain ⟨input, operation, accessTokens, refreshTokens⟩ := nothing
  cases change with
  | revoked input' operation' =>
    cases operation.symm.trans operation'
    rw [revokeIn_eq_self accessTokens, revokeIn_eq_self refreshTokens]
  | registered _ _ operation' | begun _ _ _ _ operation' | approved _ _ _ _ operation'
  | exchanged _ _ _ _ _ operation' | refreshed _ _ _ _ operation' =>
    exact nomatch operation.symm.trans operation'

/-! ## Memory and file -/

variable {history : List (OAuthCall × Except OAuthError OAuthAnswer)}

theorem CleanedAt.extend {instants : List Int} (cleaned : CleanedAt history instants)
    (last : OAuthCall × Except OAuthError OAuthAnswer) : CleanedAt (history ++ [last]) instants := by
  intro instant member
  obtain ⟨step, found, same⟩ := cleaned instant member
  exact ⟨step, List.mem_append_left _ found, same⟩

theorem CleanedAt.cleaned {instants : List Int} (cleaned : CleanedAt history instants)
    (answer : Except OAuthError OAuthAnswer) :
    CleanedAt (history ++ [(call, answer)]) (instants ++ [call.environment.cleanedAt]) := by
  intro instant member
  rcases List.mem_append.1 member with old | new
  · exact cleaned.extend _ instant old
  · exact ⟨_, List.mem_append_right _ (List.mem_singleton_self _), (List.mem_singleton.1 new).symm⟩

theorem cleanups_snoc (instants : List Int) (now : Int) (state : OAuthState) :
    cleanups (instants ++ [now]) state = cleanupState now (cleanups instants state) := by
  rw [cleanups, cleanups, List.foldl_append, List.foldl_cons, List.foldl_nil]

theorem Reloads.same (history : List (OAuthCall × Except OAuthError OAuthAnswer))
    (memory : OAuthState) : Reloads history ⟨memory, some memory⟩ :=
  ⟨[], fun _ member => (nomatch member), rfl⟩

/-- **One call** keeps the state in memory as the file has it, but for cleanups. -/
theorem Reloads.step {answer : Except OAuthError OAuthAnswer} {after : OAuthStore}
    (reloads : Reloads history store) (succeeds : WriteSucceeds server store call)
    (served : Serves server call store answer after) :
    Reloads (history ++ [(call, answer)]) after := by
  obtain ⟨instants, cleaned, same⟩ := reloads
  have cleanedUp : Reloads (history ++ [(call, answer)])
      ⟨cleanupState call.environment.cleanedAt store.memory, store.file⟩ := by
    refine ⟨_, cleaned.cleaned answer, ?_⟩
    rw [cleanups_snoc, same]
    rfl
  cases served with
  | refused => exact ⟨instants, cleaned.extend _, same⟩
  | cleaned | validated => exact cleanedUp
  | changed answer memory => exact .same _ memory
  | failed answer memory step message fault change =>
    rcases succeeds ⟨answer, memory, change⟩ with clean | nothing
    · rw [clean] at fault
      cases fault
    · rw [nothing.unchanged change]
      by_cases published : publishes (some step) = true
      · rw [if_pos published]
        exact .same _ store.memory
      · rw [if_neg published]
        exact ⟨instants, cleaned.extend _, same⟩
  | restarted => exact ⟨[], fun _ member => (nomatch member), rfl⟩

/-- In a run in which no write fails, the state in memory is the one a restart loads, but for
cleanups. -/
theorem reloads_of_run
    (run : (oauthMachine server).Run (WriteSucceeds server) .empty history store) :
    Reloads history store :=
  run.invariant Reloads ⟨[], fun _ member => (nomatch member), rfl⟩
    fun _ store call reloads met => reloads.step met (serves server call store)

/-- **Failing calls are atomic** in every run in which no write fails. -/
theorem atomic_of_run (run : (oauthMachine server).Run (WriteSucceeds server) .empty history store)
    (succeeds : WriteSucceeds server store call) {error : OAuthError}
    (failed : (serve server call store).1 = .error error) :
    FailedAtomically (history ++ [(call, .error error)]) call store (serve server call store).2 := by
  have served := serves server call store
  rw [failed] at served
  generalize (serve server call store).2 = after at served
  refine ⟨?_, (reloads_of_run run).step succeeds served⟩
  cases served with
  | refused => exact Or.inl rfl
  | cleaned => exact Or.inr rfl
  | failed answer memory step message fault change =>
    rcases succeeds ⟨answer, memory, change⟩ with clean | nothing
    · rw [clean] at fault
      cases fault
    · exact Or.inl (nothing.unchanged change)

/-! ## A request with a failing write -/

def ownerSecret : String := "zero3-oauth-owner-secret-for-tests-0123456789abcdef"

def sampleVerifier : String := "aaaaaaaaaaaaaaaaaaaaaaaaaaaaaaaaaaaaaaaaaaaaaaaaaaaaaaaaaaaaaaaa"

/-- The SHA-256 digests of the texts that are hashed. -/
def sampleDigests : List (String × List UInt8) :=
  [(ownerSecret, [173, 34, 107, 180, 150, 47, 79, 149, 210, 164, 21, 105, 62, 209, 102, 82,
        219, 119, 171, 206, 52, 89, 182, 67, 37, 116, 64, 76, 248, 108, 147, 148]),
    (sampleVerifier, [255, 224, 84, 254, 122, 224, 203, 109, 198, 92, 58, 249, 182, 29, 82, 9,
        244, 57, 133, 29, 180, 61, 11, 165, 153, 115, 55, 223, 21, 70, 104, 235]),
    ("z3ac-0f8fad5bd9cb469fa16570867728950e7c9e6679742540de944be07fc1f90ae7",
      [173, 99, 85, 195, 215, 94, 246, 3, 181, 182, 236, 224, 110, 244, 167, 251,
        44, 181, 252, 1, 184, 245, 35, 53, 33, 79, 65, 184, 75, 33, 122, 90]),
    ("z3at-c56a418065aa42eca9455fd21dec053816fd27068baf433b82eb8c7fada847da",
      [225, 76, 191, 237, 90, 185, 17, 225, 172, 251, 21, 196, 189, 147, 21, 171,
        153, 118, 15, 99, 163, 163, 156, 183, 135, 11, 169, 159, 233, 15, 179, 81]),
    ("z3rt-a8098c1af86e11dabd1a00112444be1e6fa459eaee8a3ca4894edb77e160355e",
      [88, 82, 67, 55, 208, 79, 9, 14, 107, 235, 135, 107, 133, 234, 116, 96,
        211, 242, 249, 232, 241, 211, 21, 248, 177, 28, 67, 157, 125, 188, 198, 39])]

/-- The digest of a text that is hashed. -/
def sampleDigest (value : String) : List UInt8 := (sampleDigests.lookup value).getD []

def sampleLibraries : Libraries where
  sha256 := sampleDigest
  base64Url digest :=
    if digest = sampleDigest sampleVerifier then "_-BU_nrgy23GXDr5th1SCfQ5hR20PQulmXM33xVGaOs"
    else ""
  urlEncode value := value

def sampleServer : OAuthServer where
  libraries := sampleLibraries
  issuer := "https://pilot.03.336r.com"
  ownerSecretHash := sampleDigest ownerSecret

def sampleEnvironment (time : Int) (fault : Option (WriteStep × String)) : Environment where
  cleanedAt := time
  now := time
  issuedAt := time
  uuid := ⟨"6ba7b810-9dad-11d1-80b4-00c04fd430c8", by decide, by decide⟩
  codeUuids :=
    (⟨"0f8fad5b-d9cb-469f-a165-70867728950e", by decide, by decide⟩,
      ⟨"7c9e6679-7425-40de-944b-e07fc1f90ae7", by decide, by decide⟩)
  accessUuids :=
    (⟨"c56a4180-65aa-42ec-a945-5fd21dec0538", by decide, by decide⟩,
      ⟨"16fd2706-8baf-433b-82eb-8c7fada847da", by decide, by decide⟩)
  refreshUuids :=
    (⟨"a8098c1a-f86e-11da-bd1a-00112444be1e", by decide, by decide⟩,
      ⟨"6fa459ea-ee8a-3ca4-894e-db77e160355e", by decide, by decide⟩)
  fault := fault

def sampleRedirect : String := "https://chatgpt.com/aip/oauth/callback"

def sampleClient : String := "z3c-6ba7b8109dad11d180b400c04fd430c8"

def approvalCalls : List OAuthCall :=
  [⟨.registerClient
      { redirectUris := [sampleRedirect]
        clientName := some "ChatGPT"
        tokenEndpointAuthMethod := some "none"
        grantTypes := ["authorization_code", "refresh_token"]
        responseTypes := ["code"] }, sampleEnvironment 0 none⟩,
    ⟨.beginAuthorization
      { responseType := "code"
        clientId := sampleClient
        redirectUri := sampleRedirect
        codeChallenge := "_-BU_nrgy23GXDr5th1SCfQ5hR20PQulmXM33xVGaOs"
        codeChallengeMethod := "S256"
        scope := some "zero3.worker offline_access"
        state := some "state-1"
        resource := some "https://pilot.03.336r.com/mcp" }, sampleEnvironment (seconds 1) none⟩,
    ⟨.approveAuthorization "z3auth-6ba7b8109dad11d180b400c04fd430c8" ownerSecret,
      sampleEnvironment (seconds 2) none⟩]

def approvedRun : List (OAuthCall × Except OAuthError OAuthAnswer) × OAuthStore :=
  (oauthMachine sampleServer).exec .empty approvalCalls

def sampleExchange (clientId : String) (fault : Option (WriteStep × String)) : OAuthCall where
  operation := .exchangeToken
    { grantType := "authorization_code"
      code := some "z3ac-0f8fad5bd9cb469fa16570867728950e7c9e6679742540de944be07fc1f90ae7"
      redirectUri := some sampleRedirect
      clientId := some clientId
      codeVerifier := some sampleVerifier
      refreshToken := none }
  environment := sampleEnvironment (seconds 3) fault

theorem approvedRun_writeSucceeds :
    (oauthMachine sampleServer).Run (WriteSucceeds sampleServer) .empty approvedRun.1
      approvedRun.2 :=
  Machine.exec_run _ _ _ ⟨fun _ => Or.inl rfl, fun _ => Or.inl rfl, fun _ => Or.inl rfl, trivial⟩

def foreignExchange : OAuthCall := sampleExchange "z3c-7d4448409dc011d1b2455ffdce74fad2" none

def foreignRefusal : OAuthError := .invalidGrant "authorization code cannot be used"

/-- The exchange by another client leaves the code as it was. -/
theorem atomic_of_run_sample :
    FailedAtomically (approvedRun.1 ++ [(foreignExchange, .error foreignRefusal)]) foreignExchange
      approvedRun.2 (serve sampleServer foreignExchange approvedRun.2).2 :=
  atomic_of_run approvedRun_writeSucceeds (fun _ => Or.inl rfl) (by decide +kernel)

/-- The exchange of the code, whose write finds the disk full. -/
def failedExchange : OAuthCall :=
  sampleExchange sampleClient (some (.write, "No space left on device (os error 28)"))

def failedAnswer : OAuthError := .server "No space left on device (os error 28)"

def codeUsed (state : OAuthState) : Option Bool :=
  state.codes[sampleLibraries.sha256Hex (sampleEnvironment 0 none).code]?.map (·.used)

theorem failedExchange_spends :
    (serve sampleServer failedExchange approvedRun.2).1 = .error failedAnswer ∧
      codeUsed (serve sampleServer failedExchange approvedRun.2).2.memory = some true ∧
      codeUsed approvedRun.2.memory = some false ∧
      codeUsed (cleanupState failedExchange.environment.cleanedAt approvedRun.2.memory) =
        some false := by
  decide +kernel

/-- A code is used up by an exchange that is answered with an error. -/
theorem atomic_of_run_counterexample :
    (oauthMachine sampleServer).Run Machine.anyStep .empty approvedRun.1 approvedRun.2 ∧
      (serve sampleServer failedExchange approvedRun.2).1 = .error failedAnswer ∧
      ¬ FailedAtomically (approvedRun.1 ++ [(failedExchange, .error failedAnswer)]) failedExchange
        approvedRun.2 (serve sampleServer failedExchange approvedRun.2).2 := by
  obtain ⟨answered, used, unused, cleanedUnused⟩ := failedExchange_spends
  refine ⟨approvedRun_writeSucceeds.weaken fun _ _ _ => trivial, answered, fun failed => ?_⟩
  rcases failed.memory with same | cleaned
  · rw [same, unused] at used
    cases used
  · rw [cleaned, cleanedUnused] at used
    cases used

end Zero3Pilot.OAuth
