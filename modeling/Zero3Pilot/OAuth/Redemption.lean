import Zero3Pilot.OAuth.Atomicity

/-! # Codes are redeemed once

A code that was exchanged is not exchanged again, whichever writes fail later and however often the
server restarts, as long as the same code is not drawn again. -/

namespace Zero3Pilot.OAuth

/-- No code with the digest can be exchanged. -/
def Spent (hash : String) (state : OAuthState) : Prop :=
  ∀ record, state.codes[hash]? = some record → record.used = true

/-- An approval draws a code with another digest. -/
def DrawsOther (server : OAuthServer) (hash : String) (_ : OAuthStore) (call : OAuthCall) : Prop :=
  ∀ requestId ownerSecret, call.operation = .approveAuthorization requestId ownerSecret →
    server.libraries.sha256Hex call.environment.code ≠ hash

/-- The code is exchanged for tokens. -/
def Redeems (server : OAuthServer) (code : String) (store : OAuthStore) (call : OAuthCall) : Prop :=
  ∃ input response, call.operation = .exchangeToken input ∧ input.grantType = "authorization_code" ∧
    input.code = some code ∧ (serve server call store).1 = .ok (.tokens response)

variable {server : OAuthServer} {hash : String} {state : OAuthState} {store : OAuthStore}
  {call : OAuthCall}

theorem Spent.cleaned (spent : Spent hash state) (now : Int) : Spent hash (cleanupState now state) := by
  intro record found
  dsimp only [cleanupState] at found
  rw [Std.ExtTreeMap.getElem?_filter'] at found
  exact spent record (Option.filter_eq_some_iff.1 found).1

theorem Spent.insert {code : String} {record : AuthorizationCodeRecord} (spent : Spent hash state)
    (fresh : code = hash → record.used = true) :
    Spent hash { state with codes := state.codes.insert code record } := by
  intro known found
  dsimp only at found
  rw [Std.ExtTreeMap.getElem?_insert] at found
  split at found
  · rename_i same
    exact Option.some.inj found ▸ fresh (by simpa using same)
  · exact spent known found

theorem Spent.change (spent : Spent hash store.memory) {answer : OAuthAnswer} {memory : OAuthState}
    (change : Change server call store.memory answer memory) (other : DrawsOther server hash store call) :
    Spent hash memory := by
  have cleaned := spent.cleaned call.environment.cleanedAt
  cases change with
  | registered | revoked => exact spent
  | begun _ _ _ isCleaned | refreshed _ _ _ isCleaned => exact isCleaned ▸ cleaned
  | approved requestId ownerSecret _ isCleaned operation =>
    subst isCleaned
    exact cleaned.insert fun same => absurd same (other _ _ operation)
  | exchanged _ _ _ _ isCleaned =>
    subst isCleaned
    exact cleaned.insert fun _ => rfl

theorem spent_of_run {start : OAuthStore} {history : List (OAuthCall × Except OAuthError OAuthAnswer)}
    (run : (oauthMachine server).Run (DrawsOther server hash) start history store)
    (spent : Spent hash start.memory) (filed : Spent hash start.loaded) : Spent hash store.memory := by
  refine (run.stateInvariant (fun store => Spent hash store.memory ∧ Spent hash store.loaded)
    ⟨spent, filed⟩ ?_).1
  rintro store call ⟨spent, filed⟩ other
  have served := serves server call store
  show Spent hash (serve server call store).2.memory ∧ Spent hash (serve server call store).2.loaded
  generalize serve server call store = result at served
  obtain ⟨answer, after⟩ := result
  cases served with
  | refused => exact ⟨spent, filed⟩
  | cleaned | validated => exact ⟨spent.cleaned _, filed⟩
  | changed _ _ _ change => exact ⟨spent.change change other, spent.change change other⟩
  | restarted => exact ⟨filed, filed⟩
  | failed _ _ step _ _ change =>
    -- The file holds the old state or the new one.
    refine ⟨spent.change change other, ?_⟩
    cases publishes (some step) with
    | true => exact spent.change change other
    | false => exact filed

/-- An exchange that is answered with tokens finds its code unspent, and leaves it spent. -/
theorem Redeems.spends {code : String} (redeems : Redeems server code store call) :
    ¬ Spent (server.libraries.sha256Hex code) store.memory ∧ ∃ memory,
      (serve server call store).2 = ⟨memory, some memory⟩ ∧
        Spent (server.libraries.sha256Hex code) memory := by
  obtain ⟨input, response, operation, grant, isCode, answered⟩ := redeems
  have served := serves server call store
  generalize serve server call store = result at served answered
  obtain ⟨answer, after⟩ := result
  cases served with
  | changed answer memory _ change =>
    obtain rfl := Except.ok.inj answered
    cases change with
    | exchanged _ _ _ record isCleaned operation' _ isCode' _ _ _ _ found unused =>
      obtain rfl := OAuthOperation.exchangeToken.inj (operation.symm.trans operation')
      obtain rfl := Option.some.inj (isCode.symm.trans isCode')
      subst isCleaned
      refine ⟨fun spent => ?_, _, rfl, fun known isKnown => ?_⟩
      · rw [spent.cleaned _ record found] at unused
        cases unused
      · dsimp only [issueTokens] at isKnown
        rw [Std.ExtTreeMap.getElem?_insert_self] at isKnown
        exact Option.some.inj isKnown ▸ rfl
    | refreshed _ _ _ _ operation' grant' =>
      obtain rfl := OAuthOperation.exchangeToken.inj (operation.symm.trans operation')
      exact absurd (grant.symm.trans grant') (by decide)
  | refused | cleaned | validated | failed | restarted => cases answered

/-- **A code is redeemed once**, as long as no approval draws it again. -/
theorem redeemed_once {start : OAuthStore} {code : String} {call' : OAuthCall}
    {history : List (OAuthCall × Except OAuthError OAuthAnswer)}
    (redeems : Redeems server code start call)
    (run : (oauthMachine server).Run (DrawsOther server (server.libraries.sha256Hex code))
      (serve server call start).2 history store) : ¬ Redeems server code store call' := by
  obtain ⟨-, memory, same, spent⟩ := redeems.spends
  rw [same] at run
  exact fun again => again.spends.1 (spent_of_run run spent spent)

/-- A restart does not bring a redeemed code back. -/
theorem redeemed_once_sample : ¬ Redeems sampleServer
    "z3ac-0f8fad5bd9cb469fa16570867728950e7c9e6679742540de944be07fc1f90ae7"
    ((oauthMachine sampleServer).exec
      (serve sampleServer (sampleExchange sampleClient none) approvedRun.2).2
      [⟨.restart, sampleEnvironment (seconds 4) none⟩]).2
    (sampleExchange sampleClient none) := by
  have answered : (serve sampleServer (sampleExchange sampleClient none) approvedRun.2).1 =
      .ok (.tokens (tokenResponse "zero3.worker offline_access"
        (sampleEnvironment (seconds 3) none))) := by
    decide +kernel
  refine redeemed_once ⟨_, _, rfl, rfl, rfl, answered⟩ (Machine.exec_run _ _ _ ⟨?_, trivial⟩)
  intro requestId secret operation
  cases operation

end Zero3Pilot.OAuth
