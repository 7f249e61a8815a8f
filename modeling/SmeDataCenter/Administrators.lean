import SmeDataCenter.AuthEffects
import SmeDataCenter.AuthorizationVersions

/-!
# The administrators of an organization

Two repositories change accounts. A mutation of the authorization changes the role of an account
and its permissions; the operator's command line onboards an account and deletes one that was made
for a test. A change of role counts the other administrators first. A deletion does not.
-/

namespace SmeDataCenter
namespace Accounts

open AuthorizationWrites
open Fallible (bind_ok)

/-- The accounts stand in the tables of the logins; the authorization reads and writes them
there. -/
structure AccountStore where
  auth : AuthStore := {}
  authorization : AuthorizationStore := {}

namespace AccountStore

def authorizationStore (s : AccountStore) : AuthorizationStore :=
  { s.authorization with
    tables := { s.authorization.tables with employees := s.auth.employees } }

/-- The store after a write of the authorization. -/
def authorized (s : AccountStore) (authorization : AuthorizationStore) : AccountStore :=
  { auth := { s.auth with employees := authorization.tables.employees }, authorization }

end AccountStore

/-! ### Operations -/

/-- What `mutate` commits. -/
def mutate (nfc : String → String) (s : AccountStore) (call : MutateCall) : AccountStore :=
  if !call.offered then s
  else match attempt nfc s.authorizationStore call with
    | some (.ok authorization) => s.authorized authorization
    | _ => s

structure OnboardCall where
  input : OnboardInput
  initialGrants : List (String × BusinessGrant)
  employeeId : String
  identityId : String
  /-- The ids of the categories that are made. -/
  newId : String → String

/-- `onboard`: the account comes with its permissions. -/
def onboard (s : AccountStore) (call : OnboardCall) : Except WorkerError AccountStore :=
  if 3 < call.input.clearance then .error (.thrown "INVALID_ACCOUNT_CLEARANCE")
  else if (s.auth.organizations.lookup call.input.orgId).isNone then
    .error (.thrown "Organization not found.")
  else do
    let (_, auth) ← s.auth.onboard call.input call.employeeId call.identityId none
    let orgId := call.input.orgId
    let state := (s.authorization.states.lookup orgId).getD {}
    let tables := initializeFixedBusinessCategories
      { s.authorization.tables with employees := auth.employees } orgId call.newId
    match persistBusinessGrants tables orgId call.employeeId call.initialGrants
        (tables.rules orgId) with
    | .error _ => throw (.thrown "INVALID_BUSINESS_GRANT")
    | .ok tables =>
      let states := s.authorization.states.insert orgId { state with version := state.version + 1 }
      return { auth, authorization := { s.authorization with tables, states } }

/-- What is asked of the deletion of a test account: whether the account has uploaded documents,
and whether a row of another table still refers to it. -/
structure DeleteCall where
  normalizedEmail : String
  uploads : Bool
  referenced : Bool

/-- The rows of an account that go before it. -/
def withoutLogins (auth : AuthStore) (employeeId : String) : AuthStore :=
  let identityIds := (auth.loginIdentities.findMany fun _ identity =>
    identity.employeeId = employeeId).map (·.1)
  let sessionIds := (auth.authSessions.findMany fun _ session =>
    session.owner.employeeId = employeeId).map (·.1)
  { auth with
    oAuthAccessTokens := auth.oAuthAccessTokens.deleteMany fun _ token =>
      token.owner.employeeId = employeeId || identityIds.contains token.owner.identityId
    durableCredentials := auth.durableCredentials.deleteMany fun _ credential =>
      sessionIds.contains credential.sessionId
    authSessions := auth.authSessions.deleteMany fun id _ => sessionIds.contains id
    passwordSetupSessions := auth.passwordSetupSessions.deleteMany fun _ setup =>
      identityIds.contains setup.identityId
    passwordSetupGrants := auth.passwordSetupGrants.deleteMany fun _ grant =>
      identityIds.contains grant.identityId
    browserSessions := auth.browserSessions.deleteMany fun _ session =>
      identityIds.contains session.owner.identityId
    loginIdentities := auth.loginIdentities.deleteMany fun id _ => identityIds.contains id }

/-- The grants and the audits of an account refer to it. -/
def refersTo (authorization : AuthorizationStore) (employeeId : String) : Bool :=
  !(authorization.tables.grants.findMany fun _ row => row.employeeId = employeeId).isEmpty ||
    authorization.audits.any fun audit => audit.actorId = employeeId

/-- The account of an email. -/
def accountOf (s : AccountStore) (normalizedEmail : String) : Option LoginIdentity :=
  ((s.auth.loginIdentities.findMany fun _ identity =>
    identity.normalizedEmail = normalizedEmail).head?).map (·.2)

def deleteTestAccount (s : AccountStore) (call : DeleteCall) : Except WorkerError AccountStore :=
  match accountOf s call.normalizedEmail with
  | none => .ok s
  | some identity =>
    if call.uploads then
      .error (.thrown "Test account still owns uploaded documents; clean test data first.")
    else if call.referenced || refersTo s.authorization identity.employeeId then
      .error (.thrown "P2003")
    else if identity.employeeId ∉ s.auth.employees then .error (.thrown "P2025")
    else
      let auth := withoutLogins s.auth identity.employeeId
      .ok { s with
        auth := { auth with
          employees := auth.employees.deleteMany fun id _ => id = identity.employeeId } }

inductive AccountStep where
  /-- A call that changes the authorization, of a role or of anything else. -/
  | mutate (call : MutateCall)
  | onboard (call : OnboardCall)
  | deleteTestAccount (call : DeleteCall)

/-- An operation that is refused leaves the store as it was. -/
def step (nfc : String → String) (s : AccountStore) : AccountStep → AccountStore
  | .mutate call => mutate nfc s call
  | .onboard call => Runs.commit s (onboard s call)
  | .deleteTestAccount call => Runs.commit s (deleteTestAccount s call)

/-! ### What happens to the administrators -/

/-- An administrator who is not disabled. -/
def Employee.Administers (row : Employee) (orgId : String) : Prop :=
  row.orgId = orgId ∧ row.role = .admin ∧ row.disabled = false

/-- The organization has an administrator. -/
def Administered (employees : Table String Employee) (orgId : String) : Prop :=
  ∃ id row, employees.lookup id = some row ∧ Employee.Administers row orgId

/-- Every organization that has an administrator keeps one. -/
def KeepsAdmin (employees employees' : Table String Employee) : Prop :=
  ∀ orgId, Administered employees orgId → Administered employees' orgId

variable {employees : Table String Employee}

lemma KeepsAdmin.of_eq {employees' : Table String Employee} (h : employees' = employees) :
    KeepsAdmin employees employees' := by
  intro orgId
  rw [h]
  exact id

variable {employeeId : String}

section

variable {tables tables' : AuthorizationTables} {context : AuthorizationWriteContext}
  {s s' : AuthorizationStore} {operator : Option PermissionOperatorAudit}

variable {orgId : String}

lemma eligibility_employees {categoryId targetId : String} {scopes : List BusinessScopeItem}
    {preserve : Bool} {supplement : Option HistoricalSupplementIntent}
    (h : requireCurrentDirectoryEligibility tables orgId categoryId targetId scopes preserve
      supplement = .ok tables') : tables'.employees = tables.employees := by
  unfold requireCurrentDirectoryEligibility at h
  cases supplement with
  | none =>
    dsimp only at h
    split at h
    · cases h
    · obtain ⟨references, -, h⟩ := bind_ok.mp h
      generalize _ ++ references.flatten = retired at h
      split at h
      · cases h
      · obtain rfl := Fallible.pure_ok.mp h
        rfl
  | some intent =>
    obtain ⟨_, -, h⟩ := bind_ok.mp h
    split at h
    · cases h
    · obtain ⟨references, -, h⟩ := bind_ok.mp h
      dsimp only at h
      generalize _ ++ references.flatten = retired at h
      split at h
      · cases h
      · obtain rfl := Fallible.pure_ok.mp h
        rfl

lemma resource_employees {input : ResourceAttributes} {publication : Bool}
    {supplement : Option HistoricalSupplementIntent}
    (h : persistResourceAttributes tables orgId input publication supplement = .ok tables') :
    tables'.employees = tables.employees := by
  unfold persistResourceAttributes at h
  split at h
  · cases h
  obtain ⟨-, -, h⟩ := bind_ok.mp h
  obtain ⟨eligible, heligible, h⟩ := bind_ok.mp h
  split at h
  · cases h
  split at h
  · cases h
  obtain rfl := Fallible.pure_ok.mp h
  have hsame := eligibility_employees heligible
  exact hsame

lemma grants_employees {grants : List (String × BusinessGrant)}
    {categories : List BusinessCategoryRule}
    (h : persistBusinessGrants tables orgId employeeId grants categories = .ok tables') :
    tables'.employees = tables.employees := by
  unfold persistBusinessGrants at h
  split at h
  · cases h
  dsimp only at h
  refine (Fallible.foldlM_keeps (g := AuthorizationTables.employees)
    (fun tables entry tables' hcreate => ?_) h).trans rfl
  unfold createGrant at hcreate
  split at hcreate
  · cases hcreate
  split at hcreate
  · cases hcreate
  split at hcreate <;> cases hcreate
  rfl

lemma evidence_employees {newId : String} {input : EvidenceAttributes}
    (h : configureEvidenceDocument tables context newId input = .ok tables') :
    tables'.employees = tables.employees := by
  unfold configureEvidenceDocument at h
  split at h
  · cases h
  obtain ⟨supplement, -, h⟩ := bind_ok.mp h
  obtain ⟨retained, -, h⟩ := bind_ok.mp h
  exact (resource_employees h).trans rfl

variable {nfc : String → String}

lemma identity_employees {enterpriseKey enterpriseName : Option String} {key : String}
    {saved : Bool}
    (h : saveEnterpriseIdentity tables context nfc enterpriseKey enterpriseName =
      .ok (tables', key, saved)) : tables'.employees = tables.employees := by
  unfold saveEnterpriseIdentity at h
  obtain ⟨identity, -, h⟩ := bind_ok.mp h
  dsimp only at h
  split at h
  · cases h
  split at h
  · split at h <;> cases h
    rfl
  · split at h <;> cases h
    rfl

lemma audit_employees {data : BusinessAuthorizationAudit}
    (h : writeAudit s operator data = .ok s') : s'.tables.employees = s.tables.employees := by
  obtain ⟨-, -, htables⟩ := writeAudit_ok h
  have hemployees := congrArg AuthorizationTables.employees htables
  exact hemployees

lemma store_employees {version : ℕ} {input : StoreWrite}
    (h : putStore nfc s context operator version input = .ok s') :
    s'.tables.employees = s.tables.employees := by
  unfold putStore at h
  split at h
  · cases h
  obtain ⟨⟨tables, key, saved⟩, hsave, h⟩ := bind_ok.mp h
  obtain ⟨declared, hdeclare, h⟩ := bind_ok.mp h
  obtain rfl := Fallible.pure_ok.mp h
  have hdeclared : declared.tables.employees = tables.employees := by
    unfold declareSaved at hdeclare
    split at hdeclare
    · exact audit_employees hdeclare
    · cases hdeclare
      rfl
  exact hdeclared.trans (identity_employees hsave)

variable {expired : Bool}

lemma configure_employees {mutation : Mutation}
    (hrole : ∀ employeeId role, mutation ≠ .configureAccountRole employeeId role)
    (haccount : ∀ employeeId clearance grants,
      mutation ≠ .configureAccount employeeId clearance grants)
    (h : mutation.configure nfc tables context expired = .ok tables') :
    tables'.employees = tables.employees := by
  cases mutation with
  | initializeFixedCategories newId =>
    have h : tables' = initializeFixedBusinessCategories tables context.orgId newId :=
      (Except.ok.inj h).symm
    rw [h, initializeFixedBusinessCategories]
  | activateAuthorizationCutover confirm ready =>
    cases h
    rfl
  | suspendAuthorizationReads confirm =>
    cases h
    rfl
  | configureAccountRole employeeId role => exact absurd rfl (hrole employeeId role)
  | configureAccount employeeId clearance grants =>
    exact absurd rfl (haccount employeeId clearance grants)
  | configureEvidenceDocument newId input => exact evidence_employees h
  | defineDimension input =>
    unfold Mutation.configure defineDimension at h
    dsimp only at h
    split at h <;> cases h
    rfl
  | defineDimensionValue dimensionId input =>
    unfold Mutation.configure defineDimensionValue at h
    dsimp only at h
    split at h
    · cases h
    split at h <;> cases h
    rfl
  | configureCategory input =>
    unfold Mutation.configure configureCategory at h
    dsimp only at h
    split at h
    · cases h
    split at h
    · cases h
    split at h
    · cases h
    split at h
    · cases h
    split at h
    · cases h
    split at h <;> cases h
    rfl
  | declareEnterpriseIdentity name =>
    obtain ⟨⟨written, key, saved⟩, hsave, h⟩ := bind_ok.mp h
    obtain rfl := Fallible.pure_ok.mp h
    exact identity_employees hsave
  | putStore input =>
    cases h
    rfl
  | putResource input reason =>
    obtain ⟨supplement, -, h⟩ := bind_ok.mp h
    exact resource_employees h

lemma KeepsAdmin.update {f : Employee → Employee} (horg : ∀ row, (f row).orgId = row.orgId)
    (hrole : ∀ row, (f row).role = row.role) (hdisabled : ∀ row, (f row).disabled = row.disabled) :
    KeepsAdmin employees (employees.update employeeId f) := by
  rintro orgId ⟨id, row, hrow, hadmin⟩
  by_cases hid : id = employeeId
  · refine ⟨id, f row, ?_, ?_⟩
    · rw [Table.lookup_update, if_pos hid, ← hid, hrow]
      rfl
    · exact ⟨(horg row).trans hadmin.1, (hrole row).trans hadmin.2.1,
        (hdisabled row).trans hadmin.2.2⟩
  · refine ⟨id, row, ?_, hadmin⟩
    rw [Table.lookup_update, if_neg hid, hrow]

lemma account_keeps {clearance : ℤ} {grants : List (String × BusinessGrant)}
    (h : configureAccount tables context employeeId clearance grants = .ok tables') :
    KeepsAdmin tables.employees tables'.employees := by
  unfold configureAccount at h
  split at h
  · cases h
  split at h
  · cases h
  split at h
  · cases h
  obtain ⟨granted, hgranted, h⟩ := bind_ok.mp h
  obtain rfl := Fallible.pure_ok.mp h
  rw [← grants_employees hgranted]
  exact .update (fun _ => rfl) (fun _ => rfl) fun _ => rfl

lemma role_keeps {role : String}
    (h : configureAccountRole tables context employeeId role expired = .ok tables') :
    KeepsAdmin tables.employees tables'.employees := by
  unfold configureAccountRole at h
  split at h
  · cases h
  rename_i role' _
  split at h
  · cases h
  rename_i before hbefore
  split at h
  · cases h
  rename_i hcounted
  split at h
  · cases h
  cases h
  obtain ⟨hfound, horg⟩ := Option.filter_eq_some_iff.mp hbefore
  have horg : before.orgId = context.orgId := of_decide_eq_true horg
  have hother : ∀ {id : String} {row : Employee}, id ≠ employeeId →
      tables.employees.lookup id = some row → (tables.employees.update employeeId fun row =>
        { row with role := role' }).lookup id = some row := by
    intro id row hid hrow
    rw [Table.lookup_update, if_neg hid, hrow]
  rintro orgId ⟨id, row, hrow, hadmin⟩
  by_cases hid : id = employeeId
  swap
  · exact ⟨id, row, hother hid hrow, hadmin⟩
  subst hid
  obtain rfl : before = row := Option.some.inj (hfound.symm.trans hrow)
  have hwritten : (tables.employees.update id fun row => { row with role := role' }).lookup id =
      some { before with role := role' } := by
    rw [Table.lookup_update, if_pos rfl, hrow]
    rfl
  cases role' with
  | admin => exact ⟨id, _, hwritten, hadmin.1, rfl, hadmin.2.2⟩
  | employee =>
    -- another administrator was found
    have hothers : (tables.employees.findMany fun id' row => row.orgId = context.orgId &&
        row.role = .admin && !row.disabled && id' ≠ id) ≠ [] := by
      intro hnone
      refine hcounted ?_
      rw [hnone, hadmin.2.1, hadmin.2.2]
      rfl
    obtain ⟨⟨id', row'⟩, hmem⟩ := List.exists_mem_of_ne_nil _ hothers
    obtain ⟨hrow', hmeets⟩ := Table.mem_findMany.mp hmem
    simp only [Bool.and_eq_true, decide_eq_true_eq, Bool.not_eq_true'] at hmeets
    exact ⟨id', row', hother hmeets.2 hrow', hmeets.1.1.1.trans (horg.symm.trans hadmin.1),
      hmeets.1.1.2, hmeets.1.2⟩

/-- **No change of the authorization takes the last administrator away.** -/
lemma mutation_keeps {version : ℕ} {mutation : Mutation}
    (h : mutation.operation nfc s context operator version expired = .ok s') :
    KeepsAdmin s.tables.employees s'.tables.employees := by
  have hconfigure : ∀ {tables}, mutation.configure nfc s.tables context expired = .ok tables →
      KeepsAdmin s.tables.employees tables.employees := by
    intro tables h
    by_cases hrole : ∃ employeeId role, mutation = .configureAccountRole employeeId role
    · obtain ⟨employeeId, role, rfl⟩ := hrole
      exact role_keeps h
    by_cases haccount : ∃ employeeId clearance grants,
        mutation = .configureAccount employeeId clearance grants
    · obtain ⟨employeeId, clearance, grants, rfl⟩ := haccount
      exact account_keeps h
    push Not at hrole haccount
    exact .of_eq (configure_employees hrole haccount h)
  cases mutation with
  | activateAuthorizationCutover confirm ready =>
    unfold Mutation.operation activateAuthorizationCutover at h
    dsimp only at h
    split at h
    · cases h
    split at h
    · cases h
    split at h
    · cases h
    split at h
    · cases h
    split at h
    · cases h
    split at h <;> cases h
    exact .of_eq rfl
  | suspendAuthorizationReads confirm =>
    unfold Mutation.operation suspendAuthorizationReads at h
    dsimp only at h
    split at h
    · cases h
    split at h
    · cases h
    split at h <;> cases h
    exact .of_eq rfl
  | putStore input => exact .of_eq (store_employees h)
  | _ =>
    obtain ⟨tables, htables, h⟩ := bind_ok.mp h
    obtain rfl := Fallible.pure_ok.mp h
    exact hconfigure htables

end

/-! ### Steps -/

section

variable {nfc : String → String} {s s' : AccountStore}

lemma mutate_keeps (nfc : String → String) (s : AccountStore) (call : MutateCall) :
    KeepsAdmin s.auth.employees (mutate nfc s call).auth.employees := by
  unfold mutate
  split
  · exact .of_eq rfl
  split
  · rename_i authorization hattempt
    unfold attempt at hattempt
    obtain ⟨expected, -, h⟩ := Option.map_eq_some_iff.mp hattempt
    unfold MutateCall.transaction at h
    split at h
    · cases h
    obtain ⟨advanced, hadvance, h⟩ := bind_ok.mp h
    obtain ⟨-, -, -, htables, -⟩ := advanceVersion_ok hadvance
    split at h
    · cases h
    obtain ⟨changed, hchanged, h⟩ := bind_ok.mp h
    split at h
    · cases h
    have hkeeps := mutation_keeps hchanged
    rw [htables, ← audit_employees h] at hkeeps
    exact hkeeps
  · exact .of_eq rfl

lemma onboard_keeps {call : OnboardCall} (h : onboard s call = .ok s') :
    KeepsAdmin s.auth.employees s'.auth.employees := by
  unfold onboard at h
  split at h
  · cases h
  split at h
  · cases h
  obtain ⟨⟨ids, auth⟩, honboard, h⟩ := bind_ok.mp h
  dsimp only at h
  split at h
  · cases h
  rename_i tables hgrants
  obtain rfl := Fallible.pure_ok.mp h
  obtain ⟨employees, identities, grants, hcreate, -, -, rfl⟩ := AuthStore.onboard_ok honboard
  rintro orgId ⟨id, row, hrow, hadmin⟩
  have hnew : id ≠ call.employeeId := by
    rintro rfl
    cases (Table.create_fresh hcreate).symm.trans hrow
  exact ⟨id, row, (Table.lookup_create hcreate id).trans ((if_neg hnew).trans hrow), hadmin⟩

/-- The deletion of a test account spares the last administrator. -/
def SparesLastAdmin (s : AccountStore) : AccountStep → Prop
  | .deleteTestAccount call =>
    ∀ identity, accountOf s call.normalizedEmail = some identity →
      !call.uploads && !call.referenced && !refersTo s.authorization identity.employeeId →
      ∀ row, s.auth.employees.lookup identity.employeeId = some row →
        row.role = .admin → row.disabled = false →
        ∃ id row', id ≠ identity.employeeId ∧ s.auth.employees.lookup id = some row' ∧
          Employee.Administers row' row.orgId
  | _ => True

lemma delete_keeps_iff {row : Employee} (hrow : employees.lookup employeeId = some row) :
    KeepsAdmin employees (employees.deleteMany fun id _ => id = employeeId) ↔
      (row.role = .admin → row.disabled = false → ∃ id row', id ≠ employeeId ∧
        employees.lookup id = some row' ∧ Employee.Administers row' row.orgId) := by
  have hleft : ∀ {id : String} {row : Employee},
      (employees.deleteMany fun id _ => id = employeeId).lookup id = some row ↔
        id ≠ employeeId ∧ employees.lookup id = some row := by
    intro id row
    rw [Table.lookup_deleteMany, Option.filter_eq_some_iff, and_comm]
    simp
  constructor
  · intro hkeeps hadmin henabled
    obtain ⟨id, row', hrow', hother⟩ :=
      hkeeps row.orgId ⟨employeeId, row, hrow, rfl, hadmin, henabled⟩
    exact ⟨id, row', (hleft.mp hrow').1, (hleft.mp hrow').2, hother⟩
  · rintro hspares orgId ⟨id, row', hrow', hadmin⟩
    by_cases hid : id = employeeId
    · subst hid
      obtain rfl : row = row' := Option.some.inj (hrow.symm.trans hrow')
      obtain ⟨other, row'', hne, hother, hadmin'⟩ := hspares hadmin.2.1 hadmin.2.2
      exact ⟨other, row'', hleft.mpr ⟨hne, hother⟩, hadmin.1 ▸ hadmin'⟩
    · exact ⟨id, row', hleft.mpr ⟨hid, hrow'⟩, hadmin⟩

/-- **A step keeps the administrators if and only if** it does not delete the last one. -/
lemma keepsAdmin_step (nfc : String → String) (s : AccountStore) (op : AccountStep) :
    KeepsAdmin s.auth.employees (step nfc s op).auth.employees ↔ SparesLastAdmin s op := by
  cases op with
  | mutate call => exact iff_of_true (mutate_keeps nfc s call) trivial
  | onboard call =>
    refine iff_of_true ?_ trivial
    change KeepsAdmin s.auth.employees (Runs.commit s (onboard s call)).auth.employees
    cases honboard : onboard s call with
    | error e => exact .of_eq rfl
    | ok s' => exact onboard_keeps honboard
  | deleteTestAccount call =>
    change KeepsAdmin s.auth.employees
      (Runs.commit s (deleteTestAccount s call)).auth.employees ↔ _
    unfold SparesLastAdmin deleteTestAccount
    cases haccount : accountOf s call.normalizedEmail with
    | none =>
      refine iff_of_true (.of_eq rfl) fun identity h => ?_
      rw [haccount] at h
      cases h
    | some identity =>
      dsimp only
      by_cases huploads : call.uploads = true
      · rw [if_pos huploads]
        refine iff_of_true (.of_eq rfl) fun identity' _ hfree => ?_
        simp [huploads] at hfree
      by_cases hrefers : (call.referenced || refersTo s.authorization identity.employeeId) = true
      · rw [if_neg huploads, if_pos hrefers]
        refine iff_of_true (.of_eq rfl) fun identity' hidentity hfree => ?_
        obtain rfl := Option.some.inj (haccount.symm.trans hidentity)
        simp only [Bool.and_eq_true, Bool.not_eq_true'] at hfree
        rw [hfree.1.2, hfree.2] at hrefers
        cases hrefers
      rw [if_neg huploads, if_neg hrefers]
      by_cases hfound : identity.employeeId ∉ s.auth.employees
      · rw [if_pos hfound]
        refine iff_of_true (.of_eq rfl) fun identity' hidentity _ row hrow => ?_
        obtain rfl := Option.some.inj (haccount.symm.trans hidentity)
        exact absurd (AList.lookup_isSome.mp (hrow ▸ rfl)) hfound
      rw [if_neg hfound]
      obtain ⟨row, hrow⟩ :=
        Option.isSome_iff_exists.mp (AList.lookup_isSome.mpr (not_not.mp hfound))
      refine (delete_keeps_iff hrow).trans
        ⟨fun h identity' hidentity _ row' hrow' => ?_, fun h => ?_⟩
      · obtain rfl := Option.some.inj (haccount.symm.trans hidentity)
        obtain rfl : row = row' := Option.some.inj (hrow.symm.trans hrow')
        exact h
      · refine h identity haccount ?_ row hrow
        rw [Bool.or_eq_true, not_or, Bool.not_eq_true, Bool.not_eq_true] at hrefers
        simp [huploads, hrefers.1, hrefers.2]

/-- **The last administrator stays** in a run whose deletions spare it, whatever else changes the
accounts. -/
theorem administered_run {nfc : String → String} {s : AccountStore} {ops : List AccountStep}
    (hspares : Runs.Along (step nfc) SparesLastAdmin s ops) :
    KeepsAdmin s.auth.employees (Runs.run (step nfc) s ops).auth.employees := by
  have hstep : ∀ s' op, SparesLastAdmin s' op → KeepsAdmin s.auth.employees s'.auth.employees →
      KeepsAdmin s.auth.employees (step nfc s' op).auth.employees :=
    fun s' op hop hkeeps orgId h => (keepsAdmin_step nfc s' op).mpr hop orgId (hkeeps orgId h)
  exact Runs.run_invariant hstep hspares (.of_eq rfl)

/-! ### The only account -/

/-- An organization whose only account is an administrator that was made for a test. -/
def testAdministrator : AccountStore :=
  Runs.run (step id)
    { auth := { organizations := (∅ : Table String String).insert "org" "Acceptance" } }
    [.onboard
      { input := { orgId := "org", normalizedEmail := "manual-acceptance-1@example.invalid"
                   displayName := "Acceptance", role := .admin, clearance := 3
                   grantTokenHash := "hash", grantExpiresAt := 10, now := 0 }
        initialGrants := [], employeeId := "e1", identityId := "i1", newId := id }]

/-- The command line deletes the account of the test. -/
def testDeletion : AccountStep :=
  .deleteTestAccount
    { normalizedEmail := "manual-acceptance-1@example.invalid", uploads := false
      referenced := false }

/-- **The organization is left without an administrator.** -/
theorem administrator_deleted : ¬ ∀ (nfc : String → String) (s : AccountStore)
    (ops : List AccountStep),
    KeepsAdmin s.auth.employees (Runs.run (step nfc) s ops).auth.employees := by
  intro h
  have hadmin : testAdministrator.auth.employees.lookup "e1" = some
      { orgId := "org", email := "manual-acceptance-1@example.invalid"
        displayName := "Acceptance", role := .admin, clearance := 3 } := by decide +kernel
  have hnone : (Runs.run (step id) testAdministrator [testDeletion]).auth.employees.keys = [] := by
    decide +kernel
  obtain ⟨employeeId, row, hrow, -⟩ := h id testAdministrator [testDeletion] "org"
    ⟨"e1", _, hadmin, rfl, rfl, rfl⟩
  have hmem : employeeId ∈ (Runs.run (step id) testAdministrator [testDeletion]).auth.employees :=
    AList.lookup_isSome.mp (Option.isSome_iff_exists.mpr ⟨row, hrow⟩)
  have hkeys := AList.mem_keys.mp hmem
  rw [hnone] at hkeys
  cases hkeys

/-- The first account is an administrator, and the second one too: the first one may go. -/
theorem administered_after_deletion :
    KeepsAdmin testAdministrator.auth.employees
      (Runs.run (step id) testAdministrator
        [.onboard
          { input := { orgId := "org", normalizedEmail := "owner@example.com"
                       displayName := "Owner", role := .admin, clearance := 3
                       grantTokenHash := "hash2", grantExpiresAt := 10, now := 0 }
            initialGrants := [], employeeId := "e2", identityId := "i2", newId := id },
          testDeletion]).auth.employees := by
  refine administered_run ⟨trivial, ?_, trivial⟩
  intro identity hidentity _ row hrow _ _
  set s := step id testAdministrator _ with hs
  have haccount : (accountOf s "manual-acceptance-1@example.invalid").map (·.employeeId) =
      some "e1" := by decide +kernel
  have hfirst : s.auth.employees.lookup "e1" = some
      { orgId := "org", email := "manual-acceptance-1@example.invalid"
        displayName := "Acceptance", role := .admin, clearance := 3 } := by decide +kernel
  have hsecond : s.auth.employees.lookup "e2" = some
      { orgId := "org", email := "owner@example.com", displayName := "Owner"
        role := .admin, clearance := 3 } := by decide +kernel
  have hid : identity.employeeId = "e1" := by
    have hmapped := congrArg (Option.map (·.employeeId)) hidentity
    exact Option.some.inj (hmapped.symm.trans haccount)
  rw [hid] at hrow ⊢
  obtain rfl := Option.some.inj (hfirst.symm.trans hrow)
  exact ⟨"e2", _, by decide, hsecond, rfl, rfl, rfl⟩

end

end Accounts
end SmeDataCenter
