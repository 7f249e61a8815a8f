import Mathlib.Data.List.Infix
import SmeDataCenter.AuthorizationMutations
import SmeDataCenter.Runs

/-!
# The versions of an authorization

Mutations of any kind come in any order, between the publications that move the version on too.
The transaction of a mutation is one step. When it was rolled back, the account and the state are
read, and the refusal is written, each in a step of its own, with others between them. What a step
does to versions and audits is said once for all mutations, and the versions and the audits of a
run follow from it.
-/

namespace SmeDataCenter
namespace AuthorizationWrites

/-! ### The system -/

/-- How far a call is. -/
inductive CallPhase where
  | succeeded
  /-- Its transaction was rolled back. -/
  | failed (error : AuthorizationError)
  | actorRead (error : AuthorizationError) (found : Bool)
  | stateRead (error : AuthorizationError) (found : Bool) (version : Option ℕ)
  /-- The error is thrown. -/
  | refused

structure System where
  store : AuthorizationStore := {}
  calls : Table ℕ (MutateCall × CallPhase) := ∅

inductive Step where
  /-- A call starts, with its transaction. -/
  | mutate (id : ℕ) (call : MutateCall)
  /-- A call whose transaction was rolled back does what comes next. -/
  | advance (id : ℕ)
  /-- A publication locks the authorization, perhaps more than once, and writes other tables. -/
  | publication (orgId : String) (again : ℕ) (tables : AuthorizationTables)
  /-- Something else writes other tables. -/
  | elsewhere (tables : AuthorizationTables)

section

variable (nfc : String → String)

/-- What the transaction of a call comes to; a version that is no number has none. -/
def attempt (s : AuthorizationStore) (call : MutateCall) :
    Option (Except AuthorizationError AuthorizationStore) :=
  (parseVersion call.context.expectedVersion).map (call.transaction nfc s)

/-- `mutate`, up to the end of its transaction. -/
def System.mutate (s : System) (id : ℕ) (call : MutateCall) : System :=
  if !call.offered || id ∈ s.calls then s
  else match attempt nfc s.store call with
    | none => { s with calls := s.calls.insert id (call, .refused) }
    | some (.error error) => { s with calls := s.calls.insert id (call, .failed error) }
    | some (.ok store) => { store, calls := s.calls.insert id (call, .succeeded) }

/-- A call was refused: the audit says so, if the account and the state were found. -/
def recordDenial (s : AuthorizationStore) (call : MutateCall) (error : AuthorizationError) :
    Bool → Option ℕ → AuthorizationStore
  | true, some version =>
    if (s.tables.employee call.context.orgId call.context.actorId).isNone then s
    else Runs.commit s (writeAudit s call.operator (call.deniedAudit error version))
  | _, _ => s

/-- The rest of `mutate`, after its transaction was rolled back. -/
def System.advance (s : System) (id : ℕ) : System :=
  match s.calls.lookup id with
  | some (call, .failed error) =>
    let found := (s.store.tables.employee call.context.orgId call.context.actorId).isSome
    { s with calls := s.calls.insert id (call, .actorRead error found) }
  | some (call, .actorRead error found) =>
    let version := (s.store.states.lookup call.context.orgId).map (·.version)
    { s with calls := s.calls.insert id (call, .stateRead error found version) }
  | some (call, .stateRead error found version) =>
    { store := recordDenial s.store call error found version
      calls := s.calls.insert id (call, .refused) }
  | _ => s

/-- `lockAuthorizationPublication`. -/
def lockAuthorizationPublication (s : AuthorizationStore) (orgId : String) : AuthorizationStore :=
  { s with
    states := match s.states.lookup orgId with
      | none => s.states.insert orgId { version := 1 }
      | some row => s.states.insert orgId { row with version := row.version + 1 } }

/-- The locks of a publication. -/
def lockAgain (orgId : String) : ℕ → AuthorizationStore → AuthorizationStore
  | 0, s => lockAuthorizationPublication s orgId
  | n + 1, s => lockAgain orgId n (lockAuthorizationPublication s orgId)

def step (s : System) : Step → System
  | .mutate id call => s.mutate nfc id call
  | .advance id => s.advance id
  | .publication orgId again tables =>
    { s with store := { lockAgain orgId again s.store with tables } }
  | .elsewhere tables => { s with store := { s.store with tables } }

/-! ### What a run produces -/

/-- The transaction of the call commits. -/
def accepted (s : System) (id : ℕ) (call : MutateCall) : Bool :=
  call.offered && id ∉ s.calls && (attempt nfc s.store call).any (·.isOk)

/-- The version that a writer of the organization leaves. -/
def producedBy (orgId : String) (s : System) : Step → Option ℕ
  | .mutate id call => if call.context.orgId = orgId && accepted nfc s id call then
      some ((step nfc s (.mutate id call)).store.version orgId) else none
  | .publication org again tables => if org = orgId then
      some ((step nfc s (.publication org again tables)).store.version orgId) else none
  | _ => none

/-- The versions that the writers of an organization leave, in order. -/
def produced (orgId : String) : System → List Step → List ℕ
  | _, [] => []
  | s, op :: ops => (producedBy nfc orgId s op).toList ++ produced orgId (step nfc s op) ops

/-- The step is one of the call. -/
def Step.ofCall (id : ℕ) : Step → Bool
  | .mutate id' _ | .advance id' => id' = id
  | _ => false

/-- The audits that a step adds. -/
def added (s : System) (op : Step) : List BusinessAuthorizationAudit :=
  (step nfc s op).store.audits.drop s.store.audits.length

/-- The audits that the steps of a call add. -/
def auditsOf (id : ℕ) : System → List Step → List BusinessAuthorizationAudit
  | _, [] => []
  | s, op :: ops => (if op.ofCall id then added nfc s op else []) ++
      auditsOf id (step nfc s op) ops

/-- How many of them are denials. -/
def denials (id : ℕ) (s : System) (ops : List Step) : ℕ :=
  (auditsOf nfc id s ops).countP fun audit => audit.outcome = .denied

/-- Nothing that is configured changes. -/
structure Unchanged (s s' : AuthorizationStore) : Prop where
  tables : { s'.tables with logs := [] } = { s.tables with logs := [] }
  states : s'.states = s.states

/-- A call moves the version of its organization on by one, from the expected one, and its audit
is the only one of its action. -/
structure Succeeds (s s' : AuthorizationStore) (call : MutateCall) (expected : ℕ) : Prop where
  parsed : parseVersion call.context.expectedVersion = some expected
  before : s.version call.context.orgId = expected
  after : s'.version call.context.orgId = expected + 1
  others : ∀ orgId, orgId ≠ call.context.orgId → s'.version orgId = s.version orgId
  audited : ∃ audits, s'.audits = s.audits ++ audits ∧
    (audits.filter fun audit => audit.action = call.action) =
      [{ call.succeededAudit (expected + 1) with action := call.action }] ∧
    ∀ audit ∈ audits, audit.outcome = .succeeded

/-- Its refusal can be written: its version is a number, and its target fits the column. -/
def MutateCall.recordable (call : MutateCall) : Bool :=
  (parseVersion call.context.expectedVersion).isSome && call.targetId.length ≤ 255

/-- The account belongs to the organization, which has a state. -/
def present (s : AuthorizationStore) (call : MutateCall) : Bool :=
  (s.tables.employee call.context.orgId call.context.actorId).isSome &&
    (s.states.lookup call.context.orgId).isSome

end

/-! ### One operation -/

section

variable {nfc : String → String} {context : AuthorizationWriteContext}
  {operator : Option PermissionOperatorAudit} {version : ℕ} {expired : Bool}
  {s s' : AuthorizationStore}

/-- An operation moves no version, and its audits are of other actions. -/
structure Within (s s' : AuthorizationStore) (action : String) : Prop where
  versions : ∀ orgId, s'.version orgId = s.version orgId
  audited : ∃ audits, s'.audits = s.audits ++ audits ∧
    ∀ audit ∈ audits, audit.outcome = .succeeded ∧ audit.action ≠ action

variable {action : String}

lemma Within.of_tables (tables : AuthorizationTables) : Within s { s with tables } action :=
  ⟨fun _ => rfl, [], (List.append_nil _).symm, nofun⟩

lemma version_update (states : Table String AuthorizationState) (orgId org : String)
    (f : AuthorizationState → AuthorizationState) (hf : ∀ row, (f row).version = row.version) :
    ({ s with states := states.update orgId f } : AuthorizationStore).version org =
      ({ s with states } : AuthorizationStore).version org := by
  unfold AuthorizationStore.version
  rw [Table.lookup_update]
  split_ifs with h
  · subst h
    rw [Option.map_map]
    exact congrArg (fun o => Option.getD o 0) (Option.map_congr fun row _ => hf row)
  · rfl

lemma Within.of_mode {action : String} (mode : AuthorizationMode) :
    Within s { s with
      states := s.states.update context.orgId fun row => { row with mode } } action :=
  ⟨fun _ => version_update s.states _ _ _ fun _ => rfl, [], (List.append_nil _).symm, nofun⟩

lemma writeAudit_ok {data : BusinessAuthorizationAudit}
    (h : writeAudit s operator data = .ok s') :
    s'.audits = s.audits ++ [{ data with action := auditAction operator data.action }] ∧
      s'.states = s.states ∧
      { s'.tables with logs := [] } = { s.tables with logs := [] } := by
  unfold writeAudit at h
  dsimp only at h
  split at h
  · cases h
  cases h
  refine ⟨rfl, rfl, ?_⟩
  cases operator <;> rfl

lemma auditAction_ne {a b : String} (h : a ≠ b) (h' : "operator." ++ a ≠ "operator." ++ b) :
    auditAction operator a ≠ auditAction operator b := by
  unfold auditAction
  split_ifs
  · exact h'
  · exact h

lemma within_putStore {input : StoreWrite}
    (h : putStore nfc s context operator version input = .ok s') :
    Within s s' (auditAction operator "store.configure") := by
  unfold putStore at h
  split at h
  · cases h
  obtain ⟨⟨tables, enterpriseKey, saved⟩, -, h⟩ := Fallible.bind_ok.mp h
  dsimp only at h
  obtain ⟨t, ht, h⟩ := Fallible.bind_ok.mp h
  cases h
  unfold declareSaved at ht
  cases saved with
  | false =>
    cases ht
    exact .of_tables _
  | true =>
    obtain ⟨haudits, hstates, -⟩ := writeAudit_ok ht
    refine ⟨fun orgId => ?_, _, haudits, fun audit haudit => ?_⟩
    · unfold AuthorizationStore.version
      rw [hstates]
    · obtain rfl := List.mem_singleton.mp haudit
      exact ⟨rfl, auditAction_ne (a := "enterprise.identity.declare") (by decide) (by decide)⟩

lemma within_activate {confirm : Bool} {ready : Option Bool}
    (h : activateAuthorizationCutover s context confirm ready expired = .ok s') :
    Within s s' action := by
  unfold activateAuthorizationCutover at h
  split at h
  · cases h
  split at h
  · cases h
  split at h
  · cases h
  split at h
  · cases h
  split at h
  · cases h
  split at h
  · cases h
  cases h
  exact .of_mode .enabled

lemma within_suspend {confirm : Bool} (h : suspendAuthorizationReads s context confirm = .ok s') :
    Within s s' action := by
  unfold suspendAuthorizationReads at h
  split at h
  · cases h
  split at h
  · cases h
  split at h
  · cases h
  cases h
  exact .of_mode .suspended

/-- **What an operation does**, whichever it is. -/
lemma Mutation.within {mutation : Mutation}
    (h : mutation.operation nfc s context operator version expired = .ok s') :
    Within s s' (auditAction operator mutation.action) := by
  cases mutation with
  | activateAuthorizationCutover confirm ready => exact within_activate h
  | suspendAuthorizationReads confirm => exact within_suspend h
  | putStore input => exact within_putStore h
  | _ =>
    obtain ⟨tables, -, h⟩ := Fallible.bind_ok.mp h
    cases h
    exact .of_tables _

end

/-! ### The transaction of a call -/

section

variable {nfc : String → String} {s s' : AuthorizationStore} {call : MutateCall} {orgId : String}

lemma advanceVersion_ok {expected : ℕ}
    (h : MutateCall.advanceVersion s orgId expected = .ok s') :
    s.version orgId = expected ∧ s'.version orgId = expected + 1 ∧
      (∀ org, org ≠ orgId → s'.version org = s.version org) ∧
      s'.tables = s.tables ∧ s'.audits = s.audits := by
  unfold MutateCall.advanceVersion at h
  dsimp only at h
  split at h
  · cases h
  rename_i row hrow
  cases h
  obtain ⟨hlookup, hversion⟩ := Option.filter_eq_some_iff.mp hrow
  have hversion : row.version = expected := of_decide_eq_true hversion
  have hafter : ∀ org, AuthorizationStore.version { s with
      states := Table.update (if expected = 0 && (s.states.lookup orgId).isNone then
        s.states.insert orgId {} else s.states) orgId fun row =>
          { row with version := row.version + 1 } } org =
      if org = orgId then expected + 1 else s.version org := by
    intro org
    unfold AuthorizationStore.version
    dsimp only
    rw [Table.lookup_update]
    by_cases horg : org = orgId
    · subst horg
      rw [if_pos rfl, if_pos rfl, hlookup, ← hversion]
      rfl
    · rw [if_neg horg, if_neg horg]
      split_ifs
      · rw [AList.lookup_insert_ne horg]
      · rfl
  refine ⟨?_, (hafter orgId).trans (if_pos rfl), fun org horg => (hafter org).trans (if_neg horg),
    rfl, rfl⟩
  unfold AuthorizationStore.version
  split_ifs at hlookup with hnone
  · rw [Bool.and_eq_true, decide_eq_true_eq, Option.isNone_iff_eq_none] at hnone
    rw [hnone.2, hnone.1]
    rfl
  · rw [hlookup, ← hversion]
    rfl

/-- **What a call does** when its transaction commits. -/
lemma succeeds_of_transaction {expected : ℕ}
    (hparsed : parseVersion call.context.expectedVersion = some expected)
    (h : call.transaction nfc s expected = .ok s') : Succeeds s s' call expected := by
  unfold MutateCall.transaction at h
  split at h
  · cases h
  obtain ⟨s₁, hadvance, h⟩ := Fallible.bind_ok.mp h
  obtain ⟨hbefore, hafter, hothers, -, haudits⟩ := advanceVersion_ok hadvance
  split at h
  · cases h
  obtain ⟨s₂, hoperation, h⟩ := Fallible.bind_ok.mp h
  obtain ⟨hversions, audits, haudited, hown⟩ := Mutation.within hoperation
  split at h
  · cases h
  obtain ⟨hwritten, hstates, -⟩ := writeAudit_ok h
  have hversion : ∀ org, s'.version org = s₁.version org := by
    intro org
    rw [← hversions org]
    unfold AuthorizationStore.version
    rw [hstates]
  refine ⟨hparsed, hbefore, (hversion _).trans hafter,
    fun org horg => (hversion org).trans (hothers org horg),
    audits ++ [{ call.succeededAudit (expected + 1) with action := call.action }], ?_, ?_, ?_⟩
  · rw [hwritten, haudited, haudits, List.append_assoc]
    rfl
  · rw [List.filter_append, List.filter_eq_nil_iff.mpr, List.nil_append]
    · exact List.filter_cons_of_pos (decide_eq_true rfl)
    · intro audit haudit hsame
      exact (hown audit haudit).2 (of_decide_eq_true hsame)
  · intro audit haudit
    rcases List.mem_append.mp haudit with hin | hlast
    · exact (hown audit hin).1
    · obtain rfl := List.mem_singleton.mp hlast
      rfl

end

/-! ### Steps -/

section

variable {nfc : String → String} {s : System} {id : ℕ} {call : MutateCall} {orgId : String}

lemma mutate_store (s : System) (id : ℕ) (call : MutateCall) :
    (accepted nfc s id call = true ∧
      ∃ expected, Succeeds s.store (s.mutate nfc id call).store call expected) ∨
    (accepted nfc s id call = false ∧ (s.mutate nfc id call).store = s.store) := by
  unfold System.mutate accepted
  by_cases hskip : (!call.offered || decide (id ∈ s.calls)) = true
  · refine .inr ⟨?_, by rw [if_pos hskip]⟩
    rw [Bool.and_eq_false_iff, Bool.and_eq_false_iff]
    rcases Bool.or_eq_true .. ▸ hskip with hoffered | htaken
    · exact .inl (.inl (by simpa using hoffered))
    · exact .inl (.inr (by simpa using htaken))
  · rw [if_neg hskip]
    rw [Bool.or_eq_true, not_or, Bool.not_eq_true, Bool.not_eq_false', decide_eq_true_eq] at hskip
    rw [hskip.1, decide_eq_true hskip.2, Bool.and_self, Bool.true_and]
    unfold attempt
    cases hparsed : parseVersion call.context.expectedVersion with
    | none => exact .inr ⟨rfl, rfl⟩
    | some expected =>
      cases htransaction : call.transaction nfc s.store expected with
      | error error => exact .inr ⟨by simp [htransaction, Except.isOk, Except.toBool],
          by simp [htransaction]⟩
      | ok store =>
        refine .inl ⟨by simp [htransaction, Except.isOk, Except.toBool], expected, ?_⟩
        simpa [htransaction] using succeeds_of_transaction hparsed htransaction

lemma recordDenial_unchanged (s : AuthorizationStore) (call : MutateCall)
    (error : AuthorizationError) (found : Bool) (version : Option ℕ) :
    Unchanged s (recordDenial s call error found version) ∧
      ∃ audits, (recordDenial s call error found version).audits = s.audits ++ audits ∧
        audits.length ≤ 1 := by
  have hsame : Unchanged s s ∧ ∃ audits, s.audits = s.audits ++ audits ∧ audits.length ≤ 1 :=
    ⟨⟨rfl, rfl⟩, [], (List.append_nil _).symm, Nat.zero_le 1⟩
  unfold recordDenial
  split
  · split
    · exact hsame
    · rename_i version _
      cases h : writeAudit s call.operator (call.deniedAudit error version) with
      | error error => exact hsame
      | ok s' =>
        obtain ⟨haudits, hstates, htables⟩ := writeAudit_ok h
        exact ⟨⟨htables, hstates⟩, _, haudits, le_rfl⟩
  · exact hsame

lemma advance_unchanged (s : System) (id : ℕ) :
    Unchanged s.store (s.advance id).store ∧
      ∃ audits, (s.advance id).store.audits = s.store.audits ++ audits ∧ audits.length ≤ 1 := by
  unfold System.advance
  split
  · exact ⟨⟨rfl, rfl⟩, [], (List.append_nil _).symm, Nat.zero_le 1⟩
  · exact ⟨⟨rfl, rfl⟩, [], (List.append_nil _).symm, Nat.zero_le 1⟩
  · exact recordDenial_unchanged ..
  · exact ⟨⟨rfl, rfl⟩, [], (List.append_nil _).symm, Nat.zero_le 1⟩

/-! ### Versions -/

lemma version_lock (s : AuthorizationStore) (orgId org : String) :
    (lockAuthorizationPublication s orgId).version org =
      if org = orgId then s.version orgId + 1 else s.version org := by
  unfold lockAuthorizationPublication AuthorizationStore.version
  cases hrow : s.states.lookup orgId with
  | none =>
    rw [Table.lookup_insert']
    split_ifs <;> rfl
  | some row =>
    rw [Table.lookup_insert']
    split_ifs <;> rfl

lemma version_lockAgain (orgId org : String) (again : ℕ) (s : AuthorizationStore) :
    (lockAgain orgId again s).version org =
      if org = orgId then s.version orgId + (again + 1) else s.version org := by
  induction again generalizing s with
  | zero => exact version_lock s orgId org
  | succ n ih =>
    rw [lockAgain, ih, version_lock, if_pos rfl, version_lock]
    split_ifs
    · omega
    · rfl

/-- **What a step does to versions**: none goes back, and a writer moves its own on. -/
lemma version_step (s : System) (op : Step) (orgId : String) :
    s.store.version orgId ≤ (step nfc s op).store.version orgId ∧
      ∀ v ∈ producedBy nfc orgId s op,
        s.store.version orgId < v ∧ (step nfc s op).store.version orgId = v := by
  cases op with
  | mutate id call =>
    rcases @mutate_store nfc s id call with ⟨-, expected, hs⟩ | ⟨hrefused, hstore⟩
    · have hmoved : s.store.version orgId ≤ (s.mutate nfc id call).store.version orgId := by
        by_cases horg : orgId = call.context.orgId
        · rw [horg, hs.before, hs.after]
          omega
        · rw [hs.others orgId horg]
      refine ⟨hmoved, fun v hv => ?_⟩
      simp only [producedBy, step] at hv
      split at hv
      · rename_i hown
        rw [Bool.and_eq_true, decide_eq_true_eq] at hown
        cases hv
        refine ⟨?_, rfl⟩
        rw [← hown.1, hs.before, hs.after]
        omega
      · cases hv
    · refine ⟨(congrArg (·.version orgId) hstore).ge, fun v hv => ?_⟩
      simp [producedBy, hrefused] at hv
  | advance id =>
    have hstates := (advance_unchanged s id).1.states
    refine ⟨?_, nofun⟩
    show s.store.version orgId ≤ (s.advance id).store.version orgId
    unfold AuthorizationStore.version
    rw [hstates]
  | publication org again tables =>
    have hversion : (step nfc s (.publication org again tables)).store.version orgId =
        if orgId = org then s.store.version org + (again + 1) else s.store.version orgId :=
      version_lockAgain org orgId again s.store
    constructor
    · rw [hversion]
      split_ifs with horg
      · subst horg
        omega
      · exact le_rfl
    · intro v hv
      simp only [producedBy] at hv
      split at hv
      · rename_i horg
        subst horg
        cases hv
        rw [hversion, if_pos rfl]
        omega
      · cases hv
  | elsewhere tables => exact ⟨le_rfl, nofun⟩

lemma produced_increasing (orgId : String) (s : System) (ops : List Step) :
    (∀ v ∈ produced nfc orgId s ops, s.store.version orgId < v) ∧
      (produced nfc orgId s ops).Pairwise (· < ·) := by
  induction ops generalizing s with
  | nil => exact ⟨nofun, .nil⟩
  | cons op ops ih =>
    obtain ⟨hmoved, hnew⟩ := @version_step nfc s op orgId
    obtain ⟨habove, hpairwise⟩ := ih (step nfc s op)
    unfold produced
    constructor
    · intro v hv
      rcases List.mem_append.mp hv with hfirst | hlater
      · exact (hnew v (Option.mem_toList.mp hfirst)).1
      · exact hmoved.trans_lt (habove v hlater)
    · refine List.pairwise_append.mpr ⟨?_, hpairwise, fun v hv w hw => ?_⟩
      · cases producedBy nfc orgId s op with
        | none => exact .nil
        | some v => exact List.pairwise_singleton _ v
      · rw [← (hnew v (Option.mem_toList.mp hv)).2]
        exact habove w hw

/-! ### Denials -/

/-- How many denials a call may still add. -/
def CallPhase.owes : CallPhase → ℕ
  | .succeeded | .refused => 0
  | .failed _ | .actorRead .. | .stateRead .. => 1

def System.owes (s : System) (id : ℕ) : ℕ :=
  match s.calls.lookup id with
  | none => 1
  | some (_, phase) => phase.owes

/-- The denials among audits. -/
def deniedIn (audits : List BusinessAuthorizationAudit) : ℕ :=
  audits.countP fun audit => audit.outcome = .denied

lemma added_eq {op : Step} {audits : List BusinessAuthorizationAudit}
    (h : (step nfc s op).store.audits = s.store.audits ++ audits) : added nfc s op = audits := by
  unfold added
  rw [h, List.drop_left]

lemma deniedIn_eq_zero {audits : List BusinessAuthorizationAudit}
    (h : ∀ audit ∈ audits, audit.outcome = .succeeded) : deniedIn audits = 0 := by
  refine List.countP_eq_zero.mpr fun audit haudit => ?_
  rw [h audit haudit]
  decide

lemma denied_mutate (s : System) (id : ℕ) (call : MutateCall) :
    deniedIn (added nfc s (.mutate id call)) = 0 := by
  rcases @mutate_store nfc s id call with ⟨-, expected, hs⟩ | ⟨-, hstore⟩
  · obtain ⟨audits, haudits, -, hsucceeded⟩ := hs.audited
    rw [@added_eq nfc s (.mutate id call) _ haudits]
    exact deniedIn_eq_zero hsucceeded
  · have hnone : (step nfc s (.mutate id call)).store.audits = s.store.audits ++ [] := by
      rw [List.append_nil]
      exact congrArg (·.audits) hstore
    rw [added_eq hnone]
    rfl

lemma owes_of_lookup {s s' : System} (h : s'.calls.lookup id = s.calls.lookup id) :
    s'.owes id = s.owes id := by
  unfold System.owes
  rw [h]

lemma owes_le_one (s : System) (id : ℕ) : s.owes id ≤ 1 := by
  unfold System.owes
  split
  · exact le_rfl
  · rename_i phase _
    cases phase <;> simp [CallPhase.owes]

lemma lookup_other {op : Step} (h : op.ofCall id = false) :
    (step nfc s op).calls.lookup id = s.calls.lookup id := by
  cases op with
  | mutate id' call =>
    have hne : id ≠ id' := fun heq => of_decide_eq_false h heq.symm
    simp only [step, System.mutate]
    split
    · rfl
    · split <;> exact AList.lookup_insert_ne hne
  | advance id' =>
    have hne : id ≠ id' := fun heq => of_decide_eq_false h heq.symm
    simp only [step, System.advance]
    split
    · exact AList.lookup_insert_ne hne
    · exact AList.lookup_insert_ne hne
    · exact AList.lookup_insert_ne hne
    · rfl
  | publication | elsewhere => rfl

lemma owes_of_phase {phase : CallPhase} (h : s.calls.lookup id = some (call, phase)) :
    s.owes id = phase.owes := by
  unfold System.owes
  rw [h]

lemma denied_advance (s : System) (id : ℕ) :
    deniedIn (added nfc s (.advance id)) + (s.advance id).owes id ≤ s.owes id := by
  have hkept : ∀ s' : System, step nfc s (.advance id) = s' → s'.store = s.store →
      deniedIn (added nfc s (.advance id)) = 0 := by
    rintro s' rfl hstore
    rw [@added_eq _ _ _ [] (by rw [hstore, List.append_nil])]
    rfl
  obtain ⟨-, audits, haudits, hone⟩ := advance_unchanged s id
  have hle : deniedIn (added nfc s (.advance id)) ≤ 1 := by
    rw [@added_eq _ _ (.advance id) _ haudits]
    exact List.countP_le_length.trans hone
  cases hcall : s.calls.lookup id with
  | none =>
    have hsame : s.advance id = s := by
      unfold System.advance
      rw [hcall]
    rw [hkept _ hsame rfl, hsame, Nat.zero_add]
  | some entry =>
    obtain ⟨call, phase⟩ := entry
    cases phase with
    | succeeded | refused =>
      have hsame : s.advance id = s := by
        unfold System.advance
        rw [hcall]
      rw [hkept _ hsame rfl, hsame, Nat.zero_add]
    | failed error =>
      have hstore : (s.advance id).store = s.store := by
        unfold System.advance
        rw [hcall]
      rw [hkept _ rfl hstore, owes_of_phase hcall, Nat.zero_add]
      exact owes_le_one _ id
    | actorRead error found =>
      have hstore : (s.advance id).store = s.store := by
        unfold System.advance
        rw [hcall]
      rw [hkept _ rfl hstore, owes_of_phase hcall, Nat.zero_add]
      exact owes_le_one _ id
    | stateRead error found version =>
      have hdone : (s.advance id).calls.lookup id = some (call, .refused) := by
        unfold System.advance
        rw [hcall]
        exact AList.lookup_insert _
      rw [owes_of_phase hcall, owes_of_phase hdone]
      exact hle

lemma owes_mutate (s : System) (id : ℕ) (call : MutateCall) :
    (s.mutate nfc id call).owes id ≤ s.owes id := by
  unfold System.mutate
  split
  · exact le_rfl
  · rename_i hskip
    rw [Bool.or_eq_true, not_or, decide_eq_true_eq] at hskip
    have hfree : s.owes id = 1 := by
      unfold System.owes
      rw [AList.lookup_eq_none.mpr hskip.2]
    rw [hfree]
    exact owes_le_one _ id

lemma denials_le (id : ℕ) (s : System) (ops : List Step) : denials nfc id s ops ≤ s.owes id := by
  induction ops generalizing s with
  | nil => exact Nat.zero_le _
  | cons op ops ih =>
    have hrest := ih (step nfc s op)
    unfold denials at hrest ⊢
    rw [auditsOf, List.countP_append]
    by_cases hown : op.ofCall id = true
    · rw [if_pos hown]
      cases op with
      | mutate id' call =>
        obtain rfl : id' = id := of_decide_eq_true hown
        have hnone : List.countP _ (added nfc s (.mutate id' call)) = 0 := denied_mutate s id' call
        have howes := @owes_mutate nfc s id' call
        simp only [step] at hrest hnone ⊢
        omega
      | advance id' =>
        obtain rfl : id' = id := of_decide_eq_true hown
        have hone := @denied_advance nfc s id'
        unfold deniedIn at hone
        simp only [step] at hrest ⊢
        omega
      | publication | elsewhere => cases hown
    · rw [if_neg hown]
      rw [owes_of_lookup (@lookup_other nfc _ _ _ (Bool.eq_false_iff.mpr hown))] at hrest
      simpa using hrest

/-! ### A refusal is written -/

/-- The refusal of the call is still to be written, and nothing was missing so far. -/
def CallPhase.pending : CallPhase → Bool
  | .failed _ | .actorRead _ true | .stateRead _ true (some _) => true
  | _ => false

lemma denials_cons (op : Step) (ops : List Step) :
    denials nfc id s (op :: ops) =
      (if op.ofCall id then deniedIn (added nfc s op) else 0) +
        denials nfc id (step nfc s op) ops := by
  unfold denials deniedIn
  rw [auditsOf, List.countP_append]
  split_ifs <;> rfl

lemma lookup_kept {phase : CallPhase} (h : s.calls.lookup id = some (call, phase)) (op : Step) :
    ∃ phase', (step nfc s op).calls.lookup id = some (call, phase') ∧
      (phase = .succeeded → phase' = .succeeded) := by
  by_cases hown : op.ofCall id = true
  · cases op with
    | mutate id' call' =>
      obtain rfl : id' = id := of_decide_eq_true hown
      have htaken : id' ∈ s.calls := by
        by_contra hfree
        rw [AList.lookup_eq_none.mpr hfree] at h
        cases h
      have hsame : s.mutate nfc id' call' = s := by
        unfold System.mutate
        rw [if_pos (by simp [htaken])]
      exact ⟨phase, by rw [step, hsame, h], fun h => h⟩
    | advance id' =>
      obtain rfl : id' = id := of_decide_eq_true hown
      simp only [step, System.advance, h]
      cases phase with
      | succeeded => exact ⟨_, h, fun h => h⟩
      | refused => exact ⟨_, h, fun h => h⟩
      | failed => exact ⟨_, AList.lookup_insert _, nofun⟩
      | actorRead => exact ⟨_, AList.lookup_insert _, nofun⟩
      | stateRead => exact ⟨_, AList.lookup_insert _, nofun⟩
    | publication | elsewhere => cases hown
  · exact ⟨phase, (lookup_other (Bool.eq_false_iff.mpr hown)).trans h, fun h => h⟩

lemma lookup_run {phase : CallPhase} (h : s.calls.lookup id = some (call, phase))
    (ops : List Step) :
    ∃ phase', (Runs.run (step nfc) s ops).calls.lookup id = some (call, phase') ∧
      (phase = .succeeded → phase' = .succeeded) := by
  induction ops generalizing s phase with
  | nil => exact ⟨phase, h, fun h => h⟩
  | cons op ops ih =>
    obtain ⟨phase₁, h₁, hkept₁⟩ := @lookup_kept nfc _ _ _ _ h op
    obtain ⟨phase₂, h₂, hkept₂⟩ := ih h₁
    exact ⟨phase₂, h₂, fun hs => hkept₂ (hkept₁ hs)⟩

lemma Mutation.action_length (mutation : Mutation) : mutation.action.length ≤ 30 := by
  cases mutation <;> simp only [Mutation.action] <;> decide

lemma action_fits (call : MutateCall) : call.action.length ≤ 64 := by
  have haction := call.mutation.action_length
  have hoperator : "operator.".length = 9 := rfl
  unfold MutateCall.action auditAction
  split_ifs
  · rw [String.length_append]
    omega
  · omega

lemma recordDenial_present {error : AuthorizationError} {version : ℕ} {s : AuthorizationStore}
    (hfits : call.targetId.length ≤ 255)
    (hactor : (s.tables.employee call.context.orgId call.context.actorId).isSome = true) :
    (recordDenial s call error true (some version)).audits =
      s.audits ++ [{ call.deniedAudit error version with action := call.action }] := by
  simp only [recordDenial]
  rw [if_neg (by simpa [Option.isSome_iff_ne_none] using hactor)]
  have hwritten : ({ call.deniedAudit error version with
      action := auditAction call.operator (call.deniedAudit error version).action } :
        BusinessAuthorizationAudit).fits = true := by
    have haction := action_fits call
    unfold BusinessAuthorizationAudit.fits
    rw [Bool.and_eq_true, decide_eq_true_eq, decide_eq_true_eq]
    exact ⟨haction, hfits⟩
  unfold writeAudit
  dsimp only
  rw [hwritten]
  rfl

lemma denials_of_pending {phase : CallPhase} {ops : List Step}
    (hphase : s.calls.lookup id = some (call, phase)) (hpending : phase.pending = true)
    (hfits : call.targetId.length ≤ 255)
    (hpresent : ∀ before after, ops = before ++ after →
      present (Runs.run (step nfc) s before).store call = true)
    (hover : (Runs.run (step nfc) s ops).calls.lookup id = some (call, .refused)) :
    denials nfc id s ops = 1 := by
  induction ops generalizing s phase with
  | nil =>
    obtain rfl : phase = .refused := (Prod.mk.inj (Option.some.inj (hphase.symm.trans hover))).2
    cases hpending
  | cons op ops ih =>
    have hlater : ∀ before after, ops = before ++ after →
        present (Runs.run (step nfc) (step nfc s op) before).store call = true :=
      fun before after heq => hpresent (op :: before) after (by rw [heq]; rfl)
    have hnow := hpresent [] (op :: ops) rfl
    rw [Runs.run_nil, present, Bool.and_eq_true] at hnow
    rw [denials_cons]
    by_cases hown : op.ofCall id = true
    · rw [if_pos hown]
      cases op with
      | mutate id' call' =>
        obtain rfl : id' = id := of_decide_eq_true hown
        have hsame : s.mutate nfc id' call' = s := by
          unfold System.mutate
          rw [if_pos]
          rw [Bool.or_eq_true, decide_eq_true_eq]
          refine .inr ?_
          by_contra hfree
          rw [AList.lookup_eq_none.mpr hfree] at hphase
          cases hphase
        rw [denied_mutate, Nat.zero_add]
        refine @ih _ phase ?_ hpending hlater hover
        rw [step, hsame, hphase]
      | advance id' =>
        obtain rfl : id' = id := of_decide_eq_true hown
        cases phase with
        | succeeded | refused => cases hpending
        | failed error =>
          have hstep : step nfc s (.advance id') = { s with
              calls := s.calls.insert id' (call, .actorRead error true) } := by
            simp only [step, System.advance, hphase, hnow.1]
          rw [@added_eq _ _ _ [] (by rw [hstep, List.append_nil])]
          refine (Nat.zero_add _).trans (@ih _ (.actorRead error true) ?_ rfl hlater hover)
          rw [hstep]
          exact AList.lookup_insert _
        | actorRead error found =>
          cases found with
          | false => cases hpending
          | true =>
            obtain ⟨row, hrow⟩ := Option.isSome_iff_exists.mp hnow.2
            have hstep : step nfc s (.advance id') = { s with
                calls := s.calls.insert id' (call, .stateRead error true (some row.version)) } := by
              simp only [step, System.advance, hphase, hrow, Option.map_some]
            rw [@added_eq _ _ _ [] (by rw [hstep, List.append_nil])]
            refine (Nat.zero_add _).trans
              (@ih _ (.stateRead error true (some row.version)) ?_ rfl hlater hover)
            rw [hstep]
            exact AList.lookup_insert _
        | stateRead error found version =>
          cases found with
          | false => cases hpending
          | true =>
            cases version with
            | none => cases hpending
            | some version =>
              have hstep : step nfc s (.advance id') =
                  { store := recordDenial s.store call error true (some version)
                    calls := s.calls.insert id' (call, .refused) } := by
                simp only [step, System.advance, hphase]
              have hdone : (step nfc s (.advance id')).calls.lookup id' = some (call, .refused) := by
                rw [hstep]
                exact AList.lookup_insert _
              have hrest := @denials_le nfc id' (step nfc s (.advance id')) ops
              rw [owes_of_phase hdone] at hrest
              rw [@added_eq _ _ (.advance id') _
                (by rw [hstep]; exact recordDenial_present hfits hnow.1), Nat.le_zero.mp hrest]
              rfl
      | publication | elsewhere => cases hown
    · rw [if_neg hown, Nat.zero_add]
      exact ih ((lookup_other (Bool.eq_false_iff.mpr hown)).trans hphase) hpending hlater hover

lemma denials_of_fresh {ops : List Step} (hfree : s.calls.lookup id = none)
    (hrecordable : call.recordable = true)
    (hpresent : ∀ before after, ops = before ++ after →
      id ∈ (Runs.run (step nfc) s before).calls →
        present (Runs.run (step nfc) s before).store call = true)
    (hover : (Runs.run (step nfc) s ops).calls.lookup id = some (call, .refused)) :
    denials nfc id s ops = 1 := by
  rw [MutateCall.recordable, Bool.and_eq_true, decide_eq_true_eq] at hrecordable
  induction ops generalizing s with
  | nil =>
    rw [Runs.run_nil, hfree] at hover
    cases hover
  | cons op ops ih =>
    have hlater : ∀ before after, ops = before ++ after →
        id ∈ (Runs.run (step nfc) (step nfc s op) before).calls →
          present (Runs.run (step nfc) (step nfc s op) before).store call = true :=
      fun before after heq => hpresent (op :: before) after (by rw [heq]; rfl)
    rw [denials_cons]
    by_cases hown : op.ofCall id = true
    · rw [if_pos hown]
      cases op with
      | mutate id' call' =>
        obtain rfl : id' = id := of_decide_eq_true hown
        rw [denied_mutate, Nat.zero_add]
        by_cases hskip : (!call'.offered || decide (id' ∈ s.calls)) = true
        · have hsame : s.mutate nfc id' call' = s := by
            unfold System.mutate
            rw [if_pos hskip]
          refine ih ?_ hlater hover
          rw [step, hsame, hfree]
        · have hstarted : ∃ phase, (step nfc s (.mutate id' call')).calls.lookup id' =
              some (call', phase) ∧ (phase = .refused → attempt nfc s.store call' = none) ∧
              (phase ≠ .refused → phase = .succeeded ∨ phase.pending = true) := by
            rw [step, System.mutate, if_neg hskip]
            cases hattempt : attempt nfc s.store call' with
            | none => exact ⟨_, AList.lookup_insert _, fun _ => rfl, fun h => absurd rfl h⟩
            | some result =>
              cases result with
              | error error => exact ⟨_, AList.lookup_insert _, nofun, fun _ => .inr rfl⟩
              | ok store => exact ⟨_, AList.lookup_insert _, nofun, fun _ => .inl rfl⟩
          obtain ⟨phase, hphase, hrefused, hgoes⟩ := hstarted
          obtain ⟨phase', hend, hsucceeded⟩ := @lookup_run nfc _ _ _ _ hphase ops
          obtain ⟨rfl, rfl⟩ := Prod.mk.inj (Option.some.inj (hend.symm.trans hover))
          have hnot : phase ≠ .refused := by
            intro heq
            have hnone := hrefused heq
            rw [attempt, Option.map_eq_none_iff] at hnone
            rw [hnone] at hrecordable
            cases hrecordable.1
          rcases hgoes hnot with heq | hpending
          · cases hsucceeded heq
          · refine denials_of_pending hphase hpending hrecordable.2
              (fun before after heq => hlater before after heq ?_) hover
            obtain ⟨phase'', hmid, -⟩ := @lookup_run nfc _ _ _ _ hphase before
            by_contra hmissing
            rw [AList.lookup_eq_none.mpr hmissing] at hmid
            cases hmid
      | advance id' =>
        obtain rfl : id' = id := of_decide_eq_true hown
        have hsame : step nfc s (.advance id') = s := by
          simp only [step, System.advance, hfree]
        rw [@added_eq _ _ _ [] (by rw [hsame, List.append_nil])]
        refine (Nat.zero_add _).trans (ih ?_ hlater hover)
        rw [hsame, hfree]
      | publication | elsewhere => cases hown
    · rw [if_neg hown, Nat.zero_add]
      exact ih ((lookup_other (Bool.eq_false_iff.mpr hown)).trans hfree) hlater hover

end

/-- **Changes of an authorization are serialized by their version**, in any order of mutations,
publications and the steps that follow a rollback. A mutation that commits moves the version of
its organization from the expected one to the next, and writes one audit of its action; no two
writers of an organization leave the same version. A mutation that does not commit, and what
follows, changes nothing that is configured; a call adds at most one denial, and exactly one when
it was refused with a version that is a number and a target that fits its column, while the account
belonged to the organization and there was a state. -/
theorem mutations_serialized (nfc : String → String) (store : AuthorizationStore)
    (ops : List Step) :
    let start : System := { store }
    (∀ before op after, ops = before ++ op :: after →
      let s := Runs.run (step nfc) start before
      match op with
      | .mutate id call =>
        if accepted nfc s id call then
          ∃ expected, Succeeds s.store (step nfc s op).store call expected
        else (step nfc s op).store = s.store
      | .advance _ => Unchanged s.store (step nfc s op).store
      | _ => True) ∧
    (∀ orgId, (produced nfc orgId start ops).Pairwise (· < ·)) ∧
    (∀ id, denials nfc id start ops ≤ 1) ∧
    ∀ id call, (Runs.run (step nfc) start ops).calls.lookup id = some (call, .refused) →
      call.recordable = true →
      (∀ before after, ops = before ++ after → id ∈ (Runs.run (step nfc) start before).calls →
        present (Runs.run (step nfc) start before).store call = true) →
      denials nfc id start ops = 1 := by
  intro start
  refine ⟨fun before op after _ => ?_, fun orgId => (produced_increasing orgId start ops).2,
    fun id => (denials_le id start ops).trans (owes_le_one start id),
    fun id call hover hrecordable hpresent =>
      denials_of_fresh (AList.lookup_empty id) hrecordable hpresent hover⟩
  intro s
  cases op with
  | mutate id call =>
    dsimp only
    rcases @mutate_store nfc s id call with ⟨haccepted, hs⟩ | ⟨hrefused, hstore⟩
    · rw [if_pos haccepted]
      exact hs
    · rw [hrefused, if_neg Bool.false_ne_true]
      exact hstore
  | advance id => exact (advance_unchanged s id).1
  | publication | elsewhere => trivial

/-- An organization with one administrator, and its state. -/
def adminStore : AuthorizationStore where
  tables := { employees := AList.singleton "admin" ⟨"org", "ann@example.com", "Ann", .admin, 3, false⟩ }
  states := AList.singleton "org" {}

/-- A dimension that is named with some version. -/
def dimensionCall (expectedVersion : String) : MutateCall where
  context := ⟨"org", "admin", expectedVersion⟩
  operator := none
  mutation := .defineDimension ⟨"region", "Region", none, false, false⟩
  expired := false
  late := false
  interrupted := false

/-- Two calls with one version; the second is refused. -/
def racingSteps : List Step :=
  [.mutate 0 (dimensionCall "0"), .mutate 1 (dimensionCall "0"), .advance 1, .advance 1, .advance 1]

theorem racing_call_denied : denials id 1 { store := adminStore } racingSteps = 1 := by
  have hpresent : ∀ before ∈ racingSteps.inits,
      present (Runs.run (step id) { store := adminStore } before).store (dimensionCall "0") =
        true := by decide
  refine (mutations_serialized id adminStore racingSteps).2.2.2 1 (dimensionCall "0") rfl (by decide)
    fun before after heq _ => hpresent before ?_
  exact (List.mem_inits _ _).mpr ⟨after, heq.symm⟩

/-- A call whose version is no number is refused, and nothing says so. -/
theorem malformed_version_not_recorded :
    let start : System := { store := adminStore }
    let ops : List Step := [.mutate 0 (dimensionCall "01")]
    (Runs.run (step id) start ops).calls.lookup 0 = some (dimensionCall "01", .refused) ∧
      (∀ before after, ops = before ++ after →
        present (Runs.run (step id) start before).store (dimensionCall "01") = true) ∧
      denials id 0 start ops = 0 := by
  refine ⟨rfl, fun before after heq => ?_, rfl⟩
  have hpresent : ∀ before ∈ [Step.mutate 0 (dimensionCall "01")].inits,
      present (Runs.run (step id) { store := adminStore } before).store (dimensionCall "01") =
        true := by decide
  exact hpresent before ((List.mem_inits _ _).mpr ⟨after, heq.symm⟩)

end AuthorizationWrites
end SmeDataCenter
