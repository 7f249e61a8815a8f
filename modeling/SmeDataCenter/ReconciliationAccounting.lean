import SmeDataCenter.ReconciliationPages

/-!
# The accounting of a reconciliation

What the executions of pages, side by side, do to the counts and the cursor of a reconciliation.
As long as none of its checkers has thrown, an execution has counted the keys it has taken, but
for those its checkers are at; when they are through it has counted the page. The checkpoints
that go through follow each other: each starts where the one before has ended.
-/

namespace SmeDataCenter
namespace Reconciliation

open Runs

variable {config : Option String} {hashes : RepairHashes}

/-! ### An execution -/

/-- What holds of an execution at every moment. -/
structure Execution.Sound (e : Execution) : Prop where
  balanced : e.counts.Balanced
  taken : e.taken ≤ (e.keys.getD []).length
  scanned : e.rejected = false →
    e.counts.scannedCount + e.checkers.countP Checker.isBusy = e.taken
  finished : e.rejected = false → ∀ c ∈ e.checkers, c.isFinished = true →
    e.taken = (e.keys.getD []).length
  checkers : e.checkers.length = min 4 (e.keys.getD []).length
  next : ∀ last, e.nextCursor = some last → isPast e.cursor last = true
  unfinished : e.phase ≠ .completed

namespace Execution

variable {e : Execution} {i : ℕ} {old new : Checker}

lemma busy_of_finished {c : Checker} (h : c.isFinished = true) : c.isBusy = false := by
  cases c with
  | finished => rfl
  | _ => cases h

lemma countP_setChecker (new : Checker) (hold : e.checkers[i]? = some old) :
    (e.checkers.set i new).countP Checker.isBusy + (if old.isBusy then 1 else 0) =
      e.checkers.countP Checker.isBusy + if new.isBusy then 1 else 0 := by
  obtain ⟨hi, hold⟩ := List.getElem?_eq_some_iff.mp hold
  have hmem : old ∈ e.checkers := hold ▸ List.getElem_mem hi
  rw [List.countP_set hi, hold]
  by_cases hb : old.isBusy = true
  · have hpos : 0 < e.checkers.countP Checker.isBusy := List.countP_pos_iff.mpr ⟨old, hmem, hb⟩
    simp only [hb, if_true]
    omega
  · simp only [hb]
    simp

lemma Sound.move (h : e.Sound) (hold : e.checkers[i]? = some old)
    (hbusy : old.isBusy = new.isBusy) (hnew : new.isFinished = false) :
    (e.setChecker i new).Sound := by
  have hcount := countP_setChecker new hold
  rw [hbusy] at hcount
  refine ⟨h.balanced, h.taken, fun hr => ?_, fun hr c hc hf => ?_, ?_, h.next, h.unfinished⟩
  · have := h.scanned hr
    dsimp only [setChecker]
    omega
  · rcases List.mem_or_eq_of_mem_set hc with hc | rfl
    · exact h.finished hr c hc hf
    · rw [hnew] at hf
      cases hf
  · dsimp only [setChecker]
    rw [List.length_set]
    exact h.checkers

lemma Sound.reject (h : e.Sound) : (e.reject i).Sound := by
  refine ⟨h.balanced, h.taken, fun hr => ?_, fun hr => ?_, ?_, h.next, h.unfinished⟩
  · cases hr
  · cases hr
  · dsimp only [Execution.reject, setChecker]
    rw [List.length_set]
    exact h.checkers

lemma Sound.count {counts : LedgerReconciliationCounters} (h : e.Sound)
    (hold : e.checkers[i]? = some old) (hbusy : old.isBusy = true)
    (hscanned : counts.scannedCount = e.counts.scannedCount + 1) (hbalanced : counts.Balanced) :
    ({ e.setChecker i .idle with counts } : Execution).Sound := by
  have hcount := countP_setChecker .idle hold
  rw [hbusy] at hcount
  refine ⟨hbalanced, h.taken, fun hr => ?_, fun hr c hc hf => ?_, ?_, h.next, h.unfinished⟩
  · have := h.scanned hr
    have hidle : Checker.idle.isBusy = false := rfl
    rw [hidle] at hcount
    dsimp only [setChecker]
    simp only [if_true, Bool.false_eq_true, if_false] at hcount
    omega
  · rcases List.mem_or_eq_of_mem_set hc with hc | rfl
    · exact h.finished hr c hc hf
    · cases hf
  · dsimp only [setChecker]
    rw [List.length_set]
    exact h.checkers

lemma Sound.settle (h : e.Sound) (hold : e.checkers[i]? = some old) (hbusy : old.isBusy = true)
    (check : LedgerCheck) (healthy submitted : Bool) :
    (e.settle i check healthy submitted).Sound := by
  refine h.count hold hbusy rfl ?_
  have hb := h.balanced
  unfold LedgerReconciliationCounters.Balanced at *
  dsimp only
  cases healthy <;> cases submitted <;>
    simp only [Bool.not_true, Bool.not_false, Bool.and_true, Bool.and_false, Bool.and_self,
      if_true, Bool.false_eq_true, if_false] <;> omega

lemma Sound.catchError (h : e.Sound) (hold : e.checkers[i]? = some old)
    (hbusy : old.isBusy = true) (key : LedgerPartitionKey) (attempt : ℕ) (code : String) :
    (e.catchError i key attempt code).Sound := by
  unfold Execution.catchError
  split_ifs
  · exact h.reject
  · exact h.move hold hbusy rfl
  · refine h.count hold hbusy rfl ?_
    have hb := h.balanced
    unfold LedgerReconciliationCounters.Balanced at *
    dsimp only
    omega

lemma Sound.take (h : e.Sound) (hold : e.checkers[i]? = some .idle) (aborted : Bool) :
    (e.take i aborted).Sound := by
  unfold Execution.take
  split
  · -- the page is used up
    rename_i hend
    have hlen := List.getElem?_eq_none_iff.mp hend
    have hcount := countP_setChecker .finished hold
    refine ⟨h.balanced, h.taken, fun hr => ?_, fun hr c hc hf => ?_, ?_, h.next, h.unfinished⟩
    · have := h.scanned hr
      have hsame : (e.checkers.set i .finished).countP Checker.isBusy =
          e.checkers.countP Checker.isBusy := hcount
      dsimp only [setChecker]
      rw [hsame]
      exact this
    · exact Nat.le_antisymm h.taken hlen
    · dsimp only [setChecker]
      rw [List.length_set]
      exact h.checkers
  · rename_i key hkey
    obtain ⟨hlt, -⟩ := List.getElem?_eq_some_iff.mp hkey
    split_ifs
    · exact h.reject
    have hcount := countP_setChecker (.observing key 0) hold
    refine ⟨h.balanced, hlt, fun hr => ?_, fun hr c hc hf => ?_, ?_, h.next, h.unfinished⟩
    · have := h.scanned hr
      have hone : (e.checkers.set i (.observing key 0)).countP Checker.isBusy =
          e.checkers.countP Checker.isBusy + 1 := hcount
      dsimp only [setChecker]
      omega
    · rcases List.mem_or_eq_of_mem_set hc with hc | rfl
      · have := h.finished hr c hc hf
        omega
      · cases hf
    · dsimp only [setChecker]
      rw [List.length_set]
      exact h.checkers

lemma Sound.list {db : Database} {keys : List LedgerPartitionKey}
    {nextCursor : Option LedgerPartitionKey} (h : e.Sound) (hkeys : e.keys = none)
    (hlist : listKeys db e.orgId e.cursor e.limit = .ok (keys, nextCursor)) :
    ({ e with
      keys := some keys, nextCursor
      checkers := List.replicate (min 4 keys.length) .idle } : Execution).Sound := by
  have htaken : e.taken = 0 := by
    have := h.taken
    rw [hkeys] at this
    exact Nat.le_zero.mp this
  have hnone : e.checkers = [] := by
    have := h.checkers
    rw [hkeys] at this
    exact List.length_eq_zero_iff.mp this
  refine ⟨h.balanced, ?_, fun hr => ?_, fun hr c hc hf => ?_, List.length_replicate ..,
    fun last hlast => listKeys_next hlist hlast, h.unfinished⟩
  · dsimp only
    omega
  · have := h.scanned hr
    have hidle : Checker.idle.isBusy = false := rfl
    rw [hnone] at this
    dsimp only
    rw [List.countP_replicate, hidle]
    exact this
  · rw [List.eq_of_mem_replicate hc] at hf
    cases hf

lemma Sound.scanned_of_done (h : e.Sound) (hdone : e.done = true) :
    e.counts.scannedCount = (e.keys.getD []).length := by
  simp only [done, Bool.and_eq_true, Bool.not_eq_true'] at hdone
  obtain ⟨⟨-, hr⟩, hall⟩ := hdone
  have hfinished := List.all_eq_true.mp hall
  have hidle : e.checkers.countP Checker.isBusy = 0 := by
    rw [List.countP_eq_zero]
    intro c hc
    rw [busy_of_finished (hfinished c hc)]
    exact Bool.false_ne_true
  have hscanned := h.scanned hr
  have htaken : e.taken = (e.keys.getD []).length := by
    rcases hc : e.checkers with _ | ⟨c, rest⟩
    · have hlen := h.checkers
      have htaken := h.taken
      rw [hc, List.length_nil] at hlen
      omega
    · have hmem : c ∈ e.checkers := hc ▸ List.mem_cons_self
      exact h.finished hr c hmem (hfinished c hmem)
  omega

end Execution

/-! ### Checkpoints in a row -/

/-- The reconciliation after a checkpoint. -/
def Progress.turn (p : Progress) (c : Commit) : Progress :=
  ⟨if c.nextCursor.isSome then p.phase else .completed, c.nextCursor,
    p.counters.increment c.counts⟩

/-- The reconciliation after all of its checkpoints: the counts of its pages are added up. -/
def replay (p : Progress) (commits : List Commit) : Progress := commits.foldl Progress.turn p

/-- Each checkpoint starts where the one before has ended. -/
def Follows : Progress → List Commit → Prop
  | _, [] => True
  | p, c :: commits => p.phase ≠ .completed ∧ c.cursor = p.cursor ∧ Follows (p.turn c) commits

/-- A page that has been counted. -/
structure Commit.Counted (c : Commit) : Prop where
  balanced : c.counts.Balanced
  scanned : c.counts.scannedCount = c.keys.length
  next : ∀ last, c.nextCursor = some last → isPast c.cursor last = true

lemma replay_append (p : Progress) (commits : List Commit) (c : Commit) :
    replay p (commits ++ [c]) = (replay p commits).turn c := by
  rw [replay, List.foldl_append]
  rfl

variable {commits : List Commit} {p : Progress}

lemma follows_append {c : Commit} (h : Follows p commits)
    (hphase : (replay p commits).phase ≠ .completed)
    (hcursor : c.cursor = (replay p commits).cursor) : Follows p (commits ++ [c]) := by
  induction commits generalizing p with
  | nil => exact ⟨hphase, hcursor, trivial⟩
  | cons first commits ih => exact ⟨h.1, h.2.1, ih h.2.2 hphase hcursor⟩

lemma balanced_replay (hp : p.counters.Balanced) (h : ∀ c ∈ commits, c.counts.Balanced) :
    (replay p commits).counters.Balanced := by
  induction commits generalizing p with
  | nil => exact hp
  | cons c commits ih =>
    refine ih (p := p.turn c) (hp.increment (h c List.mem_cons_self)) fun c' hc' => ?_
    exact h c' (List.mem_cons_of_mem _ hc')

lemma isPast_of_lt {cursor : Option LedgerPartitionKey} {key key' : LedgerPartitionKey}
    (h : isPast cursor key = true) (hlt : position key < position key') :
    isPast cursor key' = true := by
  cases cursor with
  | none => rfl
  | some last =>
    simp only [isPast, Option.all_some, decide_eq_true_eq] at h ⊢
    exact h.trans hlt

/-- **The cursor advances**: checkpoints that follow each other move it strictly forward. -/
theorem cursors_increasing (h : Follows p commits) (hcounted : ∀ c ∈ commits, c.Counted) :
    (commits.filterMap (·.nextCursor)).Pairwise (fun a b => position a < position b) ∧
      ∀ key ∈ commits.filterMap (·.nextCursor), isPast p.cursor key = true := by
  induction commits generalizing p with
  | nil => simp
  | cons c commits ih =>
    obtain ⟨-, hcursor, hrest⟩ := h
    obtain ⟨hsorted, hpast⟩ := ih hrest fun c' hc' => hcounted c' (List.mem_cons_of_mem _ hc')
    have hc := hcounted c List.mem_cons_self
    cases hnext : c.nextCursor with
    | none =>
      -- the reconciliation is completed, so nothing follows
      have hnil : commits = [] := by
        cases commits with
        | nil => rfl
        | cons c' commits =>
          have hphase := hrest.1
          simp [Progress.turn, hnext] at hphase
      subst hnil
      rw [List.filterMap_cons_none hnext]
      simp
    | some last =>
      have hlast := hc.next last hnext
      rw [hcursor] at hlast
      rw [List.filterMap_cons_some hnext]
      have hbehind : ∀ key ∈ commits.filterMap (·.nextCursor), position last < position key := by
        intro key hkey
        have := hpast key hkey
        simpa [Progress.turn, hnext, isPast] using this
      refine ⟨List.pairwise_cons.mpr ⟨hbehind, hsorted⟩, fun key hkey => ?_⟩
      rcases List.mem_cons.mp hkey with rfl | hkey
      · exact hlast
      · exact isPast_of_lt hlast (hbehind key hkey)

/-! ### The system -/

/-- The checkpoints of a reconciliation. -/
def System.commitsOf (s : System) (runId : String) : List Commit :=
  s.commits.filter fun c => c.runId = runId

structure System.Sound (s : System) : Prop where
  executions : ∀ n e, s.executions.lookup n = some e → e.Sound
  counted : ∀ c ∈ s.commits, c.Counted
  progress : ∀ runId, s.progressOf runId = replay {} (s.commitsOf runId)
  follows : ∀ runId, Follows {} (s.commitsOf runId)

lemma System.sound_start (db : Database) : ({ db } : System).Sound := by
  refine ⟨fun n e h => ?_, fun c hc => ?_, fun runId => rfl, fun runId => trivial⟩
  · cases h
  · cases hc

variable {s s' : System}

lemma System.Sound.of_same (h : s.Sound) (hprogress : s'.progress = s.progress)
    (hcommits : s'.commits = s.commits)
    (hexecutions : ∀ n e, s'.executions.lookup n = some e → e.Sound) : s'.Sound := by
  have hof : ∀ runId, s'.commitsOf runId = s.commitsOf runId := by
    intro runId
    rw [commitsOf, commitsOf, hcommits]
  refine ⟨hexecutions, ?_, fun runId => ?_, fun runId => ?_⟩
  · rw [hcommits]
    exact h.counted
  · rw [hof, ← h.progress, progressOf, progressOf, hprogress]
  · rw [hof]
    exact h.follows runId

variable {e : Execution} {n : ℕ}

lemma System.executions_put (h : ∀ n e, s.executions.lookup n = some e → e.Sound) (he : e.Sound) :
    ∀ k e', (s.put n e).executions.lookup k = some e' → e'.Sound := by
  intro k e' hlookup
  rw [put, Table.lookup_insert'] at hlookup
  split_ifs at hlookup
  · cases hlookup
    exact he
  · exact h k e' hlookup

lemma System.executions_drop (h : ∀ n e, s.executions.lookup n = some e → e.Sound) :
    ∀ k e', (s.drop n).executions.lookup k = some e' → e'.Sound := by
  intro k e' hlookup
  rw [drop, Table.lookup_deleteMany] at hlookup
  exact h k e' (Option.filter_eq_some_iff.mp hlookup).1

/-- The checkpoint of a page. -/
def Execution.commit (e : Execution) : Commit :=
  ⟨e.runId, e.keys.getD [], e.cursor, e.nextCursor, e.counts⟩

lemma System.checkpoint_ok {now mutationTime : ℕ} (h : s.checkpoint e now mutationTime = .ok s') :
    s.db.observationLeased e.orgId e.runId e.lease now = true ∧
      s.db.observationLeased e.orgId e.runId e.lease mutationTime = true ∧
      (s.progressOf e.runId).phase = e.phase ∧ (s.progressOf e.runId).cursor = e.cursor ∧
      s'.progress = s.progress.insert e.runId ((s.progressOf e.runId).turn e.commit) ∧
      s'.commits = s.commits ++ [e.commit] ∧ s'.executions = s.executions := by
  unfold System.checkpoint at h
  split at h
  · cases h
  rename_i hleased
  dsimp only at h
  split at h
  · cases h
  rename_i hcurrent
  obtain ⟨db, hdb, h⟩ := bind_eq_ok.mp h
  cases h
  simp only [not_or, not_not] at hcurrent
  have hturn : (s.progressOf e.runId).turn e.commit =
      ⟨e.nextPhase, e.nextCursor, (s.progressOf e.runId).counters.increment e.counts⟩ := by
    rw [Progress.turn, Execution.nextPhase, hcurrent.1]
    rfl
  refine ⟨by simpa using hleased, ?_, hcurrent.1, hcurrent.2, by rw [hturn], rfl, rfl⟩
  by_contra hlost
  unfold Database.checkpoint at hdb
  rw [if_neg hlost] at hdb
  cases hdb

/-- What an event does to the reconciliations: nothing, or one page is counted by its
checkpoint. -/
inductive System.Counts (s : System) : Event → System → Prop where
  | unmoved {event : Event} {s' : System} (hprogress : s'.progress = s.progress)
      (hcommits : s'.commits = s.commits) : Counts s event s'
  | checkpoint {s' : System} {n now mutationTime : ℕ} (e : Execution)
      (hexecution : s.executions.lookup n = some e) (hdone : e.done = true)
      (hlease : s.db.observationLeased e.orgId e.runId e.lease now = true)
      (hlease' : s.db.observationLeased e.orgId e.runId e.lease mutationTime = true)
      (hphase : (s.progressOf e.runId).phase = e.phase)
      (hcursor : (s.progressOf e.runId).cursor = e.cursor)
      (hprogress : s'.progress =
        s.progress.insert e.runId ((s.progressOf e.runId).turn e.commit))
      (hcommits : s'.commits = s.commits ++ [e.commit])
      (hover : s'.executions.lookup n = none) : Counts s (.checkpoint n now mutationTime) s'

lemma System.Sound.counts {event : Event} (h : s.Sound) (hcounts : s.Counts event s')
    (hexecutions : ∀ n e, s'.executions.lookup n = some e → e.Sound) : s'.Sound := by
  cases hcounts with
  | unmoved hprogress hcommits => exact h.of_same hprogress hcommits hexecutions
  | checkpoint e hexecution hdone hlease hlease' hphase hcursor hprogress hcommits hover =>
    have he := h.executions _ e hexecution
    have hcounted : e.commit.Counted := ⟨he.balanced, he.scanned_of_done hdone, he.next⟩
    have hof : ∀ runId, s'.commitsOf runId =
        if runId = e.runId then s.commitsOf runId ++ [e.commit] else s.commitsOf runId := by
      intro runId
      rw [commitsOf, hcommits, List.filter_append, commitsOf]
      by_cases hrun : runId = e.runId
      · rw [if_pos hrun, hrun]
        simp [Execution.commit]
      · rw [if_neg hrun]
        simp [Execution.commit, Ne.symm hrun]
    have hnext : ∀ runId, s'.progressOf runId =
        if runId = e.runId then (s.progressOf e.runId).turn e.commit else s.progressOf runId := by
      intro runId
      rw [progressOf, hprogress, Table.lookup_insert']
      split_ifs
      · rfl
      · rfl
    refine ⟨hexecutions, fun c hc => ?_, fun runId => ?_, fun runId => ?_⟩
    · rw [hcommits] at hc
      rcases List.mem_append.mp hc with hc | hc
      · exact h.counted c hc
      · rw [List.mem_singleton.mp hc]
        exact hcounted
    · rw [hnext, hof]
      split_ifs with hrun
      · rw [replay_append, hrun, ← h.progress]
      · exact h.progress runId
    · rw [hof]
      split_ifs with hrun
      · refine follows_append (h.follows runId) ?_ ?_
        · rw [← h.progress, hrun, hphase]
          exact he.unfinished
        · rw [← h.progress, hrun, hcursor]
          rfl
      · exact h.follows runId

/-- What a checker does leaves the reconciliations alone, and the executions sound. -/
structure System.Moves (s s' : System) : Prop where
  progress : s'.progress = s.progress
  commits : s'.commits = s.commits
  executions : ∀ n e, s'.executions.lookup n = some e → e.Sound

lemma System.Sound.moves_refl (h : s.Sound) : s.Moves s := ⟨rfl, rfl, h.executions⟩

lemma System.Sound.moves_put (h : s.Sound) (he : e.Sound) :
    s.Moves (s.put n e) := ⟨rfl, rfl, executions_put h.executions he⟩

lemma System.Sound.moves_stepChecker (h : s.Sound) {i : ℕ} {f : Execution → Checker → System}
    (hf : ∀ e checker, e.Sound → e.checkers[i]? = some checker → s.Moves (f e checker)) :
    s.Moves (s.stepChecker n i f) := by
  unfold stepChecker
  split
  · exact h.moves_refl
  rename_i e he
  split
  · exact h.moves_refl
  rename_i checker hchecker
  exact hf e checker (h.executions n e he) hchecker

/-- **The step lemma**: every event counts one page by its checkpoint, or none, and keeps the
executions sound. -/
theorem System.Sound.step {s : System} (h : s.Sound) (event : Event) :
    s.Counts event (Reconciliation.step config hashes s event) ∧
      (Reconciliation.step config hashes s event).Sound := by
  have hmoves : s.Moves (Reconciliation.step config hashes s event) →
      s.Counts event (Reconciliation.step config hashes s event) ∧
        (Reconciliation.step config hashes s event).Sound := fun hm =>
    ⟨.unmoved hm.progress hm.commits, h.of_same hm.progress hm.commits hm.executions⟩
  cases event with
  | operation op => exact hmoves ⟨rfl, rfl, h.executions⟩
  | getState n runId lease limit now =>
    refine hmoves ?_
    change s.Moves (s.getState n runId lease limit now)
    unfold getState
    split
    · exact h.moves_refl
    dsimp only
    split_ifs with hwhy
    · exact h.moves_refl
    simp only [not_or] at hwhy
    refine h.moves_put ⟨rfl, Nat.zero_le _, fun _ => rfl, fun _ c hc => ?_, rfl, fun last hl => ?_,
      hwhy.2.2.2.2⟩
    · cases hc
    · cases hl
  | listKeys n =>
    refine hmoves ?_
    change s.Moves (s.listKeys n)
    unfold System.listKeys
    split
    · exact h.moves_refl
    rename_i e he
    have hsound := h.executions n e he
    split_ifs with hkeys
    · exact h.moves_refl
    split
    · exact ⟨rfl, rfl, executions_drop h.executions⟩
    rename_i keys nextCursor hlist
    exact h.moves_put (hsound.list (by simpa using hkeys) hlist)
  | take n i aborted =>
    refine hmoves (h.moves_stepChecker fun e checker he hchecker => ?_)
    cases checker with
    | idle => exact h.moves_put (he.take hchecker aborted)
    | _ => exact h.moves_refl
  | observe n i source =>
    refine hmoves (h.moves_stepChecker fun e checker he hchecker => ?_)
    cases checker with
    | observing key attempt =>
      refine h.moves_put ?_
      unfold Execution.observed
      split
      · exact he.catchError hchecker rfl ..
      · split_ifs
        · exact he.move hchecker rfl rfl
        · exact he.move hchecker rfl rfl
    | _ => exact h.moves_refl
  | headObject n i head =>
    refine hmoves (h.moves_stepChecker fun e checker he hchecker => ?_)
    cases checker with
    | heading key attempt partition source =>
      refine h.moves_put ?_
      unfold Execution.headed
      split
      · exact he.catchError hchecker rfl ..
      · exact he.move hchecker rfl rfl
    | _ => exact h.moves_refl
  | reserveRepair n i ids refused sourceFingerprint clock =>
    refine hmoves (h.moves_stepChecker fun e checker he hchecker => ?_)
    cases checker with
    | reserving check attempt =>
      refine ⟨rfl, rfl, executions_put h.executions ?_⟩
      unfold Execution.reserved
      split
      · exact he.catchError hchecker rfl ..
      · exact he.settle hchecker rfl ..
      · exact he.move hchecker rfl rfl
    | _ => exact h.moves_refl
  | readOwn n i failure =>
    refine hmoves (h.moves_stepChecker fun e checker he hchecker => ?_)
    cases checker with
    | reading check attempt requestId =>
      refine h.moves_put ?_
      split
      · exact he.catchError hchecker rfl ..
      · exact he.settle hchecker rfl ..
    | _ => exact h.moves_refl
  | checkpoint n now mutationTime =>
    change s.Counts _ (s.finish n now mutationTime) ∧ (s.finish n now mutationTime).Sound
    unfold finish
    split
    · exact ⟨.unmoved rfl rfl, h⟩
    rename_i e he
    split_ifs with hdone
    · exact ⟨.unmoved rfl rfl, h⟩
    have hcounts : s.Counts (.checkpoint n now mutationTime)
        ((Runs.commit s (s.checkpoint e now mutationTime)).drop n) ∧
        (Runs.commit s (s.checkpoint e now mutationTime)).executions = s.executions := by
      cases hok : s.checkpoint e now mutationTime with
      | error error => exact ⟨.unmoved rfl rfl, rfl⟩
      | ok s' =>
        obtain ⟨hlease, hlease', hphase, hcursor, hprogress, hcommits, hsame⟩ := checkpoint_ok hok
        refine ⟨.checkpoint e he (by simpa using hdone) hlease hlease' hphase hcursor hprogress
          hcommits ?_, hsame⟩
        change (s'.drop n).executions.lookup n = none
        rw [drop, Table.lookup_deleteMany, Option.filter_eq_none_iff]
        simp
    refine ⟨hcounts.1, h.counts hcounts.1 (executions_drop ?_)⟩
    rw [hcounts.2]
    exact h.executions
  | crash n => exact hmoves ⟨rfl, rfl, executions_drop h.executions⟩

variable (config hashes) in
lemma System.sound_run (db : Database) (events : List Event) :
    (run (Reconciliation.step config hashes) { db } events).Sound :=
  run_invariant' (fun _ event h => (h.step event).2) events (sound_start db)

/-- The lease of an execution is gone when the checkpoint looks for it, or the reconciliation is
no longer where the execution has found it. -/
def System.Outdated (s : System) (e : Execution) (now mutationTime : ℕ) : Prop :=
  s.db.observationLeased e.orgId e.runId e.lease now = false ∨
    s.db.observationLeased e.orgId e.runId e.lease mutationTime = false ∨
    (s.progressOf e.runId).phase ≠ e.phase ∨ (s.progressOf e.runId).cursor ≠ e.cursor

end Reconciliation
end SmeDataCenter
