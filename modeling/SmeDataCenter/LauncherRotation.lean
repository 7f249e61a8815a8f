import Mathlib.Data.List.Nodup
import SmeDataCenter.LauncherSession

/-!
# Rotation of launcher credentials

Every refresh ends the credential it was made with, and the service ends the whole session when an
ended credential comes back. The launchers never pass one on: whenever the lock is free, the
stored credential is the one issued last, and has not been refreshed.
-/

namespace SmeDataCenter
namespace LauncherSession

open CriticalSections Runs

variable {Process : Type}

/-! ### What holds of the shared state -/

/-- What holds at every moment: no credential was issued twice, and none was passed to `refresh`
after it was refreshed; a cached access token is that of the cached credential; the record holds a
credential of the present session. -/
structure Ordered (s : Shared Process) : Prop where
  once : (s.issued.map Issue.credential).Nodup
  sessions : ∀ issue ∈ s.issued, issue.session < s.sessions
  cached : ∀ p token, (s.caches p).accessToken = some token → ∃ issue ∈ s.issued,
    issue.accessToken = some token ∧ (s.caches p).accessTokenCredential = some issue.credential
  stored : ∀ record, s.store = some record → ∃ issue ∈ s.issued,
    issue.credential = record.durableCredential ∧ s.session = some issue.session
  absent : s.store = none → s.session = none
  refreshed : ∀ credential, (credential, true) ∈ s.refreshes →
    credential ∈ s.issued.map Issue.credential
  rotated : s.refreshes.Pairwise fun later earlier => earlier.2 = true → earlier.1 ≠ later.1

/-- What holds while no call has the lock: the credential of the record is the one issued last,
and has not been refreshed. -/
structure Settled (s : Shared Process) : Prop where
  latest : ∀ record, s.store = some record →
    s.issued.head?.map Issue.credential = some record.durableCredential
  unspent : ∀ record, s.store = some record → (record.durableCredential, true) ∉ s.refreshes

/-- Issued credentials stay so, and a session that was not there before is new. -/
structure Moves (s t : Shared Process) : Prop where
  issued : ∀ issue ∈ s.issued, issue ∈ t.issued
  sessions : s.sessions ≤ t.sessions
  session : ∀ n, t.session = some n → s.session = some n ∨ s.sessions ≤ n

lemma Moves.refl (s : Shared Process) : Moves s s :=
  ⟨fun _ h => h, Nat.le_refl _, fun _ h => .inl h⟩

lemma Moves.trans {s t u : Shared Process} (h : Moves s t) (h' : Moves t u) : Moves s u where
  issued := fun issue hissue => h'.issued issue (h.issued issue hissue)
  sessions := Nat.le_trans h.sessions h'.sessions
  session := by
    intro n hn
    rcases h'.session n hn with ht | ht
    · exact h.session n ht
    · exact .inr (Nat.le_trans h.sessions ht)

/-- The cache of a process holds the credential of the record. -/
def CachedCurrent (s : Shared Process) (p : Process) : Prop :=
  ∃ record, s.store = some record ∧
    (s.caches p).accessTokenCredential = some record.durableCredential

/-- The answers that are considered: the token service issues no credential twice, and the store
deletes what it is told to. When `strict`, no token is returned from a cache that is not current. -/
def Considered (strict : Prop) (p : Process) : Request → Answer → Shared Process → Prop
  | .cachedToken, .now time, s =>
    strict → ∀ token, (s.caches p).usable time = some token → CachedCurrent s p
  | .refresh _, .refreshed (.ok refreshed), s =>
    refreshed.refreshToken ∉ s.issued.map Issue.credential
  | .set record (some _), .written true, s =>
    record.durableCredential ∉ s.issued.map Issue.credential
  | .delete, .written ok, _ => ok = true
  | _, _, _ => True

def rules (strict : Prop) : Rules Process Answer (Shared Process) Request where
  allowed := Considered strict
  moves := Moves
  refl := Moves.refl
  trans := fun _ _ _ => Moves.trans
  always := Ordered
  free := Settled

/-! ### What each request keeps -/

variable {s : Shared Process} {record : SessionRecord} {credential : String}

section

variable [DecidableEq Process] {p : Process} {cache : Cache}

lemma Ordered.setCache (h : Ordered s)
    (hcache : ∀ token, cache.accessToken = some token → ∃ issue ∈ s.issued,
      issue.accessToken = some token ∧ cache.accessTokenCredential = some issue.credential) :
    Ordered (s.setCache p cache) where
  once := h.once
  sessions := h.sessions
  cached := by
    intro q token htoken
    by_cases hq : q = p
    · subst hq
      simp only [Shared.setCache, Function.update_self] at htoken ⊢
      exact hcache token htoken
    · simp only [Shared.setCache, Function.update_of_ne hq] at htoken ⊢
      exact h.cached q token htoken
  stored := h.stored
  absent := h.absent
  refreshed := h.refreshed
  rotated := h.rotated

lemma Ordered.clearCache (h : Ordered s) : Ordered (s.setCache p {}) :=
  h.setCache nofun

lemma Settled.setCache (h : Settled s) : Settled (s.setCache p cache) := ⟨h.latest, h.unspent⟩

lemma Moves.setCache : Moves s (s.setCache p cache) := ⟨fun _ h => h, Nat.le_refl _, fun _ h => .inl h⟩

end

lemma Ordered.deleted (h : Ordered s) : Ordered s.deleted where
  once := h.once
  sessions := h.sessions
  cached := h.cached
  stored := nofun
  absent := fun _ => rfl
  refreshed := h.refreshed
  rotated := h.rotated

lemma Settled.deleted : Settled s.deleted := ⟨nofun, nofun⟩

lemma Moves.deleted : Moves s s.deleted := ⟨fun _ h => h, Nat.le_refl _, nofun⟩

variable {issue : Issue}

lemma Ordered.stored_none (h : Ordered s) (hissue : issue ∈ s.issued)
    (hcredential : issue.credential = record.durableCredential)
    (hsession : s.session = some issue.session) : Ordered (s.stored record none) where
  once := h.once
  sessions := h.sessions
  cached := h.cached
  stored := by
    intro record' hrecord
    cases hrecord
    exact ⟨issue, hissue, hcredential, hsession⟩
  absent := nofun
  refreshed := h.refreshed
  rotated := h.rotated

lemma Moves.stored_none : Moves s (s.stored record none) :=
  ⟨fun _ h => h, Nat.le_refl _, fun _ h => .inl h⟩

variable {accessToken : String}

lemma Ordered.stored_some (h : Ordered s)
    (hnew : record.durableCredential ∉ s.issued.map Issue.credential) :
    Ordered (s.stored record (some accessToken)) where
  once := List.nodup_cons.mpr ⟨hnew, h.once⟩
  sessions := by
    intro issue hissue
    rcases List.mem_cons.mp hissue with rfl | hissue
    · exact Nat.lt_succ_self _
    · exact Nat.lt_succ_of_lt (h.sessions issue hissue)
  cached := by
    intro q token htoken
    obtain ⟨issue, hissue, hrest⟩ := h.cached q token htoken
    exact ⟨issue, List.mem_cons_of_mem _ hissue, hrest⟩
  stored := by
    intro record' hrecord
    cases hrecord
    exact ⟨_, List.mem_cons_self, rfl, rfl⟩
  absent := nofun
  refreshed := fun c hc => List.mem_cons_of_mem _ (h.refreshed c hc)
  rotated := h.rotated

lemma Settled.stored_some (h : Ordered s)
    (hnew : record.durableCredential ∉ s.issued.map Issue.credential) :
    Settled (s.stored record (some accessToken)) where
  latest := by
    intro record' hrecord
    cases hrecord
    rfl
  unspent := by
    intro record' hrecord hmem
    cases hrecord
    exact hnew (h.refreshed _ hmem)

lemma Moves.stored_some : Moves s (s.stored record (some accessToken)) where
  issued := fun _ h => List.mem_cons_of_mem _ h
  sessions := Nat.le_succ _
  session := by
    intro n hn
    cases hn
    exact .inr (Nat.le_refl _)

lemma Ordered.afterRefresh (h : Ordered s) (hissue : issue ∈ s.issued)
    (hcredential : issue.credential = credential) (hsession : s.session = some issue.session)
    (hunspent : (credential, true) ∉ s.refreshes) {result : Except Thrown Refreshed}
    (hnew : ∀ refreshed, result = .ok refreshed →
      refreshed.refreshToken ∉ s.issued.map Issue.credential) :
    Ordered (s.afterRefresh credential result) := by
  have hrotated : ∀ ok, ((credential, ok) :: s.refreshes).Pairwise
      fun later earlier => earlier.2 = true → earlier.1 ≠ later.1 := by
    intro ok
    refine List.pairwise_cons.mpr ⟨?_, h.rotated⟩
    rintro ⟨earlier, ok'⟩ hmem hok heq
    dsimp only at hok heq
    subst hok heq
    exact hunspent hmem
  cases result with
  | error thrown =>
    refine ⟨h.once, h.sessions, h.cached, h.stored, h.absent, ?_, hrotated false⟩
    intro c hc
    rcases List.mem_cons.mp hc with heq | hc
    · cases heq
    · exact h.refreshed c hc
  | ok refreshed =>
    refine ⟨List.nodup_cons.mpr ⟨hnew refreshed rfl, h.once⟩, ?_, ?_, ?_, h.absent, ?_,
      hrotated true⟩
    · intro issue' hissue'
      rcases List.mem_cons.mp hissue' with rfl | hissue'
      · simpa [Shared.afterRefresh, hsession] using h.sessions issue hissue
      · exact h.sessions issue' hissue'
    · intro q token htoken
      obtain ⟨issue', hissue', hrest⟩ := h.cached q token htoken
      exact ⟨issue', List.mem_cons_of_mem _ hissue', hrest⟩
    · intro record hrecord
      obtain ⟨issue', hissue', hrest⟩ := h.stored record hrecord
      exact ⟨issue', List.mem_cons_of_mem _ hissue', hrest⟩
    · intro c hc
      rcases List.mem_cons.mp hc with heq | hc
      · cases heq
        exact List.mem_cons_of_mem _ (List.mem_map.mpr ⟨issue, hissue, hcredential⟩)
      · exact List.mem_cons_of_mem _ (h.refreshed c hc)

lemma Moves.afterRefresh {result : Except Thrown Refreshed} :
    Moves s (s.afterRefresh credential result) := by
  cases result with
  | error thrown => exact ⟨fun _ h => h, Nat.le_refl _, fun _ h => .inl h⟩
  | ok refreshed => exact ⟨fun _ h => List.mem_cons_of_mem _ h, Nat.le_refl _, fun _ h => .inl h⟩

/-- The access token was issued in the present session. -/
def Current (s : Shared Process) (token : String) : Prop :=
  ∃ issue ∈ s.issued, issue.accessToken = some token ∧ s.session = some issue.session

variable {token : String}

lemma Ordered.current (h : Ordered s) {p : Process} (htoken : (s.caches p).accessToken = some token)
    (hcurrent : CachedCurrent s p) : Current s token := by
  obtain ⟨record, hrecord, hsame⟩ := hcurrent
  obtain ⟨issue, hissue, htoken, hcredential⟩ := h.cached p token htoken
  obtain ⟨issue', hissue', hcredential', hsession⟩ := h.stored record hrecord
  have heq : issue.credential = issue'.credential := by
    rw [hcredential', ← Option.some.injEq, ← hcredential, hsame]
  obtain rfl : issue = issue' := List.inj_on_of_nodup_map h.once hissue hissue' heq
  exact ⟨issue, hissue, htoken, hsession⟩

/-- The access token was issued in the session that was there at the start, or in one since. -/
def IssuedSince (start : Shared Process) (token : String) (s : Shared Process) : Prop :=
  ∃ issue ∈ s.issued, issue.accessToken = some token ∧
    (start.session = some issue.session ∨ start.sessions ≤ issue.session)

lemma Current.issuedSince {start : Shared Process} (h : Current s token) (hmoves : Moves start s) :
    IssuedSince start token s := by
  obtain ⟨issue, hissue, htoken, hsession⟩ := h
  exact ⟨issue, hissue, htoken, hmoves.session _ hsession⟩

/-! ### The rules of requests under the lock -/

section

variable [DecidableEq Process] {origin : Process → String} {strict : Prop} {p : Process}
  {α β : Type} {locked : Bool} {post : Bool → Shared Process → Except Thrown α → Prop}
  {mid : Bool → Shared Process → Except Thrown β → Prop}

/-- A call, or a part of one, is safe. -/
abbrev SafeCall (origin : Process → String) (strict : Prop) (p : Process)
    (post : Bool → Shared Process → Except Thrown α → Prop) (c : Session α) (locked : Bool)
    (s : Shared Process) : Prop :=
  Safe (launchers origin) (rules strict) p post c.run locked s

lemma safe_seq {sub : Session β} {f : β → Session α}
    (h : SafeCall origin strict p mid sub locked s)
    (hok : ∀ locked t b, mid locked t (.ok b) → SafeCall origin strict p post (f b) locked t)
    (herror : ∀ locked t thrown, mid locked t (.error thrown) → post locked t (.error thrown)) :
    SafeCall origin strict p post (sub >>= f) locked s := by
  refine h.bind fun locked t result hmid => ?_
  cases result with
  | error thrown => exact herror locked t thrown hmid
  | ok b => exact hok locked t b hmid

lemma safe_tryCatch {mid : Bool → Shared Process → Except Thrown α → Prop} {sub : Session α}
    {handler : Thrown → Session α} (h : SafeCall origin strict p mid sub locked s)
    (hok : ∀ locked t a, mid locked t (.ok a) → post locked t (.ok a))
    (herror : ∀ locked t thrown, mid locked t (.error thrown) →
      SafeCall origin strict p post (handler thrown) locked t) :
    SafeCall origin strict p post (tryCatch sub handler) locked s := by
  refine h.bind fun locked t result hmid => ?_
  cases result with
  | error thrown => exact herror locked t thrown hmid
  | ok a => exact hok locked t a hmid

variable {γ : Type} {final : Bool → Shared Process → γ → Prop}

lemma safe_cache {next : Cache × ℕ → Prog Request Request.Reply γ} (hs : Ordered s)
    (h : ∀ now, Safe (launchers origin) (rules strict) p final (next (s.caches p, now)) true s) :
    Safe (launchers origin) (rules strict) p final (.ask .cache next) true s := by
  intro answer rest reply s' rest' _ hexec
  cases answer <;> cases hexec
  exact ⟨Moves.refl _, hs, h _⟩

lemma safe_setCache {cache : Cache} {next : Unit → Prog Request Request.Reply γ}
    (hs : Ordered (s.setCache p cache))
    (h : Safe (launchers origin) (rules strict) p final (next ()) true (s.setCache p cache)) :
    Safe (launchers origin) (rules strict) p final (.ask (.setCache cache) next) true s := by
  intro answer rest reply s' rest' _ hexec
  cases answer <;> cases hexec
  exact ⟨Moves.setCache, hs, h⟩

lemma safe_get {next : Option SessionRecord → Prog Request Request.Reply γ} (hs : Ordered s)
    (h : Safe (launchers origin) (rules strict) p final (next s.store) true s) :
    Safe (launchers origin) (rules strict) p final (.ask .get next) true s := by
  intro answer rest reply s' rest' _ hexec
  cases answer <;> cases hexec
  exact ⟨Moves.refl _, hs, h⟩

lemma safe_delete {next : Unit → Prog Request Request.Reply γ} (hs : Ordered s)
    (h : Safe (launchers origin) (rules strict) p final (next ()) true s.deleted) :
    Safe (launchers origin) (rules strict) p final (.ask .delete next) true s := by
  intro answer rest reply s' rest' hdeleted hexec
  cases answer with
  | written ok =>
    obtain rfl : ok = true := hdeleted
    cases hexec
    exact ⟨Moves.deleted, hs.deleted, h⟩
  | _ => cases hexec

lemma safe_revoke {next : Option Bool → Prog Request Request.Reply γ} (hs : Ordered s)
    (h : ∀ confirmed, Safe (launchers origin) (rules strict) p final (next confirmed) true s) :
    Safe (launchers origin) (rules strict) p final (.ask (.revoke credential) next) true s := by
  intro answer rest reply s' rest' _ hexec
  cases answer <;> cases hexec
  exact ⟨Moves.refl _, hs, h _⟩

lemma safe_resolve {next : Except Thrown CachedUserProfile → Prog Request Request.Reply γ}
    (hs : Ordered s)
    (h : ∀ result, Safe (launchers origin) (rules strict) p final (next result) true s) :
    Safe (launchers origin) (rules strict) p final (.ask (.resolve token) next) true s := by
  intro answer rest reply s' rest' _ hexec
  cases answer <;> cases hexec
  exact ⟨Moves.refl _, hs, h _⟩

lemma safe_set_none {next : Bool → Prog Request Request.Reply γ} (hs : Ordered s)
    (hstored : Ordered (s.stored record none))
    (hfailed : Safe (launchers origin) (rules strict) p final (next false) true s)
    (h : Safe (launchers origin) (rules strict) p final (next true) true (s.stored record none)) :
    Safe (launchers origin) (rules strict) p final (.ask (.set record none) next) true s := by
  intro answer rest reply s' rest' _ hexec
  cases answer with
  | written ok =>
    cases ok with
    | false =>
      cases hexec
      exact ⟨Moves.refl _, hs, hfailed⟩
    | true =>
      cases hexec
      exact ⟨Moves.stored_none, hstored, h⟩
  | _ => cases hexec

lemma safe_set_some {next : Bool → Prog Request Request.Reply γ} (hs : Ordered s)
    (hfailed : Safe (launchers origin) (rules strict) p final (next false) true s)
    (h : record.durableCredential ∉ s.issued.map Issue.credential →
      Safe (launchers origin) (rules strict) p final (next true) true
        (s.stored record (some accessToken))) :
    Safe (launchers origin) (rules strict) p final (.ask (.set record (some accessToken)) next)
      true s := by
  intro answer rest reply s' rest' hnew hexec
  cases answer with
  | written ok =>
    cases ok with
    | false =>
      cases hexec
      exact ⟨Moves.refl _, hs, hfailed⟩
    | true =>
      cases hexec
      exact ⟨Moves.stored_some, hs.stored_some hnew, h hnew⟩
  | _ => cases hexec

lemma safe_refresh {next : Except Thrown Refreshed → Prog Request Request.Reply γ} (hs : Ordered s)
    (hsettled : Settled s) (hrecord : s.store = some record)
    (h : ∀ result, (∀ refreshed, result = .ok refreshed →
        refreshed.refreshToken ∉ s.issued.map Issue.credential) →
      Ordered (s.afterRefresh record.durableCredential result) →
      Safe (launchers origin) (rules strict) p final (next result) true
        (s.afterRefresh record.durableCredential result)) :
    Safe (launchers origin) (rules strict) p final
      (.ask (.refresh record.durableCredential) next) true s := by
  intro answer rest reply s' rest' hnew hexec
  cases answer with
  | refreshed result =>
    cases hexec
    obtain ⟨issue, hissue, hcredential, hsession⟩ := hs.stored record hrecord
    have hfresh : ∀ refreshed, reply = .ok refreshed →
        refreshed.refreshToken ∉ s.issued.map Issue.credential := by
      rintro refreshed rfl
      exact hnew
    have hordered := hs.afterRefresh hissue hcredential hsession (hsettled.unspent record hrecord)
      hfresh
    exact ⟨Moves.afterRefresh, hordered, h reply hfresh hordered⟩
  | _ => cases hexec

end

/-! ### Calls are safe -/

section

variable [DecidableEq Process] {origin : Process → String} {strict : Prop} {p : Process}
  {o : String} {α : Type}

/-- A part of a call that ends with the lock, and with the state in order. -/
def Held (post : Shared Process → Except Thrown α → Prop) (locked : Bool) (s : Shared Process)
    (result : Except Thrown α) : Prop :=
  locked = true ∧ Ordered s ∧ post s result

lemma safe_readRecord (hs : Ordered s) :
    SafeCall origin strict p (Held fun t found => t = s ∧ (found = .ok none ∨
      ∃ record, found = .ok (some record) ∧ s.store = some record ∧ record.origin = o))
      (readRecord o) true s := by
  refine safe_get hs ⟨rfl, hs, rfl, ?_⟩
  cases hstore : s.store with
  | none => exact .inl rfl
  | some record =>
    by_cases hfound : record.origin = o && record.durableCredential ≠ ""
    · refine .inr ⟨record, ?_, rfl, ?_⟩
      · exact congrArg Except.ok (Option.filter_eq_some_iff.mpr ⟨rfl, hfound⟩)
      · simp only [Bool.and_eq_true, decide_eq_true_eq] at hfound
        exact hfound.1
    · left
      exact congrArg Except.ok (Option.filter_eq_none_iff.mpr fun _ h => by cases h; exact hfound)

lemma safe_readCredential (hs : Ordered s) :
    SafeCall origin strict p (Held fun t found => t = s ∧ (found = .ok none ∨
      ∃ record, found = .ok (some record.durableCredential) ∧ s.store = some record))
      (readCredential o) true s := by
  refine safe_seq (safe_readRecord (o := o) hs) ?_ ?_
  · rintro locked t found ⟨rfl, ht, rfl, hnone | ⟨record, hfound, hstore, -⟩⟩
    · cases hnone
      exact ⟨rfl, ht, rfl, .inl rfl⟩
    · cases hfound
      exact ⟨rfl, ht, rfl, .inr ⟨record, rfl, hstore⟩⟩
  · rintro locked t thrown ⟨-, -, -, hnone | ⟨record, hfound, -, -⟩⟩
    · cases hnone
    · cases hfound

lemma safe_invalidateLocked (hs : Ordered s) :
    SafeCall origin strict p (Held fun t result => result = .ok () ∧ Settled t ∧ t.store = none)
      invalidateLocked true s :=
  safe_setCache hs.clearCache
    (safe_delete hs.clearCache ⟨rfl, hs.clearCache.deleted, rfl, .deleted, rfl⟩)

lemma safe_abandon (hs : Ordered s) :
    SafeCall origin strict p (Held fun t result =>
      result = .error (.typed .authenticationRequired) ∧ Settled t)
      (abandon (α := α) credential) true s :=
  safe_setCache hs.clearCache (safe_revoke hs.clearCache fun _ =>
    safe_delete hs.clearCache ⟨rfl, hs.clearCache.deleted, rfl, .deleted⟩)

lemma safe_verified
    (hstore : ∀ record, s.store = some record → record.durableCredential = credential)
    (hs : Ordered s) :
    SafeCall origin strict p (Held fun t result => t = s ∧
      (result = .ok () → ∃ record, s.store = some record))
      (do
        let found ← readCredential o
        if found = some credential then return () else throw (.other false)) true s := by
  refine safe_seq (safe_readCredential hs) ?_ ?_
  · rintro locked t found ⟨rfl, ht, rfl, hnone | ⟨record, hfound, hrecord⟩⟩
    · cases hnone
      exact ⟨rfl, ht, rfl, nofun⟩
    · cases hfound
      rw [if_pos (congrArg some (hstore record hrecord))]
      exact ⟨rfl, ht, rfl, fun _ => ⟨record, hrecord⟩⟩
  · rintro locked t thrown ⟨-, -, -, hnone | ⟨record, hfound, -⟩⟩
    · cases hnone
    · cases hfound

variable {profile : Option CachedUserProfile}

lemma safe_storeRecord_none (hs : Ordered s) (hissue : issue ∈ s.issued)
    (hcredential : issue.credential = credential) (hsession : s.session = some issue.session) :
    SafeCall origin strict p (Held fun t result =>
      (result = .ok () ∧ t = s.stored ⟨o, credential, profile⟩ none) ∨
        ((∃ thrown, result = .error thrown ∧ thrown ≠ .typed .authenticationRequired) ∧ t = s))
      (storeRecord o credential profile none) true s := by
  have hstored : Ordered (s.stored ⟨o, credential, profile⟩ none) :=
    hs.stored_none hissue hcredential hsession
  exact safe_set_none hs hstored ⟨rfl, hs, .inr ⟨⟨_, rfl, nofun⟩, rfl⟩⟩
    ⟨rfl, hstored, .inl ⟨rfl, rfl⟩⟩

/-- What a call leaves under the lock when it gets an access token. -/
def Ensured (s : Shared Process) (result : Except Thrown String) : Prop :=
  Settled s ∧ ∀ token, result = .ok token → Current s token ∧ ∃ record, s.store = some record

lemma safe_storeVerified_none (hs : Ordered s) (hissue : issue ∈ s.issued)
    (hcredential : issue.credential = credential) (hsession : s.session = some issue.session)
    (hlatest : s.issued.head?.map Issue.credential = some credential)
    (hunspent : (credential, true) ∉ s.refreshes) :
    SafeCall origin strict p (Held fun t result => result = .ok () →
      t = s.stored ⟨o, credential, profile⟩ none ∧ Settled t)
      (storeVerified o credential profile none) true s := by
  refine safe_seq (safe_storeRecord_none hs hissue hcredential hsession) ?_ ?_
  · rintro locked t _ ⟨rfl, ht, ⟨-, rfl⟩ | ⟨⟨thrown, hthrown, -⟩, -⟩⟩
    · have hsame : ∀ record, (s.stored ⟨o, credential, profile⟩ none).store = some record →
          record.durableCredential = credential := by
        intro record hrecord
        cases hrecord
        rfl
      refine (safe_verified hsame ht).mono ?_
      rintro locked u result ⟨rfl, hu, rfl, -⟩
      refine ⟨rfl, hu, fun _ => ⟨rfl, ?_, ?_⟩⟩
      · intro record hrecord
        rw [hsame record hrecord]
        exact hlatest
      · intro record hrecord
        rw [hsame record hrecord]
        exact hunspent
    · cases hthrown
  · rintro locked t thrown ⟨rfl, ht, -⟩
    exact ⟨rfl, ht, nofun⟩

/-- **A refresh** ends with the new credential in the record, or without a record, or as it was. -/
lemma safe_refreshRecord (hs : Ordered s) (hsettled : Settled s)
    (hrecord : s.store = some record) :
    SafeCall origin strict p (Held Ensured) (refreshRecord o record) true s := by
  refine safe_refresh hs hsettled hrecord fun result hnew hordered => ?_
  cases result with
  | error thrown =>
    have hsettled' : Settled (s.afterRefresh record.durableCredential (.error thrown)) := by
      refine ⟨hsettled.latest, fun record' hrecord' hmem => ?_⟩
      rcases List.mem_cons.mp hmem with heq | hmem
      · simp at heq
      · exact hsettled.unspent record' hrecord' hmem
    by_cases hcode : asTypedError thrown = .authenticationRequired
    · change SafeCall origin strict p _ (do
        if asTypedError thrown = .authenticationRequired then invalidateLocked
        throw (.typed (asTypedError thrown))) true _
      rw [if_pos hcode]
      refine safe_seq (safe_invalidateLocked hordered) ?_ ?_
      · rintro locked t _ ⟨rfl, ht, -, hfree, -⟩
        exact ⟨rfl, ht, hfree, nofun⟩
      · rintro locked t _ ⟨-, -, hthrown, -⟩
        cases hthrown
    · change SafeCall origin strict p _ (do
        if asTypedError thrown = .authenticationRequired then invalidateLocked
        throw (.typed (asTypedError thrown))) true _
      rw [if_neg hcode]
      exact ⟨rfl, hordered, hsettled', nofun⟩
  | ok refreshed =>
    obtain ⟨issue, hissue, hcredential, hsession⟩ := hs.stored record hrecord
    have hfresh := hnew refreshed rfl
    have hunspent : (refreshed.refreshToken, true) ∉
        (s.afterRefresh record.durableCredential (.ok refreshed)).refreshes := by
      intro hmem
      rcases List.mem_cons.mp hmem with heq | hmem
      · rw [(Prod.mk.inj heq).1] at hfresh
        exact hfresh (List.mem_map.mpr ⟨issue, hissue, hcredential⟩)
      · exact hfresh (hs.refreshed _ hmem)
    have hnewSession : (s.afterRefresh record.durableCredential (.ok refreshed)).session =
        some (s.session.getD 0) := by
      simp [Shared.afterRefresh, hsession]
    set after := s.afterRefresh record.durableCredential (.ok refreshed) with hafter
    have hstored : SafeCall origin strict p (Held fun t result => Settled t ∧
        (result = .ok () → t = after.stored ⟨o, refreshed.refreshToken, record.profile⟩ none))
        (tryCatch (storeVerified o refreshed.refreshToken record.profile none) fun _ =>
          abandon refreshed.refreshToken) true after := by
      refine safe_tryCatch (safe_storeVerified_none hordered List.mem_cons_self rfl hnewSession
        rfl hunspent) ?_ ?_
      · rintro locked t _ ⟨rfl, ht, hok⟩
        exact ⟨rfl, ht, (hok rfl).2, fun _ => (hok rfl).1⟩
      · rintro locked t thrown ⟨rfl, ht, -⟩
        refine (safe_abandon ht).mono ?_
        rintro locked u _ ⟨rfl, hu, rfl, hfree⟩
        exact ⟨rfl, hu, hfree, nofun⟩
    refine safe_seq hstored ?_ ?_
    · rintro locked t _ ⟨rfl, ht, hfree, hsame⟩
      obtain rfl := hsame rfl
      refine safe_cache ht fun now => ?_
      have hcached : Ordered ((after.stored ⟨o, refreshed.refreshToken, record.profile⟩
          none).setCache p ⟨some refreshed.accessToken,
            refreshed.expiresAt.getD (now + 9 * 60000), some refreshed.refreshToken⟩) := by
        refine ht.setCache fun token htoken => ?_
        cases htoken
        exact ⟨_, List.mem_cons_self, rfl, rfl⟩
      refine safe_setCache hcached ⟨rfl, hcached, hfree.setCache, fun token htoken => ?_⟩
      cases htoken
      exact ⟨⟨_, List.mem_cons_self, rfl, hnewSession⟩, _, rfl⟩
    · rintro locked t thrown ⟨rfl, ht, hfree, -⟩
      exact ⟨rfl, ht, hfree, nofun⟩

/-- **Getting an access token under the lock**: the cached one, if it is that of the record, or
a new one. -/
lemma safe_ensureAccessTokenLocked (hs : Ordered s) (hsettled : Settled s) :
    SafeCall origin strict p (Held Ensured) (ensureAccessTokenLocked o) true s := by
  refine safe_seq (safe_readRecord hs) ?_ ?_
  · rintro locked t found ⟨rfl, -, rfl, hnone | ⟨record, hfound, hrecord, -⟩⟩
    · cases hnone
      exact ⟨rfl, hs, hsettled, nofun⟩
    · cases hfound
      refine safe_cache hs fun now => ?_
      change SafeCall origin strict p (Held Ensured) (tokenOf o record (t.caches p) now) true t
      unfold tokenOf
      split
      · rename_i token htoken
        obtain ⟨husable, hcurrent⟩ := Option.filter_eq_some_iff.mp htoken
        obtain ⟨hcached, -⟩ := Option.filter_eq_some_iff.mp husable
        refine ⟨rfl, hs, hsettled, fun token' heq => ?_⟩
        cases heq
        exact ⟨hs.current hcached ⟨record, hrecord, by simpa using hcurrent⟩, record, hrecord⟩
      · exact safe_refreshRecord hs hsettled hrecord
  · rintro locked t thrown ⟨-, -, -, hnone | ⟨record, hfound, -⟩⟩
    · cases hnone
    · cases hfound

/-- What the other calls leave under the lock. -/
def Left (s : Shared Process) (_ : Except Thrown α) : Prop := Settled s

lemma safe_establishLocked (hs : Ordered s) {expiresAt : ℕ} :
    SafeCall origin strict p (Held Left)
      (tryCatch
        (do
          storeVerified o credential none (some accessToken)
          ask (.setCache ⟨some accessToken, expiresAt, some credential⟩))
        fun _ => abandon credential) true s := by
  have hbody : SafeCall origin strict p (Held fun t result => result = .ok () → Settled t)
      (do
        storeVerified o credential none (some accessToken)
        ask (.setCache ⟨some accessToken, expiresAt, some credential⟩)) true s := by
    refine safe_set_some hs ⟨rfl, hs, nofun⟩ fun hnew => ?_
    have hordered : Ordered (s.stored ⟨o, credential, none⟩ (some accessToken)) :=
      hs.stored_some hnew
    have hfree : Settled (s.stored ⟨o, credential, none⟩ (some accessToken)) :=
      Settled.stored_some hs hnew
    have hsame : ∀ record, (s.stored ⟨o, credential, none⟩ (some accessToken)).store =
        some record → record.durableCredential = credential := by
      intro record hrecord
      cases hrecord
      rfl
    refine safe_seq (safe_verified hsame hordered) ?_ ?_
    · rintro locked t _ ⟨rfl, ht, rfl, -⟩
      have hcached : Ordered ((s.stored ⟨o, credential, none⟩ (some accessToken)).setCache p
          ⟨some accessToken, expiresAt, some credential⟩) := by
        refine hordered.setCache fun token htoken => ?_
        cases htoken
        exact ⟨_, List.mem_cons_self, rfl, rfl⟩
      exact safe_setCache hcached ⟨rfl, hcached, fun _ => hfree.setCache⟩
    · rintro locked t thrown ⟨rfl, ht, -⟩
      exact ⟨rfl, ht, nofun⟩
  refine safe_tryCatch hbody ?_ ?_
  · rintro locked t _ ⟨rfl, ht, hfree⟩
    exact ⟨rfl, ht, hfree rfl⟩
  · rintro locked t thrown ⟨rfl, ht, -⟩
    refine (safe_abandon ht).mono ?_
    rintro locked u _ ⟨rfl, hu, -, hfree⟩
    exact ⟨rfl, hu, hfree⟩

lemma safe_logoutLocked (hs : Ordered s) :
    SafeCall origin strict p (Held fun t _ => Settled t ∧ t.session = none)
      (do
        let refreshCredential ← readCredential o
        ask (.setCache {})
        let remoteRevocationConfirmed ← match refreshCredential with
          | some credential => do
            let confirmed ← ask (.revoke credential)
            pure (confirmed.getD false)
          | none => pure true
        deleteRecord
        return (remoteRevocationConfirmed, true)) true s := by
  refine safe_seq (safe_readCredential hs) ?_ ?_
  · rintro locked t found ⟨rfl, ht, rfl, -⟩
    have hclear := ht.clearCache (p := p)
    refine safe_setCache hclear ?_
    cases found with
    | none => exact safe_delete hclear ⟨rfl, hclear.deleted, .deleted, rfl⟩
    | some credential =>
      exact safe_revoke hclear fun _ =>
        safe_delete hclear ⟨rfl, hclear.deleted, .deleted, rfl⟩
  · rintro locked t thrown ⟨-, -, -, hnone | ⟨record, hfound, -⟩⟩
    · cases hnone
    · cases hfound

lemma safe_refreshAccessTokenLocked (hs : Ordered s) (hsettled : Settled s) :
    SafeCall origin strict p (Held Ensured)
      (do
        let (cache, _) ← ask .cache
        ask (.setCache { cache with accessToken := none, accessTokenExpiresAt := 0 })
        ensureAccessTokenLocked o) true s := by
  refine safe_cache hs fun now => ?_
  have hclear : Ordered (s.setCache p
      { s.caches p with accessToken := none, accessTokenExpiresAt := 0 }) := hs.setCache nofun
  exact safe_setCache hclear (safe_ensureAccessTokenLocked hclear hsettled.setCache)

lemma safe_storeProfileLocked (hs : Ordered s) (hsettled : Settled s)
    (hrecord : s.store = some record) :
    SafeCall origin strict p
      (Held fun t result => Left t result ∧ result ≠ .error (.typed .authenticationRequired))
      (storeRecord o record.durableCredential profile none) true s := by
  obtain ⟨issue, hissue, hcredential, hsession⟩ := hs.stored record hrecord
  refine (safe_storeRecord_none hs hissue hcredential hsession).mono ?_
  rintro locked t _ ⟨rfl, ht, ⟨rfl, rfl⟩ | ⟨⟨thrown, rfl, hother⟩, rfl⟩⟩
  · refine ⟨rfl, ht, ⟨?_, ?_⟩, nofun⟩
    · intro record' hrecord'
      cases hrecord'
      exact hsettled.latest record hrecord
    · intro record' hrecord'
      cases hrecord'
      exact hsettled.unspent record hrecord
  · exact ⟨rfl, ht, hsettled, fun heq => hother (Except.error.inj heq)⟩

lemma safe_resolveProfileLocked (hs : Ordered s) (hsettled : Settled s) :
    SafeCall origin strict p (Held Left) (resolveProfileLocked o) true s := by
  have hrest : ∀ (t : Shared Process) (found : Option SessionRecord), Ordered t → Settled t →
      SafeCall origin strict p (Held Left) (profileOf o found) true t := by
    intro t found ht hfree
    unfold profileOf
    split
    · exact ⟨rfl, ht, hfree⟩
    refine safe_seq (safe_ensureAccessTokenLocked ht hfree) ?_ ?_
    · rintro locked u token ⟨rfl, hu, hfree, hok⟩
      refine safe_resolve hu fun result => ?_
      cases result with
      | error thrown => exact ⟨rfl, hu, hfree⟩
      | ok profile =>
        refine safe_seq (safe_readCredential hu) ?_ ?_
        · rintro locked v credential ⟨rfl, hv, rfl, hnone | ⟨record, hfound, hrecord⟩⟩
          · cases hnone
            exact ⟨rfl, hv, hfree⟩
          · cases hfound
            refine safe_seq (safe_storeProfileLocked hv hfree hrecord) ?_ ?_
            · rintro locked w _ ⟨rfl, hw, hleft, -⟩
              exact ⟨rfl, hw, hleft⟩
            · rintro locked w thrown ⟨rfl, hw, hleft, -⟩
              exact ⟨rfl, hw, hleft⟩
        · rintro locked v thrown ⟨-, -, -, hnone | ⟨record, hfound, -⟩⟩
          · cases hnone
          · cases hfound
    · rintro locked u thrown ⟨rfl, hu, hfree, -⟩
      exact ⟨rfl, hu, hfree⟩
  refine safe_seq (safe_readRecord hs) ?_ ?_
  · rintro locked t found ⟨rfl, ht, rfl, -⟩
    refine safe_cache ht fun now => ?_
    change SafeCall origin strict p (Held Left) (do
      if (t.caches p).accessTokenCredential ≠ found.map (·.durableCredential) then
        ask (.setCache {})
      profileOf o found) true t
    by_cases hsame : (t.caches p).accessTokenCredential ≠ found.map (·.durableCredential)
    · rw [if_pos hsame]
      exact safe_setCache ht.clearCache (hrest _ found ht.clearCache hsettled.setCache)
    · rw [if_neg hsame]
      exact hrest t found ht hsettled
  · rintro locked t thrown ⟨-, -, -, hnone | ⟨record, hfound, -⟩⟩
    · cases hnone
    · cases hfound

/-! ### Calls, from their start -/

/-- A call ends without the lock; when `strict`, with an access token issued since its start. -/
def Ended (strict : Prop) (start : Shared Process) (locked : Bool) (s : Shared Process)
    (result : Except Thrown Outcome) : Prop :=
  locked = false ∧ (strict → ∀ token, result = .ok (.token token) → IssuedSince start token s)

variable {start : Shared Process} {final : Bool → Shared Process → Except Thrown α → Prop}

variable {body : Session α}

/-- **The rule of the record lock**: what is done under the lock starts from a state that others
have left in order, and leaves one. -/
lemma safe_withRecordLock {held : Shared Process → Except Thrown α → Prop}
    (hbody : ∀ t, Ordered t → Settled t → SafeCall origin strict p (Held held) body true t)
    (hheld : ∀ t result, held t result → Settled t)
    (hdone : ∀ t u result, Moves s t → Moves t u → held u result → final false u result)
    (hrefused : ∀ t, final false t (.error (.other false))) :
    SafeCall origin strict p final (withRecordLock body) false s := by
  refine ⟨rfl, fun t hmoves ht => ⟨fun hfree => ?_, hrefused t⟩⟩
  refine (hbody t ht hfree).moved.bind ?_
  rintro locked u result ⟨⟨rfl, hu, hleft⟩, hmoved⟩
  exact ⟨rfl, hheld u result hleft, hdone t u result hmoves hmoved hleft⟩

lemma safe_unlocked {r : Request} {β : Type} {final : Bool → Shared Process → β → Prop}
    {next : r.Reply → Prog Request Request.Reply β}
    (hr : ∀ answer t waiting reply t' waiting',
      exec p r answer t waiting = some (reply, t', waiting') → t' = t)
    (h : ∀ t reply, Moves s t → Safe (launchers origin) (rules strict) p final (next reply)
      false t) :
    Safe (launchers origin) (rules strict) p final (.ask r next) false s := by
  intro t hmoves _ answer rest reply t' rest' _ hexec
  exact ⟨hr answer t rest reply t' rest' hexec, h t reply hmoves⟩

lemma exec_reads {r : Request} (hr : r = .cachedToken ∨ r = .cache ∨ r = .takePendingLogin ∨
      r = .waitForLogin ∨ r = .awaitLogin ∨ r = .get) (answer : Answer) (t : Shared Process)
    (waiting : Process → Bool) (reply : r.Reply) (t' : Shared Process)
    (waiting' : Process → Bool) (h : exec p r answer t waiting = some (reply, t', waiting')) :
    t' = t := by
  rcases hr with rfl | rfl | rfl | rfl | rfl | rfl <;> cases answer <;> cases h <;> rfl

lemma safe_waitForPendingLogin :
    SafeCall origin strict p (fun locked t _ => locked = false ∧ Moves s t)
      (waitForPendingLogin o) false s := by
  have hread : ∀ t, Moves s t → SafeCall origin strict p
      (fun locked t _ => locked = false ∧ Moves s t) (do
        let credential ← readCredential o
        if credential = none then throw (.typed .authenticationPending) else return ()) false t := by
    intro t hmoves
    refine safe_unlocked (exec_reads (by simp)) fun u found hmoves' => ?_
    change SafeCall origin strict p _ (if (found.filter fun r => r.origin = o &&
      r.durableCredential ≠ "").map (·.durableCredential) = none then
        throw (.typed .authenticationPending) else return ()) false u
    split
    · exact ⟨rfl, hmoves.trans hmoves'⟩
    · exact ⟨rfl, hmoves.trans hmoves'⟩
  have hsecond : ∀ t, Moves s t → SafeCall origin strict p
      (fun locked t _ => locked = false ∧ Moves s t) (do
        let (cache, now) ← ask .cache
        if (cache.usable now).isSome then return ()
        else if cache.accessToken.isSome then return ()
        else
          let credential ← readCredential o
          if credential = none then throw (.typed .authenticationPending) else return ())
      false t := by
    intro t hmoves
    refine safe_unlocked (exec_reads (by simp)) fun u found hmoves' => ?_
    change SafeCall origin strict p _ (if (found.1.usable found.2).isSome then return ()
      else if found.1.accessToken.isSome then return ()
      else do
        let credential ← readCredential o
        if credential = none then throw (.typed .authenticationPending) else return ()) false u
    split_ifs
    · exact ⟨rfl, hmoves.trans hmoves'⟩
    · exact ⟨rfl, hmoves.trans hmoves'⟩
    · exact hread u (hmoves.trans hmoves')
  refine safe_unlocked (exec_reads (by simp)) fun t found hmoves => ?_
  change SafeCall origin strict p _ (if (found.1.usable found.2).isSome then return ()
    else do
      let pending : Bool ← ask .takePendingLogin
      if pending then
        ask .awaitLogin
        let (cache, now) ← ask .cache
        if (cache.usable now).isSome then return ()
        else if cache.accessToken.isSome then return ()
        else
          let credential ← readCredential o
          if credential = none then throw (.typed .authenticationPending) else return ()
      else return ()) false t
  split
  · exact ⟨rfl, hmoves⟩
  · refine safe_unlocked (exec_reads (by simp)) fun u pending hmoves' => ?_
    cases pending with
    | false => exact ⟨rfl, hmoves.trans hmoves'⟩
    | true =>
      refine safe_unlocked (exec_reads (by simp)) fun v _ hmoves'' => ?_
      exact hsecond v ((hmoves.trans hmoves').trans hmoves'')

/-- A call that returns an access token. -/
def GetsToken (strict : Prop) (start : Shared Process) (locked : Bool) (s : Shared Process)
    (result : Except Thrown String) : Prop :=
  locked = false ∧ (strict → ∀ token, result = .ok token → IssuedSince start token s)

omit [DecidableEq Process] in
lemma getsToken_of_ensured {t u : Shared Process} {result : Except Thrown String}
    (hmoves : Moves start t) (hmoves' : Moves t u) (h : Ensured u result) :
    GetsToken strict start false u result :=
  ⟨rfl, fun _ token htoken => (h.2 token htoken).1.issuedSince (hmoves.trans hmoves')⟩

/-- **Getting an access token**: from the cache, which is current when `strict`, or under the
lock. -/
lemma safe_ensureAccessToken :
    SafeCall origin strict p (GetsToken strict s) (ensureAccessToken o) false s := by
  intro t hmoves ht answer rest reply t' rest' hconsidered hexec
  cases answer with
  | now time =>
    cases hexec
    refine ⟨rfl, ?_⟩
    change SafeCall origin strict p (GetsToken strict s) (match (t.caches p).usable time with
      | some token => return token
      | none => do
        waitForPendingLogin o
        withRecordLock (ensureAccessTokenLocked o)) false t
    split
    · rename_i token husable
      refine ⟨rfl, fun hstrict token' heq => ?_⟩
      cases heq
      have hcached := (Option.filter_eq_some_iff.mp husable).1
      exact (ht.current hcached (hconsidered hstrict token husable)).issuedSince hmoves
    · refine safe_seq safe_waitForPendingLogin ?_ ?_
      · rintro locked u _ ⟨rfl, hmoves'⟩
        refine safe_withRecordLock (fun v hv hfree => safe_ensureAccessTokenLocked hv hfree)
          (fun v result h => h.1) (fun v w result hv hw h => ?_) fun v => ⟨rfl, fun _ => nofun⟩
        exact getsToken_of_ensured ((hmoves.trans hmoves').trans hv) hw h
      · rintro locked u thrown ⟨rfl, -⟩
        exact ⟨rfl, fun _ => nofun⟩
  | _ => cases hexec

lemma safe_refreshAccessToken :
    SafeCall origin strict p (GetsToken strict s) (refreshAccessToken o) false s :=
  safe_withRecordLock (fun _ ht hfree => safe_refreshAccessTokenLocked ht hfree)
    (fun _ _ h => h.1) (fun _ _ _ ht hu h => getsToken_of_ensured ht hu h)
    fun _ => ⟨rfl, fun _ => nofun⟩

lemma safe_other {outcome : α → Outcome} (hother : ∀ a token, outcome a ≠ .token token)
    (h : SafeCall origin strict p (fun locked _ _ => locked = false) body false s) :
    SafeCall origin strict p (Ended strict s) (do return outcome (← body)) false s := by
  refine safe_seq h ?_ ?_
  · rintro locked t a rfl
    exact ⟨rfl, fun _ token htoken => absurd (Except.ok.inj htoken) (hother a token)⟩
  · rintro locked t thrown rfl
    exact ⟨rfl, fun _ => nofun⟩

lemma safe_token {body : Session String}
    (h : SafeCall origin strict p (GetsToken strict s) body false s) :
    SafeCall origin strict p (Ended strict s) (do return .token (← body)) false s := by
  refine safe_seq h ?_ ?_
  · rintro locked t token ⟨rfl, hissued⟩
    refine ⟨rfl, fun hstrict token' heq => ?_⟩
    cases heq
    exact hissued hstrict token rfl
  · rintro locked t thrown ⟨rfl, -⟩
    exact ⟨rfl, fun _ => nofun⟩

lemma safe_locked
    (h : ∀ t, Ordered t → Settled t → SafeCall origin strict p (Held Left) body true t) :
    SafeCall origin strict p (fun locked _ _ => locked = false) (withRecordLock body) false s :=
  safe_withRecordLock h (fun _ _ h => h) (fun _ _ _ _ _ _ => rfl) fun _ => rfl

lemma safe_resolveProfile :
    SafeCall origin strict p (fun locked _ _ => locked = false) (resolveProfile o) false s := by
  refine safe_seq safe_waitForPendingLogin ?_ fun locked t thrown h => h.1
  rintro locked t _ ⟨rfl, -⟩
  refine safe_locked fun u hu hfree => ?_
  refine safe_tryCatch (safe_resolveProfileLocked hu hfree) (fun _ _ _ h => h) ?_
  rintro locked v thrown ⟨rfl, hv, hfree⟩
  by_cases hthrown : thrown = .typed .authenticationRequired
  · rw [if_pos hthrown]
    refine safe_seq (safe_invalidateLocked hv) ?_ ?_
    · rintro locked w _ ⟨rfl, hw, -, hfree, -⟩
      exact ⟨rfl, hw, hfree⟩
    · rintro locked w _ ⟨-, -, hnone, -⟩
      cases hnone
  · rw [if_neg hthrown]
    exact ⟨rfl, hv, hfree⟩

lemma safe_storeProfile {validated : Option CachedUserProfile} :
    SafeCall origin strict p (fun locked _ _ => locked = false) (storeProfile o validated)
      false s := by
  cases validated with
  | none => exact rfl
  | some profile =>
    refine safe_locked fun t ht hfree => ?_
    refine safe_seq (safe_readRecord ht) ?_ ?_
    · rintro locked u found ⟨rfl, -, rfl, hnone | ⟨record, hfound, hrecord, -⟩⟩
      · cases hnone
        exact ⟨rfl, ht, hfree⟩
      · cases hfound
        refine (safe_storeProfileLocked ht hfree hrecord).mono ?_
        rintro locked v result ⟨rfl, hv, hleft, -⟩
        exact ⟨rfl, hv, hleft⟩
    · rintro locked u thrown ⟨-, -, -, hnone | ⟨record, hfound, -⟩⟩
      · cases hnone
      · cases hfound

/-- **Every call is safe**, whatever state the other calls leave meanwhile. -/
theorem safe_call (method : Method) :
    SafeCall origin strict p (Ended strict s) (call o method) false s := by
  cases method with
  | ensureAccessToken => exact safe_token safe_ensureAccessToken
  | refreshAccessToken => exact safe_token safe_refreshAccessToken
  | establish accessToken refreshCredential expiresAt =>
    exact safe_other (fun _ _ => nofun)
      (safe_locked fun t ht _ => safe_establishLocked ht)
  | logout =>
    refine safe_other (fun _ _ => nofun) (safe_locked fun t ht _ => ?_)
    refine (safe_logoutLocked ht).mono ?_
    rintro locked u result ⟨rfl, hu, hfree, -⟩
    exact ⟨rfl, hu, hfree⟩
  | invalidate =>
    refine safe_other (fun _ _ => nofun) (safe_locked fun t ht _ => ?_)
    refine (safe_invalidateLocked ht).mono ?_
    rintro locked u result ⟨rfl, hu, -, hfree, -⟩
    exact ⟨rfl, hu, hfree⟩
  | resolveProfile => exact safe_other (fun _ _ => nofun) safe_resolveProfile
  | storeProfile validated => exact safe_other (fun _ _ => nofun) safe_storeProfile
  | waitForLogin =>
    exact safe_unlocked (exec_reads (by simp)) fun t _ _ => ⟨rfl, fun _ => nofun⟩

/-! ### Credentials rotate -/

/-- The launchers of a service. -/
abbrev Launchers (Process : Type) :=
  System Process (Shared Process) (Process → Bool) (Except Thrown Outcome) Request Request.Reply

/-- Nothing has started; the store holds a credential that was issued, or nothing. -/
def started (store : Option SessionRecord) : Launchers Process where
  shared :=
    { store
      issued := store.toList.map fun record => ⟨record.durableCredential, none, 0⟩
      sessions := 1
      session := store.map fun _ => 0 }
  rest := fun _ => false

omit [DecidableEq Process] in
lemma ordered_started (store : Option SessionRecord) :
    Ordered (started store : Launchers Process).shared where
  once := by cases store <;> simp [started]
  sessions := by
    intro issue hissue
    obtain ⟨record, -, rfl⟩ := List.mem_map.mp hissue
    exact Nat.one_pos
  cached := nofun
  stored := by
    intro record hrecord
    obtain rfl : store = some record := hrecord
    exact ⟨_, List.mem_singleton_self _, rfl, rfl⟩
  absent := by
    intro hnone
    obtain rfl : store = none := hnone
    rfl
  refreshed := nofun
  rotated := List.Pairwise.nil

omit [DecidableEq Process] in
lemma settled_started (store : Option SessionRecord) :
    Settled (started store : Launchers Process).shared where
  latest := by
    intro record hrecord
    obtain rfl : store = some record := hrecord
    rfl
  unspent := nofun

lemma sound_run {store : Option SessionRecord} {moves : List (Move Process Method Answer)}
    (h : Along (System.step (launchers origin)) (Allowed (rules strict)) (started store) moves) :
    Sound (launchers origin) (rules strict) (fun _ locked _ _ => locked = false)
      (run (System.step (launchers origin)) (started store) moves) := by
  refine (Sound.initial (ordered_started store) (settled_started store)).run ?_ h
  intro id q method t _ _
  exact (safe_call method).mono fun _ _ _ hended => hended.1

end

/-- **Credentials rotate**: over every interleaving of calls, no credential is passed to `refresh`
after a refresh of it returned successfully, and when no call is under way the record, if there is
one, holds the credential issued last. -/
theorem credentials_rotate [DecidableEq Process] {origin : Process → String}
    {store : Option SessionRecord} {moves : List (Move Process Method Answer)}
    (h : Along (System.step (launchers origin)) (Allowed (rules False)) (started store) moves) :
    ((run (System.step (launchers origin)) (started store) moves).shared.refreshes.Pairwise
        fun later earlier => earlier.2 = true → earlier.1 ≠ later.1) ∧
      ((run (System.step (launchers origin)) (started store) moves).Idle → ∀ record,
        (run (System.step (launchers origin)) (started store) moves).shared.store = some record →
        (run (System.step (launchers origin)) (started store) moves).shared.issued.head?.map
          Issue.credential = some record.durableCredential) := by
  have hsound := sound_run h
  refine ⟨hsound.always.rotated, fun hidle => ?_⟩
  exact (hsound.free_of_idle hidle fun _ _ _ => nofun).latest

/-- One process logs in, and another refreshes the credential. -/
def rotation : List (Move Bool Method Answer) :=
  [.start true (.establish "access" "credential" 0), .advance 0 .nothing,
    .advance 0 (.written true), .advance 0 .nothing, .advance 0 .nothing, .advance 0 .nothing,
    .start false .ensureAccessToken, .advance 1 (.now 0), .advance 1 (.now 0), .advance 1 .nothing,
    .advance 1 .nothing, .advance 1 .nothing, .advance 1 (.now 0),
    .advance 1 (.refreshed (.ok ⟨"access'", "credential'", none⟩)), .advance 1 (.written true),
    .advance 1 .nothing, .advance 1 (.now 0), .advance 1 .nothing, .advance 1 .nothing]

lemma rotation_considered :
    Along (System.step (launchers fun _ => "origin")) (Allowed (rules False)) (started none)
      rotation := by
  refine ⟨trivial, ?_, ?_, ?_, ?_, ?_, trivial, ?_, ?_, ?_, ?_, ?_, ?_, ?_, ?_, ?_, ?_, ?_, ?_,
    trivial⟩ <;> rintro thread r next hthread hprog <;> cases hthread <;> cases hprog
  all_goals first
    | trivial
    | exact nofun

theorem rotation_rotates :
    ((run (System.step (launchers fun _ => "origin")) (started none) rotation).shared.refreshes.Pairwise
        fun later earlier => earlier.2 = true → earlier.1 ≠ later.1) ∧
      ((run (System.step (launchers fun _ => "origin")) (started none) rotation).Idle → ∀ record,
        (run (System.step (launchers fun _ => "origin")) (started none) rotation).shared.store =
          some record →
        (run (System.step (launchers fun _ => "origin")) (started none)
          rotation).shared.issued.head?.map Issue.credential = some record.durableCredential) :=
  credentials_rotate rotation_considered

end LauncherSession
end SmeDataCenter
