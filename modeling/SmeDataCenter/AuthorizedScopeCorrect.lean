import SmeDataCenter.AuthorizedScopeRows

/-!
# The compiled predicate decides the access rule

Evaluated on the row of a resource, with its scopes and their dimensions in the database, the
compiled predicate is true exactly when the rule lets the resource be read.
-/

namespace SmeDataCenter
namespace AuthorizedScope

open Sql

section Resource

variable {matcher : String → String → Bool} {tables : BusinessTables} {r : BusinessResourceRow}
  {snapshot : AuthorizationSnapshot}

/-- The stored resource as the domain sees it. -/
def requirementOf (tables : BusinessTables) (r : BusinessResourceRow) : ResourceReadRequirement :=
  toResourceReadRequirement (tables.load r)

lemma scopes_requirementOf :
    (requirementOf tables r).scopes = (tables.scopesOf r).map (scopeItem tables) := by
  simp [requirementOf, toResourceReadRequirement, BusinessTables.load, scopeItem]

lemma someScope_holds {cs : List (Condition Value)} :
    Condition.eval matcher tables.database (atResource r) (someScope cs) = .holds ↔
      ∃ s ∈ tables.scopesOf r, ∀ c ∈ cs,
        Condition.eval matcher tables.database (atScope r s) c = .holds := by
  have hs : ∀ s : BusinessResourceScopeRow, Condition.eval matcher tables.database (atScope r s)
      (.all ([.eq (.column "s" "org_id") (.column "r" "org_id"),
        .eq (.column "s" "resource_id") (.column "r" "id")] ++ cs)) = .holds ↔
      (s.orgId = r.orgId ∧ s.resourceId = r.id) ∧ ∀ c ∈ cs,
        Condition.eval matcher tables.database (atScope r s) c = .holds := by
    intro s
    rw [Condition.eval_all_holds]
    simp [Condition.eval, Operand.value, atScope, atResource, Function.update,
      BusinessResourceScopeRow.columns, BusinessResourceRow.columns, and_assoc]
  rw [someScope, Condition.exists_holds, BusinessTables.database_scopes]
  simp only [List.mem_map, exists_exists_and_eq_and, BusinessTables.scopesOf, List.mem_filter,
    decide_eq_true_eq, and_assoc]
  refine exists_congr fun s => and_congr_right fun _ => ?_
  exact (hs s).trans (by simp only [and_assoc])

lemma not_someScope_holds {c : Condition Value} :
    Condition.eval matcher tables.database (atResource r) (.not (someScope [c])) = .holds ↔
      ∀ s ∈ tables.scopesOf r,
        Condition.eval matcher tables.database (atScope r s) c ≠ .holds := by
  have htwo : Condition.eval matcher tables.database (atResource r) (someScope [c]) = .fails ↔
      Condition.eval matcher tables.database (atResource r) (someScope [c]) ≠ .holds := by
    rw [someScope, Condition.exists_fails, Ne, Condition.exists_holds]
    simp
  rw [Condition.eval, Truth.not_holds, htwo, Ne, someScope_holds]
  simp

variable (matcher tables r) in
lemma clearance_iff (category : BusinessCategoryRule) (hclear : isBusinessClearance
    snapshot.clearance = true) :
    (outOfReach snapshot category = false ∧ Condition.eval matcher tables.database (atResource r)
      (clearanceCondition snapshot category) = .holds) ↔
    ∃ level, resourceLevel category (requirementOf tables r) = some level ∧ 0 ≤ level ∧
      level ≤ snapshot.clearance := by
  obtain ⟨-, h3⟩ : 0 ≤ snapshot.clearance ∧ snapshot.clearance ≤ 3 := by
    simpa [isBusinessClearance] using hclear
  unfold outOfReach clearanceCondition resourceLevel
  cases category.kind with
  | evidence =>
    cases hl : r.fileConfidentialityLevel <;>
      simp [Condition.eval, Operand.value, atResource, BusinessResourceRow.columns, nullable,
        Value.between, requirementOf, toResourceReadRequirement, BusinessTables.load, hl]
  | fixed =>
    cases category.confidentialityLevel with
    | none => simp
    | some level =>
      simp only [Condition.eval_always, and_true, Bool.or_eq_false_iff, Bool.not_eq_false',
        decide_eq_false_iff_not, isBusinessClearance, Bool.and_eq_true, decide_eq_true_eq,
        Option.some.injEq, exists_eq_left']
      omega

lemma categoryConditions_iff (hm : MatchesNonBlank matcher) (hclear : isBusinessClearance
    snapshot.clearance = true) (hne : tables.scopesOf r ≠ []) {category : BusinessCategoryRule}
    (hc : category ∈ snapshot.categories) :
    (∃ c ∈ categoryConditions snapshot category,
      Condition.eval matcher tables.database (atResource r) c = .holds) ↔
      ReadableIn snapshot (requirementOf tables r) category := by
  have hid : Condition.eval matcher tables.database (atResource r)
      (isText "r" "category_id" category.id) = .holds ↔
      category.id = (requirementOf tables r).categoryId :=
    isText_holds (by simp [atResource, BusinessResourceRow.columns, requirementOf,
      toResourceReadRequirement, BusinessTables.load])
  have hlevel := clearance_iff matcher tables r category hclear
  have hscopes : (∀ s ∈ tables.scopesOf r, Condition.eval matcher tables.database (atScope r s)
      (.or (.not (shapeCondition category)) (.not (.any ((relevantGrants snapshot category).map
        fun grant => grantCondition grant category)))) ≠ .holds) ↔
      (∀ scope ∈ (requirementOf tables r).scopes, validateBusinessScope scope category = true) ∧
      ∀ scope ∈ (requirementOf tables r).scopes,
        ∃ grant ∈ snapshot.validGrants, grantCovers category scope grant = true := by
    simp only [refused_iff hm hc, scopes_requirementOf, List.forall_mem_map, ← forall₂_and]
  unfold categoryConditions
  split_ifs with hout hrel
  · simp only [List.not_mem_nil, false_and, exists_false, false_iff]
    intro h
    exact absurd (hlevel.mpr h.cleared).1 (by simp [hout])
  · simp only [List.not_mem_nil, false_and, exists_false, false_iff]
    intro h
    -- a resource with a scope needs a grant, and a grant that covers it is relevant
    obtain ⟨s, hs⟩ := List.exists_mem_of_ne_nil _ hne
    obtain ⟨grant, hg, hcovers⟩ := h.granted (scopeItem tables s)
      (scopes_requirementOf ▸ List.mem_map_of_mem hs)
    have hmem : grant ∈ relevantGrants snapshot category := by
      simp only [grantCovers, Bool.and_eq_true] at hcovers
      exact List.mem_filter.mpr ⟨hg, hcovers.1.1.1.2⟩
    rw [List.length_eq_zero_iff.mp hrel] at hmem
    exact absurd hmem List.not_mem_nil
  · simp only [List.mem_singleton, exists_eq_left, Condition.eval_all_holds,
      List.forall_mem_cons, forall_eq, not_someScope_holds, hid, hscopes]
    have hin : outOfReach snapshot category = false := by simpa using hout
    simp only [hin, true_and] at hlevel
    rw [hlevel]
    constructor
    · rintro ⟨h1, h2, h3, h4⟩
      exact ⟨h1, h2, h3, h4⟩
    · rintro ⟨h1, h2, h3, h4⟩
      exact ⟨h1, h2, h3, h4⟩

/-- The predicate decides `Readable` on the stored resource. -/
theorem authorizedCondition_iff (hm : MatchesNonBlank matcher) (snapshot : AuthorizationSnapshot)
    (tables : BusinessTables) (r : BusinessResourceRow) :
    Condition.eval matcher tables.database (atResource r) (authorizedCondition snapshot) = .holds ↔
      Readable snapshot (requirementOf tables r) := by
  have hne : (∃ s, s ∈ tables.scopesOf r) ↔ tables.scopesOf r ≠ [] :=
    ⟨fun ⟨_, h⟩ => List.ne_nil_of_mem h, List.exists_mem_of_ne_nil _⟩
  have hscopes : (∃ s, s ∈ tables.scopesOf r) ↔ (requirementOf tables r).scopes ≠ [] := by
    rw [hne, scopes_requirementOf, Ne, Ne, List.map_eq_nil_iff]
  unfold authorizedCondition
  split_ifs with hoff
  · simp only [Condition.eval_never, reduceCtorEq, false_iff]
    rintro ⟨⟨hd, hmode, hcl⟩, -⟩
    simp [hd, hmode, hcl] at hoff
  have hactive : Active snapshot := by
    simpa [Active, not_or, and_assoc] using hoff
  have horg : Condition.eval matcher tables.database (atResource r)
      (isText "r" "org_id" snapshot.orgId) = .holds ↔
      snapshot.orgId = (requirementOf tables r).orgId :=
    isText_holds (by simp [atResource, BusinessResourceRow.columns, requirementOf,
      toResourceReadRequirement, BusinessTables.load])
  have hvalid : Condition.eval matcher tables.database (atResource r)
      (.eq (.column "r" "valid") (.literal (.int 1))) = .holds ↔
      (requirementOf tables r).valid = true := by
    cases hv : r.valid <;>
      simp [Condition.eval, Operand.value, atResource, BusinessResourceRow.columns,
        requirementOf, toResourceReadRequirement, BusinessTables.load, hv]
  simp only [Condition.eval_all_holds, List.forall_mem_cons, List.not_mem_nil, false_implies,
    implies_true, and_true, horg, hvalid, someScope_holds, hscopes, Condition.eval_any_holds,
    List.mem_flatMap]
  have hcategory : ∀ category ∈ snapshot.categories, (requirementOf tables r).scopes ≠ [] →
      ((∃ c ∈ categoryConditions snapshot category,
        Condition.eval matcher tables.database (atResource r) c = .holds) ↔
        ReadableIn snapshot (requirementOf tables r) category) := fun category hc h =>
    categoryConditions_iff hm hactive.2.2 (hne.mp (hscopes.mpr h)) hc
  constructor
  · rintro ⟨ho, hv, hne, c, ⟨category, hc, hmem⟩, hholds⟩
    exact ⟨hactive, ho, hv, hne, category, hc, (hcategory category hc hne).mp ⟨c, hmem, hholds⟩⟩
  · rintro ⟨-, ho, hv, hne, category, hc, hin⟩
    obtain ⟨c, hmem, hholds⟩ := (hcategory category hc hne).mpr hin
    exact ⟨ho, hv, hne, c, ⟨category, hc, hmem⟩, hholds⟩

end Resource

/-- **The compiled predicate is the access rule**: with its parameters bound by position, it is
true on the row of a resource exactly when the domain function allows the read of the
requirement rebuilt from that row, its scopes and their dimensions. -/
theorem compileAuthorizedScope_holds_iff (matcher : String → String → Bool)
    (hm : MatchesNonBlank matcher) (snapshot : AuthorizationSnapshot) (tables : BusinessTables)
    (r : BusinessResourceRow) :
    ((compileAuthorizedScope snapshot).sql.bind (compileAuthorizedScope snapshot).params).map
        (Condition.eval matcher tables.database (atResource r)) = some .holds ↔
      canReadResource snapshot (toResourceReadRequirement (tables.load r)) = .allowed := by
  rw [compileAuthorizedScope_bind, Option.map_some, Option.some_inj,
    authorizedCondition_iff hm, canReadResource_allowed_iff]
  rfl

/-- One store of one enterprise, read by an account with a grant for it. -/
def exampleSnapshot : AuthorizationSnapshot where
  orgId := "org"
  disabled := false
  clearance := 2
  mode := .enabled
  categories := [⟨"dishes", .fixed, some 1, [.store], ["season"]⟩]
  grants := [⟨"org", "acme", ["dishes"], .store, some (.fixed ["North"]),
    .fromEntries [("season", .all)]⟩]
  categories_nodup := by decide

def exampleTables : BusinessTables where
  scopes := [⟨"org", "r1", "s1", "acme", .store, some "North"⟩]
  dimensions := [⟨"org", "r1", "s1", "season", "summer"⟩]
  dimensions_nodup := by decide

theorem compileAuthorizedScope_holds_store :
    ((compileAuthorizedScope exampleSnapshot).sql.bind
        (compileAuthorizedScope exampleSnapshot).params).map
        (Condition.eval (fun s _ => decide (0 < (trim s).length)) exampleTables.database
          (atResource ⟨"org", "r1", "dishes", true, none⟩)) = some .holds :=
  (compileAuthorizedScope_holds_iff _ (fun _ => by simp) exampleSnapshot exampleTables _).mpr
    (by decide)

end AuthorizedScope
end SmeDataCenter
