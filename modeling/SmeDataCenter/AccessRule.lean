import SmeDataCenter.BusinessAuthorization

/-!
# The access rule

`Readable` states what a read needs, with no order of checks and no reasons for a denial: it is
what the two implementations of the rule, the domain function and the compiled predicate, are
both measured against. Here the domain function is.
-/

namespace SmeDataCenter
namespace AuthorizedScope

/-- The account and its organisation are in a state in which anything can be read. -/
def Active (snapshot : AuthorizationSnapshot) : Prop :=
  snapshot.disabled = false ∧ snapshot.mode = .enabled ∧
    isBusinessClearance snapshot.clearance = true

/-- The category lets the account read the resource. -/
structure ReadableIn (snapshot : AuthorizationSnapshot) (requirement : ResourceReadRequirement)
    (category : BusinessCategoryRule) : Prop where
  category_eq : category.id = requirement.categoryId
  cleared : ∃ level, resourceLevel category requirement = some level ∧ 0 ≤ level ∧
    level ≤ snapshot.clearance
  shaped : ∀ scope ∈ requirement.scopes, validateBusinessScope scope category = true
  granted : ∀ scope ∈ requirement.scopes,
    ∃ grant ∈ snapshot.validGrants, grantCovers category scope grant = true

/-- The resource is readable: a valid resource of the same organisation, with at least one
scope, in a category that lets the account read it. -/
structure Readable (snapshot : AuthorizationSnapshot) (requirement : ResourceReadRequirement) :
    Prop where
  active : Active snapshot
  organization : snapshot.orgId = requirement.orgId
  valid : requirement.valid = true
  scopes_ne : requirement.scopes ≠ []
  category : ∃ category ∈ snapshot.categories, ReadableIn snapshot requirement category

lemma find_category (snapshot : AuthorizationSnapshot) {category : BusinessCategoryRule}
    (h : category ∈ snapshot.categories) :
    (snapshot.categories.find? fun rule => rule.id = category.id) = some category := by
  have hnd := snapshot.categories_nodup
  generalize snapshot.categories = rules at h hnd
  induction rules with
  | nil => simp at h
  | cons rule rules ih =>
    simp only [List.map_cons, List.nodup_cons, List.mem_map, not_exists, not_and] at hnd
    rcases List.mem_cons.mp h with rfl | h'
    · simp
    · have hne : rule.id ≠ category.id := fun e => hnd.1 category h' e.symm
      simp [hne, ih h' hnd.2]

/-- The domain function decides `Readable`. -/
theorem canReadResource_allowed_iff (snapshot : AuthorizationSnapshot)
    (requirement : ResourceReadRequirement) :
    canReadResource snapshot requirement = .allowed ↔ Readable snapshot requirement := by
  constructor
  · intro h
    unfold canReadResource at h
    split_ifs at h with hdisabled horg hmode hvalid
    split at h
    · cases h
    rename_i category hfind
    have hmem := List.mem_of_find?_eq_some hfind
    have hid := List.find?_some hfind
    split at h
    · cases h
    rename_i hscopes
    split at h
    · cases h
    rename_i level hlevel
    split_ifs at h with hclear hlt hgrants
    simp only [Bool.or_eq_true, decide_eq_true_eq, List.any_eq_true, not_or, not_exists, not_and,
      Bool.not_eq_true', Bool.not_eq_false, List.all_eq_true, List.length_eq_zero_iff]
      at hid hscopes hclear hgrants
    obtain ⟨hl0, -⟩ : 0 ≤ level ∧ level ≤ 3 := by
      simpa [isBusinessClearance] using hclear.1
    exact ⟨⟨by simpa using hdisabled, by simpa using hmode, hclear.2⟩, by simpa using horg,
      by simpa using hvalid, hscopes.1, category, hmem, hid,
      ⟨level, hlevel, hl0, by omega⟩, hscopes.2, hgrants⟩
  · rintro ⟨⟨hdisabled, hmode, hclear⟩, horg, hvalid, hne, category, hmem, hin⟩
    have hfind := find_category snapshot hmem
    rw [hin.category_eq] at hfind
    obtain ⟨level, hlevel, hl0, hl⟩ := hin.cleared
    have hcl : isBusinessClearance level = true := by
      simp only [isBusinessClearance, Bool.and_eq_true, decide_eq_true_eq] at hclear ⊢
      omega
    have hscopes : (decide (requirement.scopes.length = 0) ||
        requirement.scopes.any fun scope => !validateBusinessScope scope category) = false := by
      simpa [hne] using hin.shaped
    have hgrants : (requirement.scopes.all fun scope =>
        snapshot.validGrants.any fun grant => grantCovers category scope grant) = true := by
      simpa using hin.granted
    unfold canReadResource
    rw [if_neg (by simp [hdisabled]), if_neg (by simp [horg]), if_neg (by simp [hmode]),
      if_neg (by simp [hvalid]), hfind]
    simp only [hscopes, hlevel, hcl, hclear, hgrants, Int.not_lt.mpr hl]
    rfl

/-- **Grants do not add up within a scope**: a resource can be read exactly when it has scopes and
each of them, were it the only one, could be read under one of the grants alone. -/
theorem canReadResource_pointwise (snapshot : AuthorizationSnapshot)
    (requirement : ResourceReadRequirement) :
    canReadResource snapshot requirement = .allowed ↔
      requirement.scopes ≠ [] ∧ ∀ scope ∈ requirement.scopes, ∃ grant ∈ snapshot.grants,
        canReadResource { snapshot with grants := [grant] }
          { requirement with scopes := [scope] } = .allowed := by
  simp only [canReadResource_allowed_iff]
  constructor
  · rintro ⟨hactive, horg, hvalid, hne, category, hmem, hin⟩
    refine ⟨hne, fun scope hscope => ?_⟩
    obtain ⟨grant, hgrant, hcovers⟩ := hin.granted scope hscope
    obtain ⟨hown, hgood⟩ := List.mem_filter.mp hgrant
    refine ⟨grant, hown, hactive, horg, hvalid, by simp, category, hmem, hin.category_eq,
      hin.cleared, List.forall_mem_singleton.mpr (hin.shaped scope hscope),
      List.forall_mem_singleton.mpr ⟨grant, ?_, hcovers⟩⟩
    exact List.mem_filter.mpr ⟨List.mem_singleton_self grant, hgood⟩
  · rintro ⟨hne, hscopes⟩
    obtain ⟨first, hfirst⟩ := List.exists_mem_of_ne_nil _ hne
    obtain ⟨_, -, hactive, horg, hvalid, -, category, hmem, hin⟩ := hscopes first hfirst
    -- the category of a resource is found by its key, so that all its scopes are in the same one
    have hsame : ∀ scope ∈ requirement.scopes, validateBusinessScope scope category = true ∧
        ∃ grant ∈ snapshot.validGrants, grantCovers category scope grant = true := by
      intro scope hscope
      obtain ⟨grant, hgrant, -, -, -, -, category', hmem', hin'⟩ := hscopes scope hscope
      have hfind := find_category snapshot hmem
      rw [hin.category_eq, ← hin'.category_eq, find_category snapshot hmem'] at hfind
      obtain rfl := Option.some.inj hfind
      obtain ⟨granted, hvalidGrant, hcovers⟩ := hin'.granted scope (List.mem_singleton_self scope)
      obtain ⟨hone, hgood⟩ := List.mem_filter.mp hvalidGrant
      obtain rfl := List.mem_singleton.mp hone
      exact ⟨hin'.shaped scope (List.mem_singleton_self scope), granted,
        List.mem_filter.mpr ⟨hgrant, hgood⟩, hcovers⟩
    exact ⟨hactive, horg, hvalid, hne, category, hmem, hin.category_eq, hin.cleared,
      fun scope hscope => (hsame scope hscope).1, fun scope hscope => (hsame scope hscope).2⟩

end AuthorizedScope
end SmeDataCenter
