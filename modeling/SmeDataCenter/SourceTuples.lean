import SmeDataCenter.AuthorizationTables
import SmeDataCenter.GreedyMatching

/-!
# The tuples of a source

A source keeps its scopes when it is enriched: each of them gets dimensions that it did not have,
and none disappears or stands twice. The check goes through the scopes once and takes for each the
first that extends it.
-/

namespace SmeDataCenter
namespace AuthorizationWrites

open GreedyMatching

/-- What a scope says is said by the other, which may have more dimensions. -/
structure Extends (scope candidate : BusinessScopeItem) : Prop where
  enterpriseKey : candidate.enterpriseKey = scope.enterpriseKey
  ownership : candidate.ownership = scope.ownership
  storeName : candidate.storeName = scope.storeName
  dimensions : ∀ id value, scope.dimensions.lookup id = some value →
    candidate.dimensions.lookup id = some value

/-- The scopes have one set of dimensions, with what values ever. -/
def ShareDimensions (scopes : List BusinessScopeItem) : Prop :=
  ∀ scope ∈ scopes, ∀ other ∈ scopes, ∀ id, id ∈ scope.dimensions ↔ id ∈ other.dimensions

lemma mem_entries {record : Record String} {id value : String} :
    (⟨id, value⟩ : Sigma fun _ : String => String) ∈ record.entries ↔
      record.lookup id = some value :=
  (List.mem_dlookup_iff record.nodupKeys).symm

lemma enriches_iff {scope candidate : BusinessScopeItem} :
    enriches scope candidate = true ↔ Extends scope candidate := by
  have hdimensions : (scope.dimensions.entries.all fun entry =>
      candidate.dimensions.lookup entry.1 = some entry.2) = true ↔
      ∀ id value, scope.dimensions.lookup id = some value →
        candidate.dimensions.lookup id = some value := by
    simp only [List.all_eq_true, decide_eq_true_eq]
    constructor
    · intro h id value hvalue
      exact h ⟨id, value⟩ (mem_entries.mpr hvalue)
    · intro h entry hentry
      exact h entry.1 entry.2 (mem_entries.mp hentry)
  simp only [enriches, Bool.and_eq_true, decide_eq_true_eq, hdimensions]
  constructor
  · rintro ⟨⟨⟨henterprise, hownership⟩, hstore⟩, hall⟩
    exact ⟨henterprise, hownership, hstore, hall⟩
  · rintro ⟨henterprise, hownership, hstore, hall⟩
    exact ⟨⟨⟨henterprise, hownership⟩, hstore⟩, hall⟩

lemma matchTuples_eq_greedy (previous unmatched : List BusinessScopeItem) :
    matchTuples previous unmatched = greedy enriches previous unmatched := by
  induction previous generalizing unmatched with
  | nil => rfl
  | cons scope previous ih =>
    rw [matchTuples, greedy]
    cases unmatched.findIdx? (enriches scope) with
    | none => rfl
    | some index => exact ih _

lemma Extends.exchange {scope scope' candidate candidate' : BusinessScopeItem}
    (hkeys : ∀ id, id ∈ scope.dimensions ↔ id ∈ scope'.dimensions)
    (h : Extends scope candidate) (h' : Extends scope' candidate)
    (hother : Extends scope candidate') : Extends scope' candidate' := by
  refine ⟨?_, ?_, ?_, fun id value hvalue => ?_⟩
  · rw [hother.enterpriseKey, ← h.enterpriseKey, h'.enterpriseKey]
  · rw [hother.ownership, ← h.ownership, h'.ownership]
  · rw [hother.storeName, ← h.storeName, h'.storeName]
  · have hmem : id ∈ scope'.dimensions := AList.lookup_isSome.mp (by rw [hvalue]; rfl)
    obtain ⟨value', hvalue'⟩ := Option.isSome_iff_exists.mp
      (AList.lookup_isSome.mpr ((hkeys id).mpr hmem))
    have hsame : value' = value := Option.some.inj <|
      (h.dimensions id value' hvalue').symm.trans (h'.dimensions id value hvalue)
    rw [hsame] at hvalue'
    exact hother.dimensions id value hvalue'

/-- The single pass decides whether the scopes can be assigned to the enriched ones. -/
theorem preservesSourceTuples_iff {previous enriched : List BusinessScopeItem}
    (hshare : ShareDimensions previous) :
    preservesSourceTuples previous enriched = true ↔
      previous.length = enriched.length ∧ Assignable Extends previous enriched := by
  have hexchange : Exchangeable (fun scope candidate => enriches scope candidate = true)
      previous := by
    intro scope hscope scope' hscope' candidate h h' candidate' hother
    rw [enriches_iff] at h h' hother ⊢
    exact h.exchange (hshare scope hscope scope' hscope') h' hother
  have hassign : Assignable (fun scope candidate => enriches scope candidate = true) previous
      enriched ↔ Assignable Extends previous enriched := by
    simp only [Assignable, enriches_iff]
  rw [preservesSourceTuples, Bool.and_eq_true, decide_eq_true_eq, matchTuples_eq_greedy]
  refine and_congr_right fun hlength => ?_
  rw [greedy_iff hexchange hlength, hassign]

/-- A scope of a store with the values of its dimensions. -/
def exampleScope (storeName : String) (dimensions : List (String × String)) :
    BusinessScopeItem :=
  ⟨"acme", .store, some storeName, .fromEntries dimensions⟩

/-- Two stores are enriched, and stand in another order. -/
theorem two_stores_enriched :
    [exampleScope "East" [], exampleScope "West" []].length =
        [exampleScope "West" [("brand", "a")], exampleScope "East" [("brand", "b")]].length ∧
      Assignable Extends [exampleScope "East" [], exampleScope "West" []]
        [exampleScope "West" [("brand", "a")], exampleScope "East" [("brand", "b")]] := by
  refine (preservesSourceTuples_iff fun scope hscope other hother id => ?_).mp (by decide +kernel)
  simp only [List.mem_cons, List.not_mem_nil, or_false] at hscope hother
  rcases hscope with rfl | rfl <;> rcases hother with rfl | rfl <;> exact Iff.rfl

end AuthorizationWrites
end SmeDataCenter
