import SmeDataCenter.AuthorizationTables
import SmeDataCenter.CostCards
import SmeDataCenter.Grouping
import SmeDataCenter.StructuredPartitions

/-!
# Scopes of a source

A source is published for the stores that its rows name. A row without a store stops the
publication, and so does a ledger with two stores; otherwise there is one scope for each store,
whatever the order of the rows. What becomes of the partition that was there before is decided by the
checksums, and by the columns beside them.
-/

namespace SmeDataCenter
namespace Import

open Fallible Grouping
open StructuredQuery (StructuredDatasetName)

/-! ### Scopes -/

/-- `FIXED_BUSINESS_CATEGORY_OWNERSHIP[dataset]` -/
def ownershipOf (dataset : StructuredDatasetName) : Option BusinessOwnership :=
  AuthorizationWrites.fixedBusinessCategoryOwnership.lookup dataset.text

/-- The store of a row. -/
def sourceStore (payload : Payload) : Except String String :=
  match payload.get "store_name" with
  | some (.text storeName) =>
    if trimText storeName = "" then .error "RESOURCE_ATTRIBUTES_NOT_READY" else .ok storeName
  | _ => .error "RESOURCE_ATTRIBUTES_NOT_READY"

def storeScope (enterpriseKey storeName : String) : BusinessScopeItem where
  enterpriseKey
  ownership := .store
  storeName := some storeName
  dimensions := ∅

/-- `scopes.set(storeName, ..)` -/
def setScope (enterpriseKey : String) (scopes : List (String × BusinessScopeItem))
    (storeName : String) : List (String × BusinessScopeItem) :=
  Grouping.addRow id Prod.fst (fun _ name => (name, storeScope enterpriseKey name)) scopes
    storeName

def addSourceScope (enterpriseKey : String) (scopes : List (String × BusinessScopeItem))
    (payload : Payload) : Except String (List (String × BusinessScopeItem)) := do
  let storeName ← sourceStore payload
  return setScope enterpriseKey scopes storeName

def deriveStructuredSourceScopes (dataset : StructuredDatasetName) (enterpriseKey : String)
    (rows : List Payload) : Except String (List BusinessScopeItem) :=
  if rows = [] then .error "SOURCE_HAS_NO_PARSED_ROWS"
  else if enterpriseKey = "" then .error "RESOURCE_ATTRIBUTES_NOT_READY"
  else match ownershipOf dataset with
    | none => .error "RESOURCE_CATEGORY_NOT_CONFIGURED"
    | some .group => .ok [⟨enterpriseKey, .group, none, ∅⟩]
    | some .store => do
      let scopes ← rows.foldlM (addSourceScope enterpriseKey) []
      if dataset = .deliveryLedger ∧ scopes.length ≠ 1 then
        throw "RESOURCE_SINGLE_STORE_REQUIRED"
      else return scopes.map (·.2)

/-- A row names no store. -/
def NamesNoStore (payload : Payload) : Prop :=
  ∀ storeName, payload.get "store_name" = some (.text storeName) → trimText storeName = ""

lemma sourceStore_ok {payload : Payload} {storeName : String} :
    sourceStore payload = .ok storeName ↔
      payload.get "store_name" = some (.text storeName) ∧ trimText storeName ≠ "" := by
  unfold sourceStore
  split
  · next name hname =>
    rw [hname]
    split
    · next hblank =>
      simp only [reduceCtorEq, Option.some.injEq, PayloadValue.text.injEq, false_iff, not_and,
        not_not]
      rintro rfl
      exact hblank
    · next hne =>
      simp only [Except.ok.injEq, Option.some.injEq, PayloadValue.text.injEq]
      exact ⟨fun h => ⟨h, h ▸ hne⟩, And.left⟩
  · next hother =>
    simp only [reduceCtorEq, false_iff, not_and]
    exact fun h => absurd h (hother storeName)

lemma sourceStore_error {payload : Payload} :
    (∀ storeName, sourceStore payload ≠ .ok storeName) ↔ NamesNoStore payload := by
  simp only [ne_eq, sourceStore_ok, not_and, not_not]
  exact Iff.rfl

section

variable {enterpriseKey : String} {rows : List Payload}

lemma foldlM_addSourceScope (scopes : List (String × BusinessScopeItem)) :
    rows.foldlM (addSourceScope enterpriseKey) scopes =
      (rows.mapM sourceStore).map fun names => names.foldl (setScope enterpriseKey) scopes := by
  induction rows generalizing scopes with
  | nil => rfl
  | cons row rows ih =>
    rw [List.foldlM_cons, List.mapM_cons, addSourceScope]
    cases sourceStore row with
    | error code => rfl
    | ok name =>
      dsimp only [bind, Except.bind, pure, Except.pure]
      rw [ih]
      cases rows.mapM sourceStore <;> rfl

/-- The scopes of some stores: one for each of them. -/
def scopesOf (enterpriseKey : String) (names : List String) : List (String × BusinessScopeItem) :=
  grouped id Prod.fst (fun _ name => (name, storeScope enterpriseKey name)) names

lemma scopesOf_keeps (enterpriseKey : String) :
    KeepsKey id (Prod.fst : String × BusinessScopeItem → String)
      (fun _ name => (name, storeScope enterpriseKey name)) := fun _ _ _ => rfl

variable {names : List String}

lemma scopesOf_entry {entry : String × BusinessScopeItem} (h : entry ∈ scopesOf enterpriseKey names)
    : entry.1 ∈ names ∧ entry = (entry.1, storeScope enterpriseKey entry.1) := by
  have hkeys := (mem_keys (scopesOf_keeps enterpriseKey)).mp (List.mem_map_of_mem h)
  obtain ⟨name, hname, hentry⟩ := hkeys
  have hmade := accumulate_of_mem (scopesOf_keeps enterpriseKey) h
  refine ⟨hentry ▸ hname, ?_⟩
  rcases List.eq_nil_or_concat (names.filter fun name => id name = entry.1) with
    hnil | ⟨init, last, hlast⟩
  · rw [hnil] at hmade
    cases hmade
  · have hmem : last ∈ names.filter fun name => id name = entry.1 := by rw [hlast]; simp
    have heq : last = entry.1 := by simpa using (List.mem_filter.mp hmem).2
    rw [hlast, List.concat_eq_append, accumulate_snoc] at hmade
    rw [← Option.some.inj hmade, heq]

lemma mem_scopesOf {scope : BusinessScopeItem} :
    scope ∈ (scopesOf enterpriseKey names).map (·.2) ↔
      ∃ name ∈ names, scope = storeScope enterpriseKey name := by
  constructor
  · intro h
    obtain ⟨entry, hentry, rfl⟩ := List.mem_map.mp h
    obtain ⟨hname, heq⟩ := scopesOf_entry hentry
    exact ⟨entry.1, hname, congrArg Prod.snd heq⟩
  · rintro ⟨name, hname, rfl⟩
    have hkey : name ∈ (scopesOf enterpriseKey names).map Prod.fst :=
      (mem_keys (scopesOf_keeps enterpriseKey)).mpr ⟨name, hname, rfl⟩
    obtain ⟨entry, hentry, rfl⟩ := List.mem_map.mp hkey
    exact List.mem_map.mpr ⟨entry, hentry, congrArg Prod.snd (scopesOf_entry hentry).2⟩

lemma scopesOf_stores (names : List String) :
    ((scopesOf enterpriseKey names).map (·.2)).map (·.storeName) =
      ((scopesOf enterpriseKey names).map Prod.fst).map some := by
  rw [List.map_map, List.map_map]
  refine List.map_congr_left fun entry hentry => ?_
  have heq := (scopesOf_entry hentry).2
  rw [Function.comp_apply, Function.comp_apply]
  exact congrArg (fun entry : String × BusinessScopeItem => entry.2.storeName) heq

lemma scopesOf_nodup (names : List String) :
    (((scopesOf enterpriseKey names).map (·.2)).map (·.storeName)).Nodup := by
  rw [scopesOf_stores]
  exact (nodup_keys (scopesOf_keeps enterpriseKey) names).map (Option.some_injective _)

lemma scopesOf_length_ne_one (hne : names ≠ []) :
    (scopesOf enterpriseKey names).length ≠ 1 ↔ ∃ a ∈ names, ∃ b ∈ names, a ≠ b := by
  have hmem {name : String} :
      name ∈ (scopesOf enterpriseKey names).map Prod.fst ↔ name ∈ names := by
    rw [scopesOf, mem_keys (scopesOf_keeps enterpriseKey)]
    simp
  have hnodup : ((scopesOf enterpriseKey names).map Prod.fst).Nodup :=
    nodup_keys (scopesOf_keeps enterpriseKey) names
  rw [← List.length_map (f := Prod.fst)]
  generalize (scopesOf enterpriseKey names).map Prod.fst = keys at hmem hnodup
  constructor
  · intro hlength
    rcases keys with _ | ⟨a, _ | ⟨b, keys⟩⟩
    · obtain ⟨name, hname⟩ := List.exists_mem_of_ne_nil names hne
      exact absurd (hmem.mpr hname) List.not_mem_nil
    · exact absurd rfl hlength
    · refine ⟨a, hmem.mp (by simp), b, hmem.mp (by simp), ?_⟩
      rintro rfl
      simp at hnodup
  · rintro ⟨a, ha, b, hb, hne⟩ hlength
    obtain ⟨key, rfl⟩ := List.length_eq_one_iff.mp hlength
    have ha' := List.mem_singleton.mp (hmem.mpr ha)
    have hb' := List.mem_singleton.mp (hmem.mpr hb)
    exact hne (ha'.trans hb'.symm)

variable {dataset : StructuredDatasetName}

variable {scopes : List BusinessScopeItem}

lemma deriveStructuredSourceScopes_ok (hrows : rows ≠ [])
    (hownership : ownershipOf dataset = some .store) :
    deriveStructuredSourceScopes dataset enterpriseKey rows = .ok scopes ↔
      enterpriseKey ≠ "" ∧ ∃ names, rows.mapM sourceStore = .ok names ∧
        ¬ (dataset = .deliveryLedger ∧ (scopesOf enterpriseKey names).length ≠ 1) ∧
        (scopesOf enterpriseKey names).map (·.2) = scopes := by
  unfold deriveStructuredSourceScopes
  rw [if_neg hrows, hownership]
  by_cases hkey : enterpriseKey = ""
  · simp [hkey]
  · rw [if_neg hkey, foldlM_addSourceScope]
    cases rows.mapM sourceStore with
    | error code => simp [Except.map, bind, Except.bind]
    | ok names =>
      have hfold : names.foldl (setScope enterpriseKey) [] = scopesOf enterpriseKey names := rfl
      simp only [Except.map, bind, Except.bind, hfold]
      by_cases hledger : dataset = .deliveryLedger ∧ (scopesOf enterpriseKey names).length ≠ 1
      · simp [hledger, throw, throwThe, MonadExceptOf.throw]
      · rw [if_neg hledger]
        simp only [ne_eq, hkey, not_false_eq_true, true_and, pure, Except.pure, Except.ok.injEq,
          exists_eq_left', hledger]

lemma mapM_sourceStore_ok (h : rows.mapM sourceStore = .ok names) {name : String} :
    name ∈ names ↔ ∃ row ∈ rows, row.get "store_name" = some (.text name) := by
  constructor
  · intro hname
    obtain ⟨row, hrow, hstore⟩ := exists_of_mapM h hname
    exact ⟨row, hrow, (sourceStore_ok.mp hstore).1⟩
  · rintro ⟨row, hrow, hget⟩
    obtain ⟨other, hother, hstore⟩ := mapM_of_mem h hrow
    rw [(sourceStore_ok.mp hstore).1] at hget
    obtain rfl := PayloadValue.text.inj (Option.some.inj hget)
    exact hother

lemma mapM_sourceStore_iff :
    (∃ names, rows.mapM sourceStore = .ok names) ↔ ∀ row ∈ rows, ¬ NamesNoStore row := by
  have hrow (row : Payload) (name : String) : sourceStore row = .ok name ↔
      ¬ NamesNoStore row ∧ ((row.get "store_name").bind PayloadValue.text?).getD "" = name := by
    rw [← sourceStore_error, not_forall_not]
    constructor
    · intro h
      refine ⟨⟨name, h⟩, ?_⟩
      rw [(sourceStore_ok.mp h).1]
      rfl
    · rintro ⟨⟨other, hother⟩, rfl⟩
      rw [(sourceStore_ok.mp hother).1]
      exact hother
  simp only [mapM_ok_iff hrow, exists_and_left, exists_eq', and_true]

/-- The scopes are not derived exactly if a row names no store, or a ledger names two, or the
enterprise has no key. -/
lemma deriveStructuredSourceScopes_fails (hrows : rows ≠ [])
    (hownership : ownershipOf dataset = some .store) :
    (∃ code, deriveStructuredSourceScopes dataset enterpriseKey rows = .error code) ↔
      enterpriseKey = "" ∨ (∃ row ∈ rows, NamesNoStore row) ∨
        (dataset = .deliveryLedger ∧ ∃ row ∈ rows, ∃ other ∈ rows, ∃ a b,
          row.get "store_name" = some (.text a) ∧ other.get "store_name" = some (.text b) ∧
            a ≠ b) := by
  have hfails : (∃ code, deriveStructuredSourceScopes dataset enterpriseKey rows = .error code) ↔
      ¬ ∃ scopes, deriveStructuredSourceScopes dataset enterpriseKey rows = .ok scopes := by
    cases deriveStructuredSourceScopes dataset enterpriseKey rows <;> simp
  rw [hfails]
  simp only [deriveStructuredSourceScopes_ok hrows hownership]
  by_cases hkey : enterpriseKey = ""
  · simp [hkey]
  by_cases hstore : ∃ row ∈ rows, NamesNoStore row
  · have hnone : ¬ ∃ names, rows.mapM sourceStore = .ok names := by
      rw [mapM_sourceStore_iff]
      obtain ⟨row, hrow, hnone⟩ := hstore
      exact fun hall => hall row hrow hnone
    simp only [hkey, hstore, true_or, or_true, iff_true]
    rintro ⟨scopes, -, names, hnames, -⟩
    exact hnone ⟨names, hnames⟩
  · obtain ⟨names, hnames⟩ := mapM_sourceStore_iff.mpr fun row hrow hnone =>
      hstore ⟨row, hrow, hnone⟩
    have hne : names ≠ [] := by
      rintro rfl
      exact hrows (List.length_eq_zero_iff.mp (mapM_ok.mp hnames).length_eq)
    have htwo : (scopesOf enterpriseKey names).length ≠ 1 ↔
        ∃ row ∈ rows, ∃ other ∈ rows, ∃ a b, row.get "store_name" = some (.text a) ∧
          other.get "store_name" = some (.text b) ∧ a ≠ b := by
      rw [scopesOf_length_ne_one hne]
      simp only [mapM_sourceStore_ok hnames]
      constructor
      · rintro ⟨a, ⟨row, hrow, ha⟩, b, ⟨other, hother, hb⟩, hab⟩
        exact ⟨row, hrow, other, hother, a, b, ha, hb, hab⟩
      · rintro ⟨row, hrow, other, hother, a, b, ha, hb, hab⟩
        exact ⟨a, ⟨row, hrow, ha⟩, b, ⟨other, hother, hb⟩, hab⟩
    rw [← htwo]
    simp [hkey, hstore, hnames]

lemma deriveStructuredSourceScopes_exact (hrows : rows ≠ [])
    (hownership : ownershipOf dataset = some .store)
    (h : deriveStructuredSourceScopes dataset enterpriseKey rows = .ok scopes) :
    (scopes.map (·.storeName)).Nodup ∧ ∀ scope, scope ∈ scopes ↔ ∃ row ∈ rows, ∃ name,
      row.get "store_name" = some (.text name) ∧ scope = storeScope enterpriseKey name := by
  obtain ⟨-, names, hnames, -, rfl⟩ := (deriveStructuredSourceScopes_ok hrows hownership).mp h
  refine ⟨scopesOf_nodup names, fun scope => ?_⟩
  rw [mem_scopesOf]
  simp only [mapM_sourceStore_ok hnames]
  constructor
  · rintro ⟨name, ⟨row, hrow, hname⟩, rfl⟩
    exact ⟨row, hrow, name, hname, rfl⟩
  · rintro ⟨row, hrow, name, hname, rfl⟩
    exact ⟨name, ⟨row, hrow, hname⟩, rfl⟩

lemma deriveStructuredSourceScopes_perm (hrows : rows ≠ [])
    (hownership : ownershipOf dataset = some .store) {rows' : List Payload}
    (hperm : rows.Perm rows')
    (h : deriveStructuredSourceScopes dataset enterpriseKey rows = .ok scopes) :
    ∃ scopes', deriveStructuredSourceScopes dataset enterpriseKey rows' = .ok scopes' ∧
      scopes.Perm scopes' := by
  have hrows' : rows' ≠ [] := fun hnil => hrows (List.perm_nil.mp (hnil ▸ hperm))
  cases hderived : deriveStructuredSourceScopes dataset enterpriseKey rows' with
  | error code =>
    have hfails := (deriveStructuredSourceScopes_fails hrows' hownership).mp ⟨code, hderived⟩
    simp only [← hperm.mem_iff] at hfails
    obtain ⟨code', hcode⟩ := (deriveStructuredSourceScopes_fails hrows hownership).mpr hfails
    rw [hcode] at h
    cases h
  | ok scopes' =>
    obtain ⟨hnodup, hmem⟩ := deriveStructuredSourceScopes_exact hrows hownership h
    obtain ⟨hnodup', hmem'⟩ := deriveStructuredSourceScopes_exact hrows' hownership hderived
    refine ⟨scopes', rfl, (List.perm_ext_iff_of_nodup hnodup.of_map hnodup'.of_map).mpr
      fun scope => ?_⟩
    simp only [hmem, hmem', hperm.mem_iff]

end

/-! ### Replacements -/

/-- The columns of a partition that are compared agree. -/
structure SameMetadata (current : StructuredPartition) (candidate : PartitionCandidate) : Prop where
  orderScope : effectiveOrderScope candidate.dataset current.orderScope =
    effectiveOrderScope candidate.dataset candidate.orderScope
  confidentialityLevel : current.confidentialityLevel = candidate.confidentialityLevel
  enterpriseName : current.enterpriseName = candidate.enterpriseName
  merchantId : current.merchantId = candidate.merchantId
  storeName : current.storeName = candidate.storeName
  rowCount : current.rowCount = candidate.rowCount
  byteSize : current.byteSize = candidate.byteSize

lemma metadataMatches_iff {current : StructuredPartition} {candidate : PartitionCandidate} :
    metadataMatches current candidate = true ↔ SameMetadata current candidate := by
  simp only [metadataMatches, Bool.and_eq_true, decide_eq_true_eq]
  constructor
  · rintro ⟨⟨⟨⟨⟨⟨h₁, h₂⟩, h₃⟩, h₄⟩, h₅⟩, h₆⟩, h₇⟩
    exact ⟨h₁, h₂, h₃, h₄, h₅, h₆, h₇⟩
  · rintro ⟨h₁, h₂, h₃, h₄, h₅, h₆, h₇⟩
    exact ⟨⟨⟨⟨⟨⟨h₁, h₂⟩, h₃⟩, h₄⟩, h₅⟩, h₆⟩, h₇⟩

/-- There is a partition of the same checksum, of which something holds. -/
def SameChecksum (current : Option StructuredPartition) (candidate : PartitionCandidate)
    (p : StructuredPartition → Prop) : Prop :=
  ∃ partition, current = some partition ∧
    partition.checksumSha256 = candidate.checksumSha256 ∧ p partition

/-- The scopes of a source of a store fail exactly if a row names no store, a ledger names two, or
the enterprise has no key; else there is one for each store that the rows name, in every order of
the rows. The partition that was there before is replaced or kept by the checksums and the columns
beside them, and no object key is lost. -/
theorem sourceScopes_gated :
    (∀ (dataset : StructuredDatasetName) (enterpriseKey : String) (rows : List Payload),
      rows ≠ [] → ownershipOf dataset = some .store →
        ((∃ code, deriveStructuredSourceScopes dataset enterpriseKey rows = .error code) ↔
          enterpriseKey = "" ∨ (∃ row ∈ rows, NamesNoStore row) ∨
            (dataset = .deliveryLedger ∧ ∃ row ∈ rows, ∃ other ∈ rows, ∃ a b,
              row.get "store_name" = some (.text a) ∧ other.get "store_name" = some (.text b) ∧
                a ≠ b)) ∧
        ∀ scopes, deriveStructuredSourceScopes dataset enterpriseKey rows = .ok scopes →
          (scopes.map (·.storeName)).Nodup ∧
          (∀ scope, scope ∈ scopes ↔ ∃ row ∈ rows, ∃ name,
            row.get "store_name" = some (.text name) ∧ scope = storeScope enterpriseKey name) ∧
          ∀ rows' : List Payload, rows.Perm rows' →
            ∃ scopes', deriveStructuredSourceScopes dataset enterpriseKey rows' = .ok scopes' ∧
              scopes.Perm scopes') ∧
    ∀ (current : Option StructuredPartition) (candidate : PartitionCandidate),
      ((decidePartitionReplacement current candidate).action = .insert ↔ current = none) ∧
      ((decidePartitionReplacement current candidate).action = .replace ↔
        ∃ partition, current = some partition ∧
          partition.checksumSha256 ≠ candidate.checksumSha256) ∧
      ((decidePartitionReplacement current candidate).action = .keep ↔
        SameChecksum current candidate fun partition => SameMetadata partition candidate) ∧
      ((decidePartitionReplacement current candidate).action = .updateMetadata ↔
        SameChecksum current candidate fun partition => ¬ SameMetadata partition candidate) ∧
      ((decidePartitionReplacement current candidate).objectKey ::
        (decidePartitionReplacement current candidate).garbageObjectKeys).Perm
          ((current.map (·.objectKey)).toList ++ [candidate.objectKey]) := by
  refine ⟨fun dataset enterpriseKey rows hrows hownership => ⟨?_, fun scopes h => ?_⟩,
    fun current candidate => ?_⟩
  · exact deriveStructuredSourceScopes_fails hrows hownership
  · obtain ⟨hnodup, hmem⟩ := deriveStructuredSourceScopes_exact hrows hownership h
    exact ⟨hnodup, hmem, fun rows' hperm =>
      deriveStructuredSourceScopes_perm hrows hownership hperm h⟩
  · unfold decidePartitionReplacement SameChecksum
    cases current with
    | none => simp
    | some partition =>
      by_cases hchecksum : partition.checksumSha256 = candidate.checksumSha256
      · by_cases hmatches : metadataMatches partition candidate = true
        · simp [hchecksum, hmatches, metadataMatches_iff.mp hmatches]
        · have hother : ¬ SameMetadata partition candidate := fun h =>
            hmatches (metadataMatches_iff.mpr h)
          simp [hchecksum, hmatches, hother]
      · simp [hchecksum, List.Perm.swap]

/-- A row of one store. -/
def storeRow (storeName : String) : Payload := [("store_name", .text storeName)]

theorem two_stores_scoped :
    ∃ scopes, deriveStructuredSourceScopes .business "e"
        [storeRow "b", storeRow "a", storeRow "b"] = .ok scopes ∧
      (scopes.map (·.storeName)).Nodup := by
  have hspec := sourceScopes_gated.1 .business "e" [storeRow "b", storeRow "a", storeRow "b"]
    (by decide) (by decide)
  exact ⟨_, rfl, (hspec.2 _ rfl).1⟩

/-- A source of an enterprise without a key fails though its rows name their store. -/
theorem empty_key_fails : ¬ ∀ (dataset : StructuredDatasetName) (enterpriseKey : String)
    (rows : List Payload), rows ≠ [] → ownershipOf dataset = some .store →
      ((∃ code, deriveStructuredSourceScopes dataset enterpriseKey rows = .error code) ↔
        (∃ row ∈ rows, NamesNoStore row) ∨
          (dataset = .deliveryLedger ∧ ∃ row ∈ rows, ∃ other ∈ rows, ∃ a b,
            row.get "store_name" = some (.text a) ∧ other.get "store_name" = some (.text b) ∧
              a ≠ b)) := by
  intro h
  rcases (h .business "" [storeRow "a"] (by decide) (by decide)).mp ⟨_, rfl⟩ with
    ⟨row, hrow, hnone⟩ | ⟨hledger, -⟩
  · obtain rfl := List.mem_singleton.mp hrow
    exact absurd (hnone "a" rfl) (by decide)
  · cases hledger

end Import
end SmeDataCenter
