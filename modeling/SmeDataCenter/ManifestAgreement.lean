import SmeDataCenter.CostCardAgreement

/-!
# Manifests of published cards

Of a manifest that the server has made, the launcher checks nothing that the catalog and the
snapshot do not give, but for the texts of the selection and the year in which it expires.
-/

namespace SmeDataCenter
namespace CostCardCatalog

open ScriptText EnterpriseNames Fallible

/-! ### Expiry -/

variable {times : List ℤ}

lemma le_earliest {a first : ℤ} : a ≤ earliest first times ↔ ∀ t ∈ first :: times, a ≤ t := by
  unfold earliest
  induction times generalizing first with
  | nil => simp
  | cons t times ih => simp [ih, and_assoc]

lemma earliest_lt {b first : ℤ} : earliest first times < b ↔ ∃ t ∈ first :: times, t < b := by
  rw [← not_iff_not, not_lt, le_earliest]
  simp

/-- The instants of which the manifest has the earliest: the lifetimes of the URLs, by the clock
and by what the URLs themselves say. -/
def expiryTimes (services : ManifestServices) (ttl cards : ℕ) : List ℤ :=
  (secondOf (services.now 0) + ttl * 1000) ::
    (List.range cards).flatMap fun index => ((cardExpiry services ttl index).toOption).getD []

/-- The first of the URLs expires in one of the years 0 to 9999. -/
def FourDigitYear (services : ManifestServices) (ttl cards : ℕ) : Prop :=
  (∀ t ∈ expiryTimes services ttl cards, -62167219200000 ≤ t) ∧
    ∃ t ∈ expiryTimes services ttl cards, t < 253402300800000

lemma mapM_toOption {f : ℕ → Except CostCardError (List ℤ)} {indices : List ℕ}
    {lists : List (List ℤ)} (h : indices.mapM f = .ok lists) :
    lists.flatten = indices.flatMap fun index => ((f index).toOption).getD [] := by
  rw [mapM_ok] at h
  induction h with
  | nil => rfl
  | cons hf _ ih =>
    rw [List.flatten_cons, List.flatMap_cons, ih, hf]
    rfl

/-! ### The manifest -/

variable {nfc : String → String} {services : ManifestServices} {input : CostCardServiceInput}
  {orgId : String} {raw selection : CostCardSelection} {before after : CostCardDirectory}
  {snapshot : CostCardDirectorySnapshot} {manifest : CostCardManifest}

/-- What a manifest is made of. -/
structure MadeOf (services : ManifestServices) (input : CostCardServiceInput)
    (cards : List CostCard) (manifest : CostCardManifest) (fixed : List FixedCard) : Prop where
  rows : List.Forall₂ (fun card fixed => fixedCard card = .ok fixed) cards fixed
  urls : ∀ index < fixed.length, (services.parseUrl (services.downloadUrl index)).isSome = true
  expiry : isIsoDatetime manifest.expiresAt = true ↔
    FourDigitYear services input.ttl fixed.length
  count : manifest.cardCount = fixed.length
  total : manifest.totalItemRowCount = (fixed.map (·.itemRowCount)).sum
  safe : isSafeCount manifest.totalItemRowCount = true
  cards : manifest.cards =
    fixed.zipIdx.map fun card => manifestEntry card.1 (services.downloadUrl card.2)

lemma cardExpiry_url {ttl index : ℕ} (h : cardExpiry services ttl index = .ok times) :
    (services.parseUrl (services.downloadUrl index)).isSome = true := by
  obtain ⟨actual, hactual, -⟩ := bind_ok.mp h
  unfold actualDownloadExpiry at hactual
  split at hactual
  · cases hactual
  · next params hparams => simp [hparams]

lemma createCostCardManifest_madeOf (hparse : parseCostCardSelection raw = .ok selection)
    (hsnapshot : readSnapshot nfc before orgId selection input.maxCards = .ok snapshot)
    (h : createCostCardManifest nfc services input orgId raw before after = .ok manifest) :
    ∃ fixed, MadeOf services input snapshot.cards manifest fixed := by
  unfold createCostCardManifest at h
  split at h
  · cases h
  · rw [hparse] at h
    obtain ⟨parsed, hparsed, h⟩ := bind_ok.mp h
    cases hparsed
    rw [hsnapshot] at h
    obtain ⟨shown, hshown, h⟩ := bind_ok.mp h
    cases hshown
    obtain ⟨fixed, hfixed, h⟩ := bind_ok.mp h
    split at h
    · cases h
    · obtain ⟨expiries, hexpiries, h⟩ := bind_ok.mp h
      obtain ⟨current, -, h⟩ := bind_ok.mp h
      obtain ⟨again, -, h⟩ := bind_ok.mp h
      split at h
      · cases h
      · split at h
        · cases h
        · obtain ⟨total, htotal, h⟩ := bind_ok.mp h
          obtain ⟨rfl, hsafe⟩ := safeCostCardInteger_ok htotal
          cases pure_ok.mp h
          refine ⟨fixed, mapM_ok.mp hfixed, ?_, ?_, rfl, rfl, hsafe, rfl⟩
          · intro index hindex
            obtain ⟨times, -, htimes⟩ := mapM_of_mem hexpiries (List.mem_range.mpr hindex)
            exact cardExpiry_url htimes
          · simp only [isIsoDatetime, Bool.and_eq_true, decide_eq_true_eq, le_earliest,
              earliest_lt, mapM_toOption hexpiries]
            rfl

/-- An entry that the launcher receives for a card. -/
def EntryFor (services : ManifestServices) (card : CostCard) (entry : RemoteEntry) : Prop :=
  ∃ fixed url, fixedCard card = .ok fixed ∧ (services.parseUrl url).isSome = true ∧
    entry = remoteEntry (manifestEntry fixed url)

variable {cards : List CostCard}

variable {fixed : List FixedCard}

lemma forall₂_entries {n : ℕ}
    (h : List.Forall₂ (fun card fixed => fixedCard card = .ok fixed) cards fixed)
    (hurls : ∀ index, n ≤ index → index < n + fixed.length →
      (services.parseUrl (services.downloadUrl index)).isSome = true) :
    List.Forall₂ (EntryFor services) cards ((fixed.zipIdx n).map fun card =>
      remoteEntry (manifestEntry card.1 (services.downloadUrl card.2))) := by
  induction h generalizing n with
  | nil => exact .nil
  | @cons card fixed cards rest hfixed _ ih =>
    rw [List.length_cons] at hurls
    refine .cons ⟨fixed, _, hfixed, hurls n le_rfl (by omega), rfl⟩ ?_
    exact ih fun index hfirst hlast => hurls index (by omega) (by omega)

lemma MadeOf.entries (h : MadeOf services input cards manifest fixed) :
    List.Forall₂ (EntryFor services) cards (transport manifest).cards := by
  have hentries := forall₂_entries (n := 0) h.rows fun index _ hlast =>
    h.urls index (by omega)
  rw [transport, h.cards, List.map_map]
  exact hentries

variable {α β : Type} {as : List α} {bs : List β}

lemma map_eq_of_forall₂ {γ : Type} {R : α → β → Prop} {f : α → γ} {g : β → γ}
    (h : List.Forall₂ R as bs) (hR : ∀ a b, a ∈ as → R a b → g b = f a) : bs.map g = as.map f := by
  induction h with
  | nil => rfl
  | cons hab _ ih =>
    rw [List.map_cons, List.map_cons, hR _ _ List.mem_cons_self hab,
      ih fun a b ha => hR a b (List.mem_cons_of_mem _ ha)]

lemma exists_left_of_forall₂ {R : α → β → Prop} (h : List.Forall₂ R as bs) {b : β} (hb : b ∈ bs) :
    ∃ a ∈ as, R a b := by
  induction h with
  | nil => simp at hb
  | cons hab _ ih =>
    rcases List.mem_cons.mp hb with rfl | hb
    · exact ⟨_, List.mem_cons_self, hab⟩
    · obtain ⟨a, ha, hR⟩ := ih hb
      exact ⟨a, List.mem_cons_of_mem _ ha, hR⟩

lemma exists_right_of_forall₂ {R : α → β → Prop} (h : List.Forall₂ R as bs) {a : α} (ha : a ∈ as) :
    ∃ b ∈ bs, R a b :=
  exists_left_of_forall₂ h.flip ha

lemma ofString_injective : Function.Injective ofString := fun _ _ h =>
  String.toList_inj.mp (charUnits_selfSynchronizing.encode_inj.mp h)

lemma nodup_ofString_ids (h : (cards.map (·.id)).Nodup) :
    (cards.map fun card => ofString card.id.1).Nodup := by
  have hmap : (cards.map fun card => ofString card.id.1) =
      (cards.map (·.id)).map fun id => ofString id.1 := by
    rw [List.map_map]
    rfl
  rw [hmap]
  exact h.map fun a b hab => Subtype.ext (ofString_injective hab)

lemma distinct_entries {entries : List RemoteEntry} (hvalid : ∀ card ∈ cards, Valid nfc card)
    (horg : ∀ card ∈ cards, card.orgId = orgId) (hids : (cards.map (·.id)).Nodup)
    (hkeys : (cards.map (·.uniqueKey)).Nodup) (h : List.Forall₂ (EntryFor services) cards entries) :
    Distinct nfc entries := by
  have hidOf : entries.map (·.costCardId) = cards.map fun card => ofString card.id.1 := by
    refine map_eq_of_forall₂ h ?_
    rintro card entry - ⟨fixed, url, hfixed, -, rfl⟩
    obtain ⟨-, rfl⟩ := fixedCard_ok hfixed
    rfl
  have hlower : (entries.map fun entry => lowerId entry.costCardId) =
      cards.map fun card => ofString card.id.1 := by
    refine map_eq_of_forall₂ h ?_
    rintro card entry - ⟨fixed, url, hfixed, -, rfl⟩
    obtain ⟨-, rfl⟩ := fixedCard_ok hfixed
    exact lowerId_ofString card.id
  have hidentity : entries.map (entryIdentity nfc) = cards.map fun card =>
      some (ofString card.enterpriseKey, ofString "meituan", ofString card.spuId,
        ofString card.skuId) := by
    refine map_eq_of_forall₂ h ?_
    rintro card entry hcard ⟨fixed, url, hfixed, -, rfl⟩
    exact entryIdentity_fixedCard (hvalid card hcard) hfixed
  refine ⟨hidOf ▸ nodup_ofString_ids hids, hlower ▸ nodup_ofString_ids hids, ?_, ?_⟩
  · rw [hidentity]
    refine List.Nodup.map_on ?_ (List.Nodup.of_map _ hids)
    intro a ha b hb hab
    simp only [Option.some.injEq, Prod.mk.injEq, true_and] at hab
    refine List.inj_on_of_nodup_map hkeys ha hb ?_
    simp only [CostCard.uniqueKey, horg a ha, horg b hb, (hvalid a ha).sourced,
      (hvalid b hb).sourced, ofString_injective hab.1, ofString_injective hab.2.1,
      ofString_injective hab.2.2]
  · intro entry hentry
    obtain ⟨card, hcard, fixed, url, hfixed, -, rfl⟩ := exists_left_of_forall₂ h hentry
    rw [entryIdentity_fixedCard (hvalid card hcard) hfixed]
    rfl

/-! ### The claim on both sides -/

/-- What an accepted manifest is good for. -/
structure Guaranteed (nfc : String → String) (value : RemoteManifest)
    (selection : CostCardSelection) : Prop where
  ids : (value.cards.map (·.costCardId)).Nodup
  /-- Also where the file system takes no account of case. -/
  files : (value.cards.map fun entry => (fileName entry).map lowerUnit).Nodup
  identities : (value.cards.map (entryIdentity nfc)).Nodup
  keyed : ∀ entry ∈ value.cards, (entryIdentity nfc entry).isSome = true
  requested : ∀ values, selection.costCardIds = some values → ∀ id ∈ values,
    ∃ entry ∈ value.cards, entry.costCardId = id
  matching : ∀ entry ∈ value.cards, MatchesSelection nfc entry selection
  count : value.cardCount = value.cards.length
  rows : value.totalItemRowCount = (value.cards.map (·.itemRowCount)).sum

lemma Acceptable.guaranteed {parseUrl : String → Option (List (String × String))} {now : ℤ}
    {value : RemoteManifest} {limits : TransferLimits}
    (h : Acceptable parseUrl nfc now value selection limits) :
    Guaranteed nfc value selection where
  ids := h.distinct.ids
  files := by
    have hnames : (value.cards.map fun entry => (fileName entry).map lowerUnit) =
        (value.cards.map fun entry => lowerId entry.costCardId).map fun id =>
          (ofString "cost_card_").map lowerUnit ++ (id ++ (ofString ".csv").map lowerUnit) := by
      rw [List.map_map]
      simp [fileName, lowerId, Function.comp_def]
    rw [hnames]
    exact h.distinct.fileIds.map fun a b hab =>
      List.append_cancel_right (List.append_cancel_left hab)
  identities := h.distinct.identities
  keyed := h.distinct.keyed
  requested values hvalues id hid := List.mem_map.mp (h.requested values hvalues id hid)
  matching := h.matching
  count := h.count
  rows := h.rows

lemma sum_map_cast (f : α → ℕ) (as : List α) :
    (as.map fun a => (f a : ℤ)).sum = ((as.map f).sum : ℕ) := by
  induction as with
  | nil => rfl
  | cons a as ih => simp [ih]

lemma acceptable_of_faithful {now : ℤ} {limits : TransferLimits}
    (hmade : MadeOf services input cards manifest fixed)
    (hyear : isIsoDatetime manifest.expiresAt = true) (hunexpired : now < manifest.expiresAt)
    (hcards : cards.length ≤ limits.partitionImportMaxPartitions)
    (hbytes : (cards.map (·.byteSize)).sum ≤ limits.partitionDownloadMaxBytes)
    (hdistinct : Distinct nfc (transport manifest).cards) (hvalid : ∀ card ∈ cards, Valid nfc card)
    (hmatching : ∀ entry ∈ (transport manifest).cards, MatchesSelection nfc entry selection)
    (hrequested : ∀ values, selection.costCardIds = some values → ∀ id ∈ values,
      id ∈ (transport manifest).cards.map (·.costCardId)) :
    Acceptable services.parseUrl nfc now (transport manifest) selection limits := by
  have hentries := hmade.entries
  have hlength : fixed.length = cards.length := hmade.rows.length_eq.symm
  have hcount : (transport manifest).cardCount = (cards.length : ℤ) := by
    rw [transport, hmade.count, hlength]
  have hrows : (transport manifest).totalItemRowCount =
      ((transport manifest).cards.map (·.itemRowCount)).sum := by
    have hentryRows : (transport manifest).cards.map (·.itemRowCount) =
        cards.map fun card => (card.itemRowCount : ℤ) := by
      refine map_eq_of_forall₂ hentries ?_
      rintro card entry - ⟨fixed, url, hfixed, -, rfl⟩
      obtain ⟨-, rfl⟩ := fixedCard_ok hfixed
      rfl
    have hfixedRows : fixed.map (·.itemRowCount) = cards.map (·.itemRowCount) := by
      refine map_eq_of_forall₂ hmade.rows ?_
      intro card fixed _ hfixed
      obtain ⟨-, rfl⟩ := fixedCard_ok hfixed
      rfl
    rw [hentryRows, sum_map_cast, ← hfixedRows, ← hmade.total]
    rfl
  have hbytesSum : ((transport manifest).cards.map (·.byteSize)).sum =
      ((cards.map (·.byteSize)).sum : ℕ) := by
    rw [← sum_map_cast]
    refine congrArg List.sum (map_eq_of_forall₂ hentries ?_)
    rintro card entry - ⟨fixed, url, hfixed, -, rfl⟩
    obtain ⟨-, rfl⟩ := fixedCard_ok hfixed
    rfl
  have hsafe := limits.safeCards
  refine ⟨?_, ?_, ?_, hunexpired, hdistinct, hmatching, ?_, hrows, hrequested⟩
  · simp only [manifestSchema, Bool.and_eq_true, List.all_eq_true]
    refine ⟨⟨⟨hyear, ?_⟩, hmade.safe⟩, fun entry hentry => ?_⟩
    · rw [hcount]
      simp only [isSafeCount, Bool.and_eq_true, decide_eq_true_eq]
      omega
    · obtain ⟨card, hcard, fixed, url, hfixed, hurl, rfl⟩ :=
        exists_left_of_forall₂ hentries hentry
      exact entrySchema_fixedCard (hvalid card hcard) hfixed hurl
  · rw [hcount, hentries.length_eq]
  · rw [hcount]
    exact_mod_cast hcards
  · rw [hbytesSum]
    exact_mod_cast hbytes

/-- The manifest of published cards is accepted exactly when its first URL expires before the
year 10000 and the selection has found every card by well-formed texts; and whatever the launcher
accepts is guaranteed to it. -/
theorem manifest_accepted_iff (hpublished : Published nfc before.catalog)
    (hparse : parseCostCardSelection raw = .ok selection)
    (hsnapshot : readSnapshot nfc before orgId selection input.maxCards = .ok snapshot)
    (hmanifest : createCostCardManifest nfc services input orgId raw before after = .ok manifest)
    {now : ℤ} (hunexpired : now < manifest.expiresAt) {limits : TransferLimits}
    (hcards : snapshot.cards.length ≤ limits.partitionImportMaxPartitions)
    (hbytes : (snapshot.cards.map (·.byteSize)).sum ≤ limits.partitionDownloadMaxBytes) :
    (validateManifest services.parseUrl nfc now (transport manifest) raw limits =
        some (transport manifest) ↔
      FourDigitYear services input.ttl snapshot.cards.length ∧
        ∀ card ∈ snapshot.cards, Faithful nfc raw card) ∧
    ∀ (now : ℤ) (value accepted : RemoteManifest) (selection : CostCardSelection)
      (limits : TransferLimits),
      validateManifest services.parseUrl nfc now value selection limits = some accepted →
        accepted = value ∧ Guaranteed nfc value selection := by
  refine ⟨?_, fun now value accepted selection limits h => ?_⟩
  · obtain ⟨fixed, hmade⟩ := createCostCardManifest_madeOf hparse hsnapshot hmanifest
    have hwell := hpublished.wellFormed
    have hshown := readSnapshot_shown hwell hsnapshot
    have hvalid : ∀ card ∈ snapshot.cards, Valid nfc card := fun card hcard =>
      hwell.valid card (hshown.mem card hcard)
    have hselected : ∀ card ∈ snapshot.cards, Selected nfc raw card := fun card hcard =>
      (hshown.selected card hcard).of_parse hparse
    have hrequested : ∀ values, raw.costCardIds = some values → ∀ id ∈ values,
        ∃ card ∈ snapshot.cards, ofString card.id.1 = id := by
      intro values hvalues id hid
      refine hshown.requested values.eraseDups ?_ id (List.mem_eraseDups.mpr hid)
      rw [parseCostCardSelection_ok hparse, hvalues]
      rfl
    have hids : ∀ values, raw.costCardIds = some values → ∀ id ∈ values,
        isWellFormed id = true := by
      intro values hvalues id hid
      obtain ⟨card, -, rfl⟩ := hrequested values hvalues id hid
      exact isWellFormed_ofString card.id.1
    have hentries := hmade.entries
    have hlength : fixed.length = snapshot.cards.length := hmade.rows.length_eq.symm
    have hmatching : ∀ card ∈ snapshot.cards, ∀ entry, EntryFor services card entry →
        (MatchesSelection nfc entry raw ↔ Faithful nfc raw card) := by
      rintro card hcard entry ⟨fixed, url, hfixed, -, rfl⟩
      exact matchesSelection_iff_faithful (hvalid card hcard) (hselected card hcard) hfixed hids
    rw [validateManifest_iff, ← hlength, ← hmade.expiry]
    constructor
    · intro h
      have hschema := h.schema
      simp only [manifestSchema, Bool.and_eq_true] at hschema
      refine ⟨hschema.1.1.1, fun card hcard => ?_⟩
      obtain ⟨entry, hentry, hfor⟩ := exists_right_of_forall₂ hentries hcard
      exact (hmatching card hcard entry hfor).mp (h.matching entry hentry)
    · rintro ⟨hyear, hfaithful⟩
      refine acceptable_of_faithful hmade hyear hunexpired hcards hbytes ?_ ?_ ?_ ?_
      · exact distinct_entries hvalid hshown.org hshown.ids hshown.identities hentries
      · exact hvalid
      · intro entry hentry
        obtain ⟨card, hcard, hfor⟩ := exists_left_of_forall₂ hentries hentry
        exact (hmatching card hcard entry hfor).mpr (hfaithful card hcard)
      · intro values hvalues id hid
        obtain ⟨card, hcard, rfl⟩ := hrequested values hvalues id hid
        obtain ⟨entry, hentry, fixed, url, hfixed, -, rfl⟩ :=
          exists_right_of_forall₂ hentries hcard
        obtain ⟨-, rfl⟩ := fixedCard_ok hfixed
        exact List.mem_map.mpr ⟨_, hentry, rfl⟩
  · have hvalue := validateManifest_eq h
    exact ⟨hvalue, (validateManifest_iff.mp (hvalue ▸ h)).guaranteed⟩

/-! ### One card -/

/-- A digest, or the id of a card. -/
def zeros (n : ℕ) : String := String.ofList (List.replicate n '0')

def oneDigest : HexDigest := ⟨zeros 64, by decide⟩

def oneId : CostCardId := ⟨zeros 32, by decide⟩

def oneJob : CostCardJob id where
  orgId := "o"
  enterpriseKey := "e"
  enterpriseName := "E"
  sourceDocumentId := "d"
  importBatchId := "b"
  keyed := by decide
  named := by decide
  documented := by decide
  batched := by decide

/-- A row with one item of a standard recipe. -/
def oneRow (dish : String) : Import.StructuredImportRow :=
  ⟨0, "Sheet1", 2, [("spu_id", .text "1"), ("sku_id", .text "2"), ("dish_name", .text dish),
    ("has_cost_card", .text "是"), ("source_dish_deleted", .text "否"),
    ("recipe_type", .text "标准配方"), ("recipe_name", .text "r"), ("item_code", .text "3"),
    ("item_name", .text "i"), ("cost_unit", .text "kg")]⟩

def oneCard (dish : String) : CostCard where
  id := oneId
  orgId := "o"
  enterpriseKey := "e"
  enterpriseName := "E"
  sourceNamespace := "meituan"
  spuId := "1"
  skuId := "2"
  dishName := dish
  specificationName := none
  baseCategoryName := none
  objectKey := "cost-card"
  checksumSha256 := oneDigest
  byteSize := 1
  itemRowCount := 1
  csvSchemaVersion := 1
  contentHash := oneDigest
  canonicalizationVersion := 1
  sourceDocumentId := "d"
  importBatchId := "b"
  revision := 1
  archivedAt := none

def oneDirectory (dish : String) : CostCardDirectory where
  catalog := [oneCard dish]
  scope := some ⟨"1", fun _ => true⟩

def oneServices : ManifestServices where
  now _ := 0
  downloadUrl _ := "https://objects/cost-card"
  parseUrl _ := some []
  parseDate _ := none

def oneManifest (dish : String) : CostCardManifest where
  expiresAt := 900000
  cardCount := 1
  totalItemRowCount := 1
  cards := [⟨zeros 32, "1", "E", "meituan", "1", "2", dish, none, 1, 1, 1, zeros 64, "d", "b",
    "https://objects/cost-card"⟩]

def someLimits : TransferLimits := ⟨10000, 1000000, by decide, by decide⟩

lemma published_dish : Published id [oneCard "d"] :=
  .step .empty (.imported [] oneJob true [oneRow "d"] (fun _ => ⟨oneDigest, oneDigest, 1⟩)
    (fun _ => oneId) (fun _ => "cost-card") (toOption_some.mp (by decide +kernel)))

lemma published_replacement : Published id [oneCard "\uFFFD"] :=
  .step .empty (.imported [] oneJob true [oneRow "\uFFFD"] (fun _ => ⟨oneDigest, oneDigest, 1⟩)
    (fun _ => oneId) (fun _ => "cost-card") (toOption_some.mp (by decide +kernel)))

/-- The card is selected by its name, and its manifest accepted. -/
theorem manifest_accepted_dish :
    (validateManifest oneServices.parseUrl id 0 (transport (oneManifest "d"))
        { dishName := some (ofString "d") } someLimits = some (transport (oneManifest "d")) ↔
      FourDigitYear oneServices (CostCardServiceInput.ttl ⟨1, 900⟩) 1 ∧
        ∀ card ∈ [oneCard "d"], Faithful id { dishName := some (ofString "d") } card) ∧
    ∀ (now : ℤ) (value accepted : RemoteManifest) (selection : CostCardSelection)
      (limits : TransferLimits),
      validateManifest oneServices.parseUrl id now value selection limits = some accepted →
        accepted = value ∧ Guaranteed id value selection :=
  @manifest_accepted_iff id oneServices ⟨1, 900⟩ "o" { dishName := some (ofString "d") }
    { dishName := some (ofString "d") } (oneDirectory "d") (oneDirectory "d")
    ⟨"1", [oneCard "d"]⟩ (oneManifest "d") published_dish (by rfl) (by rfl)
    (toOption_some.mp (by decide +kernel)) 0 (by decide) someLimits (by decide) (by decide)

/-- A lone surrogate in the selection finds the replacement character, and is refused. -/
theorem lone_surrogate_refused : ¬ ∀ (nfc : String → String) (services : ManifestServices)
    (input : CostCardServiceInput) (orgId : String) (raw selection : CostCardSelection)
    (before after : CostCardDirectory) (snapshot : CostCardDirectorySnapshot)
    (manifest : CostCardManifest) (now : ℤ) (limits : TransferLimits),
    Published nfc before.catalog → parseCostCardSelection raw = .ok selection →
      readSnapshot nfc before orgId selection input.maxCards = .ok snapshot →
      createCostCardManifest nfc services input orgId raw before after = .ok manifest →
      now < manifest.expiresAt → snapshot.cards.length ≤ limits.partitionImportMaxPartitions →
      (snapshot.cards.map (·.byteSize)).sum ≤ limits.partitionDownloadMaxBytes →
      validateManifest services.parseUrl nfc now (transport manifest) raw limits =
        some (transport manifest) := by
  intro h
  have haccepted := h id oneServices ⟨1, 900⟩ "o" { dishName := some [0xD800] }
    { dishName := some [0xD800] } (oneDirectory "\uFFFD") (oneDirectory "\uFFFD")
    ⟨"1", [oneCard "\uFFFD"]⟩ (oneManifest "\uFFFD") 0 someLimits published_replacement rfl
    (by rfl) (toOption_some.mp (by decide +kernel)) (by decide) (by decide) (by decide)
  have hmatching := (validateManifest_iff.mp haccepted).matching _ List.mem_cons_self
  exact absurd (hmatching.dish [0xD800] rfl) (by decide)

end CostCardCatalog
end SmeDataCenter
