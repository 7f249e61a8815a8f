import SmeDataCenter.ManifestValidation
import SmeDataCenter.PublishedCostCards

/-!
# Server and launcher agree

The manifest that the server makes of published cards passes the launcher's check, as far as the
texts of the selection are well-formed: a surrogate that stands alone is replaced on its way to
the database, where it finds the replacement character, and is compared as it is by the launcher.
-/

namespace SmeDataCenter
namespace CostCardCatalog

open CodeWords ScriptText EnterpriseNames Fallible
open Import (unitLength)

/-! ### Entries of published cards -/

lemma encode_ascii {cs : List Char} (h : ∀ c ∈ cs, c.toNat < 0x80) :
    encode charUnits cs = cs.map fun c => UInt16.ofNat c.toNat := by
  induction cs with
  | nil => rfl
  | cons c cs ih =>
    have hc := h c List.mem_cons_self
    have hsmall : c.toNat < 0x10000 := by omega
    rw [encode_cons, ih fun d hd => h d (List.mem_cons_of_mem c hd)]
    simp [charUnits, codeUnits, hsmall]

variable {s : String}

lemma ofString_ne_nil (h : s ≠ "") : ofString s ≠ [] :=
  charUnits_selfSynchronizing.encode_ne_nil fun hnil => h (String.toList_eq_nil_iff.mp hnil)

variable {limit : ℕ}

lemma isText_ofString (h : ValidText limit s) : isText limit (ofString s) = true := by
  have hlength : (ofString s).length = unitLength s := length_ofString s
  have hpos : 0 < (ofString s).length := List.length_pos_iff.mpr (ofString_ne_nil h.1)
  simp only [isText, Bool.and_eq_true, decide_eq_true_eq]
  exact ⟨hpos, hlength ▸ h.2⟩

lemma isLowerHex_ascii {c : Char} (h : isLowerHex c = true) :
    c.toNat < 0x80 ∧ (UInt16.ofNat c.toNat).toNat = c.toNat := by
  simp only [isLowerHex, Bool.or_eq_true, Bool.and_eq_true, decide_eq_true_eq] at h
  exact ⟨by omega, toNat_ofNat (by omega)⟩

variable {n : ℕ}

lemma ofString_hex (h : IsHex n s) : ofString s = s.toList.map fun c => UInt16.ofNat c.toNat :=
  encode_ascii fun c hc => (isLowerHex_ascii (List.all_eq_true.mp h.2 c hc)).1

lemma hex_unit (h : IsHex n s) {u : UInt16} (hu : u ∈ ofString s) :
    (0x30 ≤ u.toNat ∧ u.toNat ≤ 0x39) ∨ 0x61 ≤ u.toNat ∧ u.toNat ≤ 0x66 := by
  rw [ofString_hex h, List.mem_map] at hu
  obtain ⟨c, hc, rfl⟩ := hu
  have hhex := List.all_eq_true.mp h.2 c hc
  rw [(isLowerHex_ascii hhex).2]
  simpa only [isLowerHex, Bool.or_eq_true, Bool.and_eq_true, decide_eq_true_eq] using hhex

lemma isCardId_ofString (id : CostCardId) : isCardId (ofString id.1) = true := by
  have hlength : (ofString id.1).length = 32 := by
    rw [ofString_hex id.2, List.length_map, id.2.1]
  simp only [isCardId, hlength, Bool.and_eq_true, List.all_eq_true]
  refine ⟨by decide, fun u hu => ?_⟩
  have := hex_unit id.2 hu
  simp only [isIdUnit, inRange, Bool.or_eq_true, Bool.and_eq_true, decide_eq_true_eq]
  omega

lemma isDigest_ofString (digest : HexDigest) : isDigest (ofString digest.1) = true := by
  have hlength : (ofString digest.1).length = 64 := by
    rw [ofString_hex digest.2, List.length_map, digest.2.1]
  simp only [isDigest, hlength, Bool.and_eq_true, List.all_eq_true]
  refine ⟨by decide, fun u hu => ?_⟩
  have := hex_unit digest.2 hu
  simp only [isHexUnit, isDigitUnit, inRange, Bool.or_eq_true, Bool.and_eq_true,
    decide_eq_true_eq]
  omega

lemma lowerId_ofString (id : CostCardId) : lowerId (ofString id.1) = ofString id.1 := by
  have hsame : ∀ u ∈ ofString id.1, lowerUnit u = u := by
    intro u hu
    have hhex := hex_unit id.2 hu
    refine if_neg fun hupper => ?_
    simp only [Bool.and_eq_true, decide_eq_true_eq] at hupper
    omega
  rw [lowerId, List.map_congr_left hsame, List.map_id']

lemma toDigits_head (hn : 1 ≤ n) :
    ∃ c rest, Nat.toDigits 10 n = c :: rest ∧ 0x31 ≤ c.toNat ∧ c.toNat ≤ 0x39 := by
  induction n using Nat.strongRecOn with
  | ind n ih =>
    by_cases hlt : n < 10
    · have hsmall : ∀ m < 10, 1 ≤ m → 0x31 ≤ m.digitChar.toNat ∧ m.digitChar.toNat ≤ 0x39 := by
        decide
      exact ⟨n.digitChar, [], Nat.toDigits_of_lt_base hlt, hsmall n hlt hn⟩
    · obtain ⟨c, rest, hdigits, hc⟩ := ih (n / 10) (by omega) (by omega)
      exact ⟨c, rest ++ [(n % 10).digitChar], by
        rw [Nat.toDigits_of_base_le (by omega) (by omega), hdigits, List.cons_append], hc⟩

lemma isRevision_ofString (hn : 1 ≤ n) : isRevision (ofString (toString n)) = true := by
  have hlist : (toString n).toList = Nat.toDigits 10 n := Nat.toList_repr
  have hdigit : ∀ c ∈ Nat.toDigits 10 n, 0x30 ≤ c.toNat ∧ c.toNat ≤ 0x39 := by
    intro c hc
    have := Nat.isDigit_of_mem_toDigits (by decide) (by decide) hc
    simp only [Char.isDigit, ge_iff_le, Bool.and_eq_true, decide_eq_true_eq,
      UInt32.le_iff_toNat_le] at this
    exact this
  obtain ⟨c, rest, hdigits, hc⟩ := toDigits_head hn
  have hunits : ofString (toString n) = (c :: rest).map fun c => UInt16.ofNat c.toNat := by
    rw [ofString, hlist, encode_ascii fun c hc => by have := hdigit c hc; omega, hdigits]
  rw [hunits, List.map_cons, isRevision, Bool.and_eq_true, List.all_eq_true]
  refine ⟨?_, fun u hu => ?_⟩
  · rw [toNat_ofNat (by omega)]
    simp only [inRange, Bool.and_eq_true, decide_eq_true_eq]
    exact hc
  · obtain ⟨d, hd, rfl⟩ := List.mem_map.mp hu
    have := hdigit d (hdigits ▸ List.mem_cons_of_mem c hd)
    rw [isDigitUnit, toNat_ofNat (by omega)]
    simp only [inRange, Bool.and_eq_true, decide_eq_true_eq]
    exact this

lemma safeCostCardInteger_ok {m : ℕ} (h : safeCostCardInteger n = .ok m) :
    m = n ∧ isSafeCount m = true := by
  unfold safeCostCardInteger at h
  split at h
  · cases h
  · cases h
    refine ⟨rfl, ?_⟩
    simp only [isSafeCount, Bool.and_eq_true, decide_eq_true_eq]
    omega

lemma fixedCard_ok {card : CostCard} {fixed : FixedCard} (h : fixedCard card = .ok fixed) :
    (card.csvSchemaVersion = csvSchemaVersion ∧ isSafeCount card.itemRowCount = true ∧
      isSafeCount card.byteSize = true) ∧
    fixed = {
      costCardId := card.id.1, revision := toString card.revision
      enterpriseName := card.enterpriseName, spuId := card.spuId, skuId := card.skuId
      dishName := card.dishName, specificationName := card.specificationName
      schemaVersion := card.csvSchemaVersion, itemRowCount := card.itemRowCount
      byteSize := card.byteSize, checksumSha256 := card.checksumSha256.1
      sourceDocumentId := card.sourceDocumentId, importBatchId := card.importBatchId
      objectKey := card.objectKey } := by
  unfold fixedCard at h
  split at h
  · cases h
  · next hschema =>
    simp only [Bool.or_eq_true, decide_eq_true_eq, not_or, not_not] at hschema
    obtain ⟨rows, hrows, h⟩ := bind_ok.mp h
    obtain ⟨bytes, hbytes, h⟩ := bind_ok.mp h
    obtain ⟨rfl, hrows⟩ := safeCostCardInteger_ok hrows
    obtain ⟨rfl, hbytes⟩ := safeCostCardInteger_ok hbytes
    exact ⟨⟨hschema.2, hrows, hbytes⟩, (pure_ok.mp h).symm⟩

section

variable {nfc : String → String} {parseUrl : String → Option (List (String × String))}
  {card : CostCard} {fixed : FixedCard} {url : String}

lemma entrySchema_fixedCard (hvalid : Valid nfc card) (hfixed : fixedCard card = .ok fixed)
    (hurl : (parseUrl url).isSome = true) :
    entrySchema parseUrl (remoteEntry (manifestEntry fixed url)) = true := by
  obtain ⟨⟨hversion, hrows, hbytes⟩, rfl⟩ := fixedCard_ok hfixed
  have hspec : (card.specificationName.map ofString).all (isText 255) = true := by
    cases hname : card.specificationName with
    | none => rfl
    | some s => simpa using isText_ofString (hvalid.specification s hname)
  simp only [entrySchema, remoteEntry, manifestEntry, stored_ofString, hurl, hspec,
    isCardId_ofString, isRevision_ofString hvalid.revised, isText_ofString hvalid.spu,
    isText_ofString hvalid.sku, isText_ofString hvalid.dish, isDigest_ofString, hrows, hbytes,
    hversion, Bool.and_eq_true, decide_eq_true_eq, ne_eq, ofString_ne_nil hvalid.named,
    ofString_ne_nil hvalid.documented, ofString_ne_nil hvalid.batched, not_false_eq_true, and_self]

lemma entryIdentity_fixedCard (hvalid : Valid nfc card) (hfixed : fixedCard card = .ok fixed) :
    entryIdentity nfc (remoteEntry (manifestEntry fixed url)) =
      some (ofString card.enterpriseKey, ofString "meituan", ofString card.spuId,
        ofString card.skuId) := by
  obtain ⟨-, rfl⟩ := fixedCard_ok hfixed
  simp [entryIdentity, remoteEntry, manifestEntry, hvalid.keyed]

end

/-! ### Selected cards -/

/-- The database finds that a card meets the filters, by the bytes of the texts. -/
structure Selected (nfc : String → String) (selection : CostCardSelection) (card : CostCard) :
    Prop where
  enterprise : ∀ name, selection.enterpriseName = some name → ∃ key,
    enterpriseKeyOf nfc name = some key ∧ sameBytes card.enterpriseKey key = true
  ids : ∀ values, selection.costCardIds = some values →
    ∃ value ∈ values, sameBytes card.id.1 value = true
  spus : ∀ values, selection.spuIds = some values →
    ∃ value ∈ values, sameBytes card.spuId value = true
  skus : ∀ values, selection.skuIds = some values →
    ∃ value ∈ values, sameBytes card.skuId value = true
  dish : ∀ value, selection.dishName = some value → sameBytes card.dishName value = true
  part : ∀ value, selection.dishNameContains = some value →
    toUtf8 value <:+: toUtf8 (ofString card.dishName)
  specification : ∀ value, selection.specificationName = some value →
    ∃ s, card.specificationName = some s ∧ sameBytes s value = true

lemma selectionText_ok {input parsed : Option ScriptText}
    (h : selectionText limit input = .ok parsed) : parsed = input := by
  unfold selectionText at h
  split at h
  · exact (Except.ok.inj h).symm
  · split at h
    · cases h
    · exact (Except.ok.inj h).symm

lemma selectionArray_ok {input parsed : Option (List ScriptText)}
    (h : selectionArray limit input = .ok parsed) : parsed = input.map List.eraseDups := by
  unfold selectionArray at h
  split at h
  · exact (Except.ok.inj h).symm
  · split at h
    · cases h
    · exact (Except.ok.inj h).symm

lemma parseCostCardSelection_ok {input parsed : CostCardSelection}
    (h : parseCostCardSelection input = .ok parsed) :
    parsed = { input with
      costCardIds := input.costCardIds.map List.eraseDups
      spuIds := input.spuIds.map List.eraseDups
      skuIds := input.skuIds.map List.eraseDups } := by
  obtain ⟨enterprise, h1, h⟩ := bind_ok.mp h
  obtain ⟨ids, h2, h⟩ := bind_ok.mp h
  obtain ⟨spus, h3, h⟩ := bind_ok.mp h
  obtain ⟨skus, h4, h⟩ := bind_ok.mp h
  obtain ⟨dish, h5, h⟩ := bind_ok.mp h
  obtain ⟨part, h6, h⟩ := bind_ok.mp h
  obtain ⟨specification, h7, h⟩ := bind_ok.mp h
  obtain ⟨category, h8, h⟩ := bind_ok.mp h
  rw [← pure_ok.mp h, selectionText_ok h1, selectionArray_ok h2, selectionArray_ok h3,
    selectionArray_ok h4, selectionText_ok h5, selectionText_ok h6, selectionText_ok h7,
    selectionText_ok h8]

lemma exists_eraseDups {values : Option (List ScriptText)} {p : ScriptText → Prop}
    (h : ∀ vs, values.map List.eraseDups = some vs → ∃ v ∈ vs, p v) :
    ∀ vs, values = some vs → ∃ v ∈ vs, p v := by
  rintro vs rfl
  obtain ⟨v, hv, hp⟩ := h vs.eraseDups rfl
  exact ⟨v, List.mem_eraseDups.mp hv, hp⟩

lemma Selected.of_parse {nfc : String → String} {input parsed : CostCardSelection}
    {card : CostCard} (hparse : parseCostCardSelection input = .ok parsed)
    (h : Selected nfc parsed card) : Selected nfc input card := by
  rw [parseCostCardSelection_ok hparse] at h
  exact {
    enterprise := h.enterprise
    ids := exists_eraseDups h.ids
    spus := exists_eraseDups h.spus
    skus := exists_eraseDups h.skus
    dish := h.dish
    part := h.part
    specification := h.specification }

variable {conditions : List SelectionCondition}

lemma conditionOf_ok {α : Type} {condition : α → Except CostCardError SelectionCondition}
    {input : Option α} (h : conditionOf condition input = .ok conditions) :
    ∀ a, input = some a → ∃ c, condition a = .ok c ∧ conditions = [c] := by
  rintro a rfl
  obtain ⟨c, hc, h⟩ := bind_ok.mp h
  exact ⟨c, hc, (pure_ok.mp h).symm⟩

variable {column : CardColumn}

variable {value : ScriptText}

lemma conditionText_ok {text : ScriptText} (h : conditionText column value = .ok text) :
    text = value := by
  unfold conditionText at h
  split at h
  · cases h
  · exact (Except.ok.inj h).symm

variable {values : List ScriptText}

lemma conditionTexts_ok {texts : List ScriptText}
    (h : values.mapM (conditionText column) = .ok texts) : texts = values := by
  rw [mapM_ok] at h
  induction h with
  | nil => rfl
  | cons hv _ ih => rw [conditionText_ok hv, ih]

variable {c : SelectionCondition}

lemma conditionIn_ok (h : conditionIn column values = .ok c) : c = .oneOf column values := by
  obtain ⟨-, -, h⟩ := bind_ok.mp h
  split at h
  · cases h
  · obtain ⟨texts, htexts, h⟩ := bind_ok.mp h
    rw [← pure_ok.mp h, conditionTexts_ok htexts]

lemma conditionEq_ok (h : conditionEq column value = .ok c) : c = .equals column value := by
  obtain ⟨-, -, h⟩ := bind_ok.mp h
  obtain ⟨text, htext, h⟩ := bind_ok.mp h
  rw [← pure_ok.mp h, conditionText_ok htext]

lemma conditionContains_ok (h : conditionContains column value = .ok c) :
    c = .contains column value := by
  obtain ⟨-, -, h⟩ := bind_ok.mp h
  obtain ⟨text, htext, h⟩ := bind_ok.mp h
  rw [← pure_ok.mp h, conditionText_ok htext]

lemma selected_of_conditions {nfc : String → String} {selection : CostCardSelection}
    {card : CostCard} (hcompile : compileCostCardSelection nfc selection = .ok conditions)
    (hholds : conditions.all (·.holds card) = true) : Selected nfc selection card := by
  obtain ⟨parsed, hparse, h⟩ := bind_ok.mp hcompile
  refine Selected.of_parse hparse ?_
  obtain ⟨enterprise, h1, h⟩ := bind_ok.mp h
  obtain ⟨ids, h2, h⟩ := bind_ok.mp h
  obtain ⟨spus, h3, h⟩ := bind_ok.mp h
  obtain ⟨skus, h4, h⟩ := bind_ok.mp h
  obtain ⟨dish, h5, h⟩ := bind_ok.mp h
  obtain ⟨part, h6, h⟩ := bind_ok.mp h
  obtain ⟨specification, h7, h⟩ := bind_ok.mp h
  obtain ⟨category, h8, h⟩ := bind_ok.mp h
  rw [← pure_ok.mp h] at hholds
  simp only [List.all_append, Bool.and_eq_true] at hholds
  obtain ⟨⟨⟨⟨⟨⟨⟨g1, g2⟩, g3⟩, g4⟩, g5⟩, g6⟩, g7⟩, -⟩ := hholds
  refine ⟨?_, ?_, ?_, ?_, ?_, ?_, ?_⟩
  · intro name hname
    obtain ⟨c, hc, rfl⟩ := conditionOf_ok h1 name hname
    unfold enterpriseCondition at hc
    split at hc
    · cases hc
    · next key hkey =>
      cases hc
      exact ⟨key, hkey, by simpa [SelectionCondition.holds] using g1⟩
  · intro values hvalues
    obtain ⟨c, hc, rfl⟩ := conditionOf_ok h2 values hvalues
    rw [conditionIn_ok hc] at g2
    simpa [SelectionCondition.holds, CardColumn.value] using g2
  · intro values hvalues
    obtain ⟨c, hc, rfl⟩ := conditionOf_ok h3 values hvalues
    rw [conditionIn_ok hc] at g3
    simpa [SelectionCondition.holds, CardColumn.value] using g3
  · intro values hvalues
    obtain ⟨c, hc, rfl⟩ := conditionOf_ok h4 values hvalues
    rw [conditionIn_ok hc] at g4
    simpa [SelectionCondition.holds, CardColumn.value] using g4
  · intro value hvalue
    obtain ⟨c, hc, rfl⟩ := conditionOf_ok h5 value hvalue
    rw [conditionEq_ok hc] at g5
    simpa [SelectionCondition.holds, CardColumn.value] using g5
  · intro value hvalue
    obtain ⟨c, hc, rfl⟩ := conditionOf_ok h6 value hvalue
    rw [conditionContains_ok hc] at g6
    simpa [SelectionCondition.holds, CardColumn.value, SqlLike.like_containsPattern] using g6
  · intro value hvalue
    obtain ⟨c, hc, rfl⟩ := conditionOf_ok h7 value hvalue
    rw [conditionEq_ok hc] at g7
    simpa [SelectionCondition.holds, CardColumn.value, Option.any_eq_true] using g7

/-! ### Snapshots -/

/-- What a snapshot shows of a well-formed catalog. -/
structure Shown (nfc : String → String) (directory : CostCardDirectory) (orgId : String)
    (selection : CostCardSelection) (cards : List CostCard) : Prop where
  mem : ∀ card ∈ cards, card ∈ directory.catalog
  org : ∀ card ∈ cards, card.orgId = orgId
  selected : ∀ card ∈ cards, Selected nfc selection card
  ids : (cards.map (·.id)).Nodup
  identities : (cards.map (·.uniqueKey)).Nodup
  requested : ∀ values, selection.costCardIds = some values → ∀ id ∈ values,
    ∃ card ∈ cards, ofString card.id.1 = id

lemma perm_sortById (cards : List CostCard) : (sortById cards).Perm cards :=
  List.perm_insertionSort _ cards

variable {orgId : String}

lemma exists_of_mem_selectedIds {catalog : List CostCard} {scope : CostCardReadScope} {maxCards : ℕ}
    {id : CostCardId} (h : id ∈ selectedIds catalog scope orgId conditions maxCards) :
    ∃ card ∈ catalog, card.id = id ∧ card.orgId = orgId ∧ card.archivedAt.isNone = true ∧
      conditions.all (·.holds card) = true := by
  obtain ⟨card, hcard, rfl⟩ := List.mem_map.mp (List.mem_of_mem_take h)
  have hcard := (perm_sortById _).mem_iff.mp hcard
  simp only [selectedCards, List.mem_filter, Bool.and_eq_true, decide_eq_true_eq] at hcard
  exact ⟨card, hcard.1, rfl, hcard.2.1.1.1, hcard.2.1.1.2, hcard.2.2⟩

lemma mem_rowsOf {catalog : List CostCard} {ids : List CostCardId} {card : CostCard} :
    card ∈ sortById (rowsOf catalog orgId ids) ↔
      card ∈ catalog ∧ card.orgId = orgId ∧ card.id ∈ ids ∧ card.archivedAt.isNone = true := by
  rw [(perm_sortById _).mem_iff]
  simp only [rowsOf, List.mem_filter, Bool.and_eq_true, decide_eq_true_eq, List.contains_eq_mem,
    and_assoc]

lemma readSnapshot_shown {nfc : String → String} {directory : CostCardDirectory}
    {raw : CostCardSelection} {maxCards : ℕ} {snapshot : CostCardDirectorySnapshot}
    (hwell : WellFormed nfc directory.catalog)
    (h : readSnapshot nfc directory orgId raw maxCards = .ok snapshot) :
    Shown nfc directory orgId raw snapshot.cards := by
  unfold readSnapshot at h
  split at h
  · cases h
  · obtain ⟨selection, hparse, h⟩ := bind_ok.mp h
    split at h
    · cases h
    · next scope _ =>
      obtain ⟨conditions, hcompile, h⟩ := bind_ok.mp h
      dsimp only at h
      split at h
      · cases h
      · split at h
        · cases h
        · next hrequested =>
          rw [← pure_ok.mp h]
          refine ⟨fun card hcard => (mem_rowsOf.mp hcard).1,
            fun card hcard => (mem_rowsOf.mp hcard).2.1, ?_, ?_, ?_, ?_⟩
          · intro card hcard
            obtain ⟨hmem, -, hid, -⟩ := mem_rowsOf.mp hcard
            obtain ⟨other, hother, hsame, -, -, hholds⟩ := exists_of_mem_selectedIds hid
            have heq : other = card := List.inj_on_of_nodup_map hwell.ids hother hmem hsame
            exact Selected.of_parse hparse (selected_of_conditions hcompile (heq ▸ hholds))
          · exact ((perm_sortById _).map _).nodup_iff.mpr
              (hwell.ids.sublist (List.filter_sublist.map _))
          · exact ((perm_sortById _).map _).nodup_iff.mpr
              (hwell.identities.sublist (List.filter_sublist.map _))
          · intro values hvalues id hid
            have hparsed : selection.costCardIds = some values.eraseDups := by
              rw [parseCostCardSelection_ok hparse, hvalues]
              rfl
            simp only [requestedMissing, hparsed, Option.getD_some, List.any_eq_true,
              Bool.not_eq_true', List.any_eq_false, decide_eq_true_eq, not_exists, not_and,
              not_forall, not_not] at hrequested
            obtain ⟨row, hrow, hsame⟩ := hrequested id (List.mem_eraseDups.mpr hid)
            obtain ⟨card, hcard, rfl, horg, hopen, -⟩ := exists_of_mem_selectedIds hrow
            exact ⟨card, mem_rowsOf.mpr ⟨hcard, horg, hrow, hopen⟩, hsame⟩

/-! ### Faithful selections -/

/-- A card is selected by texts that are well-formed: the single texts of the selection are, and
one that finds the card among those of a list. A part of a name may also be found in the code
units themselves. -/
structure Faithful (nfc : String → String) (selection : CostCardSelection) (card : CostCard) :
    Prop where
  enterprise : ∀ name key, selection.enterpriseName = some name →
    enterpriseKeyOf nfc name = some key → isWellFormed key = true
  spus : ∀ values, selection.spuIds = some values →
    ∃ value ∈ values, isWellFormed value = true ∧ sameBytes card.spuId value = true
  skus : ∀ values, selection.skuIds = some values →
    ∃ value ∈ values, isWellFormed value = true ∧ sameBytes card.skuId value = true
  dish : ∀ value, selection.dishName = some value → isWellFormed value = true
  part : ∀ value, selection.dishNameContains = some value →
    isWellFormed value = true ∨ value <:+: ofString card.dishName
  specification : ∀ value, selection.specificationName = some value → isWellFormed value = true

lemma eq_ofString_of_sameBytes (h : sameBytes s value = true) :
    value = ofString s ↔ isWellFormed value = true := by
  rw [sameBytes, decide_eq_true_eq] at h
  rw [eq_ofString_iff_toUtf8]
  exact ⟨And.left, fun hw => ⟨hw, h.symm⟩⟩

lemma mem_iff_wellFormed :
    ofString s ∈ values ↔
      ∃ value ∈ values, isWellFormed value = true ∧ sameBytes s value = true := by
  constructor
  · intro h
    exact ⟨ofString s, h, isWellFormed_ofString s, by simp [sameBytes]⟩
  · rintro ⟨value, hvalue, hwell, hsame⟩
    exact (eq_ofString_of_sameBytes hsame).mpr hwell ▸ hvalue

/-- The launcher takes a card that the server has selected exactly when it was selected by
well-formed texts. -/
lemma matchesSelection_iff_faithful {nfc : String → String} {selection : CostCardSelection}
    {card : CostCard} {fixed : FixedCard} {url : String} (hvalid : Valid nfc card)
    (hselected : Selected nfc selection card) (hfixed : fixedCard card = .ok fixed)
    (hids : ∀ values, selection.costCardIds = some values → ∀ id ∈ values,
      isWellFormed id = true) :
    MatchesSelection nfc (remoteEntry (manifestEntry fixed url)) selection ↔
      Faithful nfc selection card := by
  obtain ⟨-, rfl⟩ := fixedCard_ok hfixed
  have hkey : enterpriseKeyOf nfc (ofString card.enterpriseName) =
      some (ofString card.enterpriseKey) := hvalid.keyed
  constructor
  · intro h
    refine ⟨?_, ?_, ?_, ?_, ?_, ?_⟩
    · intro name key hname hkeyOf
      obtain ⟨other, hother, hentry⟩ := h.enterprise name hname
      rw [hkeyOf, Option.some.injEq] at hother
      have hsame : key = ofString card.enterpriseKey := by
        rw [hother]
        exact Option.some.inj (hentry.symm.trans hkey)
      rw [hsame, isWellFormed_ofString]
    · exact fun values hvalues => mem_iff_wellFormed.mp (h.spus values hvalues)
    · exact fun values hvalues => mem_iff_wellFormed.mp (h.skus values hvalues)
    · intro value hvalue
      rw [← h.dish value hvalue]
      exact isWellFormed_ofString card.dishName
    · exact fun value hvalue => .inr (h.part value hvalue)
    · intro value hvalue
      have hname := h.specification value hvalue
      simp only [remoteEntry, manifestEntry, Option.map_eq_some_iff] at hname
      obtain ⟨s, -, rfl⟩ := hname
      exact isWellFormed_ofString s
  · intro h
    refine ⟨?_, ?_, ?_, ?_, ?_, ?_, ?_⟩
    · intro name hname
      obtain ⟨key, hkeyOf, hsame⟩ := hselected.enterprise name hname
      have heq := (eq_ofString_of_sameBytes hsame).mpr (h.enterprise name key hname hkeyOf)
      exact ⟨key, hkeyOf, heq ▸ hkey⟩
    · intro values hvalues
      obtain ⟨value, hvalue, hsame⟩ := hselected.ids values hvalues
      exact mem_iff_wellFormed.mpr ⟨value, hvalue, hids values hvalues value hvalue, hsame⟩
    · exact fun values hvalues => mem_iff_wellFormed.mpr (h.spus values hvalues)
    · exact fun values hvalues => mem_iff_wellFormed.mpr (h.skus values hvalues)
    · intro value hvalue
      exact ((eq_ofString_of_sameBytes (hselected.dish value hvalue)).mpr
        (h.dish value hvalue)).symm
    · intro value hvalue
      rcases h.part value hvalue with hwell | hpart
      · have hbytes := (includes_ofString_iff hwell).mpr (hselected.part value hvalue)
        rwa [includes, decide_eq_true_eq] at hbytes
      · exact hpart
    · intro value hvalue
      obtain ⟨s, hs, hsame⟩ := hselected.specification value hvalue
      have heq := (eq_ofString_of_sameBytes hsame).mpr (h.specification value hvalue)
      simp [remoteEntry, manifestEntry, hs, heq]

end CostCardCatalog
end SmeDataCenter
