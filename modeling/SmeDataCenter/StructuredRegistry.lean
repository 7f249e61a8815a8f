import Mathlib.Data.List.AList
import Mathlib.Data.List.Infix

/-!
# The registry of structured datasets

The fields of every dataset that is queried by rows: their types, what a query may do with them,
and where in a row they are stored. Datasets that are only extracted by partition have no row
table, and their fields are not listed here.
-/

namespace SmeDataCenter
namespace StructuredQuery

inductive StructuredDatasetName where
  | dishes
  | business
  | vip
  | dishCatalog
  | deliveryLedger
  | supplierCatalog
  | costCards
  | inStoreOrders
  | takeawayOrders
  deriving DecidableEq

/-- `STRUCTURED_DATASETS`, with the names in a query. -/
def structuredDatasets : List (String × StructuredDatasetName) :=
  [("dishes", .dishes), ("business", .business), ("vip", .vip), ("dish_catalog", .dishCatalog),
   ("delivery_ledger", .deliveryLedger), ("supplier_catalog", .supplierCatalog),
   ("cost_cards", .costCards), ("in_store_orders", .inStoreOrders),
   ("takeaway_orders", .takeawayOrders)]

def StructuredDatasetName.text : StructuredDatasetName → String
  | .dishes => "dishes"
  | .business => "business"
  | .vip => "vip"
  | .dishCatalog => "dish_catalog"
  | .deliveryLedger => "delivery_ledger"
  | .supplierCatalog => "supplier_catalog"
  | .costCards => "cost_cards"
  | .inStoreOrders => "in_store_orders"
  | .takeawayOrders => "takeaway_orders"

inductive StructuredFieldType where
  | string
  | date
  | dateTime
  | timeRange
  | integer
  | decimal
  | percent
  | boolean
  deriving DecidableEq

/-- `["integer", "decimal", "percent"].includes(type)` -/
def StructuredFieldType.isNumeric : StructuredFieldType → Bool
  | .integer | .decimal | .percent => true
  | _ => false

/-- Is the type `date` or `date_time`? -/
def StructuredFieldType.isDate : StructuredFieldType → Bool
  | .date | .dateTime => true
  | _ => false

structure StructuredFieldCapabilities where
  filter : Bool
  sort : Bool
  group : Bool
  aggregate : Bool

inductive StorageColumn where
  | payload
  | sourceDocumentId
  deriving DecidableEq

structure StructuredFieldStorageMapping where
  column : StorageColumn
  jsonPath : Option String := none

inductive InputSource where
  | file
  | uploadMetadata
  | derived
  | dynamicLookup
  deriving DecidableEq

structure StructuredFieldRegistryEntry where
  canonicalName : String
  sourceColumn : String
  type : StructuredFieldType
  nullable : Bool
  inputSource : InputSource
  defaultReturn : Bool
  operators : List String
  capabilities : StructuredFieldCapabilities
  storage : Option StructuredFieldStorageMapping

inductive AccessMode where
  | partitionExtract
  | rowQuery
  | catalogQuery
  deriving DecidableEq

structure StructuredDatasetRegistry where
  dataset : StructuredDatasetName
  accessMode : AccessMode
  rowTable : Option String
  fields : List StructuredFieldRegistryEntry

/-! ### Columns -/

/-- The source columns of `vip`, with their canonical names. -/
def vipSourceColumns : List (String × String) :=
  [("日期", "business_date"), ("周", "business_week"), ("储值门店名称", "store_name"), ("省份", "province"),
   ("城市", "city"), ("会员卡号", "member_card_no"), ("会员卡类型名称", "member_card_type_name"),
   ("会员卡等级名称", "member_card_level_name"), ("会员卡种类名称", "member_card_kind_name"),
   ("会员ID", "member_id"), ("会员手机号", "member_phone"), ("月份", "business_month"),
   ("开卡门店名称", "opening_store_name"), ("商户号", "merchant_id"), ("收款方式", "payment_method"),
   ("储值消费金额_本金(元)", "recharge_consumption_amount_principal"),
   ("储值消费金额_赠金(元)", "recharge_consumption_amount_bonus"),
   ("储值消费金额_合计(元)", "recharge_consumption_amount_total"),
   ("净储值消费金额_本金(元)", "net_recharge_consumption_amount_principal"),
   ("净储值消费金额_赠金(元)", "net_recharge_consumption_amount_bonus"),
   ("净储值消费金额_合计(元)", "net_recharge_consumption_amount_total"),
   ("储值金额_储值消费_本金(元)", "recharge_amount_consumption_principal"),
   ("储值金额_储值消费_赠金(元)", "recharge_amount_consumption_bonus"),
   ("储值金额_储值消费_合计(元)", "recharge_amount_consumption_total"),
   ("储值金额_本金_消费退款(元)", "recharge_amount_principal_consumption_refund"),
   ("储值金额_赠金_消费退款(元)", "recharge_amount_bonus_consumption_refund"),
   ("储值金额_合计_消费退款(元)", "recharge_amount_total_consumption_refund"),
   ("储值金额_本金_充值(元)", "recharge_amount_principal_topup"),
   ("储值金额_赠金_充值(元)", "recharge_amount_bonus_topup"),
   ("储值金额_合计_充值(元)", "recharge_amount_total_topup"),
   ("储值金额_本金_充值退款(元)", "recharge_amount_principal_topup_refund"),
   ("储值金额_赠金_充值退款(元)", "recharge_amount_bonus_topup_refund"),
   ("储值金额_合计_充值退款(元)", "recharge_amount_total_topup_refund"),
   ("净储值金额_本金_充值(元)", "net_recharge_amount_principal_topup"),
   ("净储值金额_赠金_充值(元)", "net_recharge_amount_bonus_topup"),
   ("净储值金额_合计_充值(元)", "net_recharge_amount_total_topup"), ("充值笔数", "topup_count"),
   ("充值退款笔数", "topup_refund_count"), ("净储值金额_充值笔数", "net_recharge_amount_topup_count"),
   ("期初余额_积分", "opening_points_balance"), ("期初导入_积分", "opening_imported_points"),
   ("储值积分_充值退款", "recharge_points_topup_refund"),
   ("储值积分_减少场景（剔除消费）", "recharge_points_reduction_excluding_consumption"),
   ("储值积分_消费", "recharge_points_consumption"), ("储值积分_消费退款", "recharge_points_consumption_refund"),
   ("净储值积分_充值", "net_recharge_points_topup"), ("储值积分_储值", "recharge_points_recharge"),
   ("净储值消费积分_合计", "net_recharge_consumption_points_total"), ("期末余额_积分", "closing_points_balance"),
   ("付费券包售卖会员数", "paid_coupon_pack_sold_member_count"),
   ("付费券包售卖流水数", "paid_coupon_pack_sold_flow_count"),
   ("付费券包售卖数量", "paid_coupon_pack_sold_quantity"), ("付费券包售卖金额", "paid_coupon_pack_sold_amount"),
   ("付费券包退货数量", "paid_coupon_pack_return_quantity"),
   ("付费券包退货金额", "paid_coupon_pack_return_amount"),
   ("付费权益卡售卖会员数", "paid_benefit_card_sold_member_count"),
   ("付费权益卡售卖流水数", "paid_benefit_card_sold_flow_count"),
   ("付费权益卡售卖数量", "paid_benefit_card_sold_quantity"),
   ("付费权益卡售卖金额", "paid_benefit_card_sold_amount"),
   ("付费权益卡退货数量", "paid_benefit_card_return_quantity"),
   ("储值消费流水数", "recharge_consumption_flow_count"),
   ("储值消费流水数_退款", "recharge_consumption_flow_refund_count"),
   ("付费权益卡退货金额", "paid_benefit_card_return_amount"),
   ("期末储值余额_本金", "closing_recharge_balance_principal"),
   ("期末储值余额_赠金", "closing_recharge_balance_bonus"),
   ("期末储值余额_合计", "closing_recharge_balance_total")]

/-- The source columns of `dish_catalog`, with their canonical names. -/
def dishCatalogSourceColumns : List (String × String) :=
  [("菜品编码（SPUID）", "spu_id"), ("菜品编码（SKUID）", "sku_id"), ("菜品名称", "dish_name"),
   ("品牌", "brand_name"), ("基础分类", "base_category_name"), ("一级分类编码", "level_1_category_code"),
   ("二级分类编码", "level_2_category_code"), ("规格名称", "specification_name"), ("售卖价", "sale_price"),
   ("菜品别名", "dish_alias")]

/-- The source columns of `supplier_catalog`, with their canonical names. -/
def supplierCatalogSourceColumns : List (String × String) :=
  [("供应商编码", "supplier_code"), ("供应商名称", "supplier_name"), ("供应商简称", "supplier_short_name"),
   ("供应商助记码", "supplier_mnemonic"), ("供应商类别", "supplier_category"), ("结算方式", "settlement_method"),
   ("税率", "tax_rate"), ("订单汇总规则", "order_summary_rule"), ("范围控制", "scope_control"),
   ("供货关系", "supply_relationship"), ("适用机构", "applicable_organization"),
   ("采购收货依赖供应商发货", "procurement_receipt_depends_on_supplier_delivery"),
   ("配送依赖供应商发货", "delivery_depends_on_supplier_delivery"), ("发货时录入批次", "record_batch_on_delivery"),
   ("同步收货数据", "synchronize_receipt_data"), ("批次允许编辑", "batch_editable"),
   ("供应商管理库存", "supplier_managed_inventory"), ("允许委外", "outsourcing_allowed"),
   ("控制下单时间", "order_time_control"), ("可下单时间", "orderable_time"),
   ("供应商对账模式", "supplier_reconciliation_mode"), ("允许关闭订单", "close_order_allowed"),
   ("启用状态", "enabled_status"), ("联系人", "contact_name"), ("联系人电话", "contact_phone"),
   ("邮箱地址", "email_address"), ("联系地址", "contact_address"), ("备注", "remarks"),
   ("单位名称", "unit_name"), ("纳税人识别号", "taxpayer_identification_number"), ("电话", "phone"),
   ("单位地址", "unit_address"), ("操作时间", "operated_at")]

/-! ### Registries -/

/-- Does a column name contain one of the parts? -/
def containsAny (sourceColumn : String) (parts : List String) : Bool :=
  parts.any fun part => decide (part.toList <:+: sourceColumn.toList)

/-- The type of a file column, for the datasets with a row table. -/
def inferFieldType (dataset : StructuredDatasetName) (sourceColumn : String) :
    StructuredFieldType :=
  match dataset with
  | .vip =>
    if sourceColumn = "日期" then .date
    else if containsAny sourceColumn ["积分", "笔数", "流水数", "会员数", "数量", "次数", "金额", "余额",
        "收入", "优惠", "折扣", "营业额", "售价"] then .decimal
    else .string
  | .dishCatalog => if sourceColumn = "售卖价" then .decimal else .string
  | .supplierCatalog =>
    if sourceColumn = "税率" then .decimal
    else if sourceColumn = "操作时间" then .dateTime
    else .string
  | _ => .string

def isMeasureColumn (sourceColumn : String) (type : StructuredFieldType) : Bool :=
  type.isNumeric ||
    containsAny sourceColumn ["金额", "营业额", "收入", "优惠", "订单量", "数量", "次数", "毛利", "单均"]

def operatorsForType (type : StructuredFieldType) : List String :=
  if type.isDate then ["eq", "between", "gte", "lte", "in"]
  else if type.isNumeric then ["eq", "between", "gt", "gte", "lt", "lte", "in"]
  else ["eq", "contains", "starts_with", "in"]

/-- A field in the payload of a row. -/
def payloadStorage (canonicalName : String) : StructuredFieldStorageMapping :=
  { column := .payload, jsonPath := some ("$." ++ canonicalName) }

def createSourceDocumentIdField : StructuredFieldRegistryEntry where
  canonicalName := "source_document_id"
  sourceColumn := "source_document_id"
  type := .string
  nullable := false
  inputSource := .derived
  defaultReturn := false
  operators := operatorsForType .string
  capabilities := { filter := false, sort := false, group := false, aggregate := false }
  storage := some { column := .sourceDocumentId }

/-- A metadata field: its name and its type. -/
def createMetadataField (field : String × StructuredFieldType) : StructuredFieldRegistryEntry where
  canonicalName := field.1
  sourceColumn := field.1
  type := field.2
  nullable := false
  inputSource := .uploadMetadata
  defaultReturn := true
  operators := operatorsForType field.2
  capabilities := { filter := true, sort := true, group := true, aggregate := false }
  storage := some (payloadStorage field.1)

/-- The field of a file column at an index. -/
def createFileField (dataset : StructuredDatasetName) (nullable : String → Bool) (index : ℕ)
    (column : String × String) : StructuredFieldRegistryEntry :=
  let (sourceColumn, canonicalName) := column
  let type := inferFieldType dataset sourceColumn
  let isMeasure := isMeasureColumn sourceColumn type
  { canonicalName, sourceColumn, type
    nullable := nullable canonicalName
    inputSource := .file
    defaultReturn := dataset = .dishCatalog || index < 20 ||
      ["business_date", "matched_product_name"].contains canonicalName
    operators := operatorsForType type
    capabilities :=
      { filter := true, sort := type ≠ .string || index < 25, group := !isMeasure
        aggregate := isMeasure }
    storage := some (payloadStorage canonicalName) }

/-- `createRegistry`, for the datasets with a row table. -/
def createRegistry (dataset : StructuredDatasetName) (rowTable : String)
    (sourceColumns : List (String × String)) (nullable : String → Bool)
    (metadataFields : List (String × StructuredFieldType)) : StructuredDatasetRegistry where
  dataset
  accessMode := .rowQuery
  rowTable := some rowTable
  fields := createSourceDocumentIdField :: metadataFields.map createMetadataField ++
    sourceColumns.mapIdx (createFileField dataset nullable)

/-- The name, the source column, the type, whether it may be empty, and where it comes from. -/
def deliveryLedgerFieldDefinitions :
    List (String × String × StructuredFieldType × Bool × InputSource) :=
  [("source_document_id", "source_document_id", .string, false, .derived),
   ("entry_id", "entry_id", .string, false, .derived),
   ("purchase_date", "收货日期", .date, false, .derived),
   ("store_name", "订货机构", .string, false, .derived),
   ("receipt_id", "单据号", .string, false, .derived),
   ("supplier_name", "送货机构", .string, false, .derived),
   ("item_name", "物品名称", .string, false, .file),
   ("specification", "规格型号", .string, false, .file),
   ("purchase_quantity", "收货数量", .decimal, false, .file),
   ("purchase_amount", "收货金额", .decimal, false, .file),
   ("production_date_or_batch", "production_date_or_batch", .string, true, .derived),
   ("shelf_life", "shelf_life", .string, true, .derived),
   ("supplier_contact_phone", "supplier_contact_phone", .string, true, .dynamicLookup),
   ("supplier_unit_address", "supplier_unit_address", .string, true, .dynamicLookup)]

def createDeliveryLedgerField
    (definition : String × String × StructuredFieldType × Bool × InputSource) :
    StructuredFieldRegistryEntry :=
  let (canonicalName, sourceColumn, type, nullable, inputSource) := definition
  let isDynamic : Bool := inputSource = .dynamicLookup
  let isSourceDocumentId : Bool := canonicalName = "source_document_id"
  { canonicalName, sourceColumn, type, nullable, inputSource
    defaultReturn := !isSourceDocumentId
    operators := if isDynamic then [] else operatorsForType type
    capabilities :=
      if isDynamic || isSourceDocumentId then
        { filter := false, sort := false, group := false, aggregate := false }
      else
        { filter := true, sort := true, group := type = .string || type = .date
          aggregate := type = .decimal }
    storage := some (if isSourceDocumentId then { column := .sourceDocumentId }
      else payloadStorage canonicalName) }

def getStructuredRegistry : StructuredDatasetName → StructuredDatasetRegistry
  | .vip => createRegistry .vip "vip_rows" vipSourceColumns (· ≠ "business_date") []
  | .dishCatalog => createRegistry .dishCatalog "dish_catalog_rows" dishCatalogSourceColumns
      (["level_2_category_code", "specification_name", "dish_alias"].contains ·)
      [("snapshot_date", .date)]
  | .supplierCatalog => createRegistry .supplierCatalog "supplier_catalog_rows"
      supplierCatalogSourceColumns
      (fun name => (supplierCatalogSourceColumns.map (·.2)).contains name &&
        name ≠ "supplier_name") []
  | .deliveryLedger =>
    { dataset := .deliveryLedger, accessMode := .rowQuery, rowTable := some "delivery_ledger_rows"
      fields := deliveryLedgerFieldDefinitions.map createDeliveryLedgerField }
  | .costCards =>
    { dataset := .costCards, accessMode := .catalogQuery, rowTable := none, fields := [] }
  | dataset => { dataset, accessMode := .partitionExtract, rowTable := none, fields := [] }

end StructuredQuery
end SmeDataCenter
