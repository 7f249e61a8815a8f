import SmeDataCenter.CostCards
import SmeDataCenter.PartitionExport

/-!
# The registry that files are read by

For every dataset, its fields with the headers they are known by, and how the sheets, the
metadata and the dates of a file are treated. The headers of a file are matched with the fields
that come from files; a header that several fields are known by is ambiguous.
-/

namespace SmeDataCenter
namespace Import

open StructuredQuery

structure ImportField where
  canonicalName : String
  sourceColumn : String
  aliases : List String
  type : StructuredFieldType
  nullable : Bool
  inputSource : InputSource

inductive SheetPolicy where
  | strictAllNonempty
  | importMatchingVisible
  | costCardCandidates
  deriving DecidableEq

inductive MetadataPolicy where
  | window
  | snapshot
  | derivedReceipt
  | none
  deriving DecidableEq

inductive DatePolicy where
  | rowBusinessDate
  | snapshotMetadata
  deriving DecidableEq

structure ImportRegistry where
  dataset : StructuredDatasetName
  sheetPolicy : SheetPolicy
  metadataPolicy : MetadataPolicy
  datePolicy : Option DatePolicy
  fields : List ImportField

/-! ### Columns -/

/-- The source columns of `dishes`, with their canonical names. -/
def dishSourceColumns : List (String × String) :=
  [("下单时间", "order_time"), ("门店", "store_name"), ("省份", "province"), ("城市", "city"),
   ("区域", "district"), ("一级组织机构", "organization_level_1"), ("二级组织机构", "organization_level_2"),
   ("三级组织机构", "organization_level_3"), ("四级组织机构", "organization_level_4"),
   ("是否是会员", "is_member"), ("菜品名称", "product_name"), ("时段", "time_slot"),
   ("关联菜品名称", "matched_product_name"), ("订单分类", "order_category"), ("营业日", "business_date"),
   ("营业周", "business_week"), ("营业月", "business_month"), ("菜品销售方式名称", "dish_sales_method_name"),
   ("加料名称", "modifier_name"), ("做法名称", "preparation_name"), ("商户号", "merchant_id"),
   ("组织机构编码", "organization_code"), ("菜品销售数量", "dish_sales_quantity"),
   ("菜品销售额", "dish_sales_amount"), ("菜品优惠", "dish_discount_amount"), ("菜品收入", "dish_revenue"),
   ("菜品关联加料销售额", "dish_modifier_sales_amount"), ("菜品关联加料收入", "dish_modifier_revenue"),
   ("菜品关联做法销售额", "dish_preparation_sales_amount"), ("菜品关联做法收入", "dish_preparation_revenue"),
   ("菜品关联餐盒销售额", "dish_packaging_sales_amount"),
   ("菜品关联做法优惠", "dish_preparation_discount_amount"),
   ("菜品关联餐盒优惠", "dish_packaging_discount_amount"), ("菜品关联正向订单量", "dish_positive_order_count"),
   ("菜品关联逆向订单量", "dish_reverse_order_count"), ("菜品总销售额", "dish_total_sales_amount"),
   ("菜品总收入", "dish_total_revenue"), ("菜品总优惠", "dish_total_discount_amount"),
   ("菜品平均售价_菜品本身", "dish_average_unit_price"),
   ("菜品平均售价_菜品及关联加料做法餐盒", "dish_total_average_unit_price"),
   ("菜品平均收入_菜品本身", "dish_average_revenue"),
   ("菜品平均收入_菜品及关联加料做法餐盒", "dish_total_average_revenue"), ("销量占比", "dish_sales_quantity_share"),
   ("菜品营业额占比", "dish_sales_amount_share"), ("退菜数量", "returned_dish_quantity"),
   ("退菜金额", "returned_dish_amount"), ("菜品总毛利额（折前）", "dish_total_gross_margin_before_discount"),
   ("菜品总毛利额（折后）", "dish_total_gross_margin_after_discount"), ("出餐订单数", "serving_order_count"),
   ("菜品总毛利率（折前）", "dish_total_gross_margin_rate_before_discount"),
   ("菜品总毛利率（折后）", "dish_total_gross_margin_rate_after_discount")]

/-- The source columns of `business`, with their canonical names; six have the name that
`fallbackAsciiName` gives them. -/
def businessSourceColumns : List (String × String) :=
  [("营业日期", "business_date"), ("周", "business_week"), ("月", "business_month"),
   ("门店名称", "store_name"), ("城市", "city"), ("商户号", "merchant_id"),
   ("一级组织机构名称", "organization_level_1_name"), ("二级组织机构名称", "organization_level_2_name"),
   ("三级组织机构名称", "organization_level_3_name"), ("四级组织机构名称", "organization_level_4_name"),
   ("订单分类", "order_category"), ("订单来源", "order_source"), ("时段", "time_slot"),
   ("餐段", "meal_period"), ("退单类型名称", "refund_type_name"), ("是否是会员", "is_member"),
   ("就餐方式", "dining_method"), ("营业额(元)", "gross_sales_amount"), ("桌台数量", "table_count"),
   ("桌台使用次数", "table_use_count"), ("开台率", "open_rate"), ("翻台率", "table_turnover_rate"),
   ("有效订单量", "valid_order_count"), ("订单营业收入", "order_revenue"), ("优惠金额", "discount_amount"),
   ("逆向订单量", "reverse_order_count"), ("正向订单量", "positive_order_count"),
   ("已结账订单量", "settled_order_count"), ("折扣率", "discount_rate"),
   ("折前单均", "average_order_value_before_discount"),
   ("折后单均", "average_order_value_after_discount"), ("桌台数x营业天数", "table_days"),
   ("消费桌数", "served_table_count"), ("消费次数", "consumption_count"),
   ("会员消费金额", "member_consumption_amount"), ("会员订单收入", "member_order_revenue"),
   ("店内营业额", "dine_in_sales_amount"), ("店内营业收入", "dine_in_revenue"),
   ("店内优惠金额", "dine_in_discount_amount"),
   ("店内折前单均", "dine_in_average_order_value_before_discount"),
   ("店内正向单订单量", "dine_in_positive_order_count"), ("店内退单量", "dine_in_refund_order_count"),
   ("店内已结账订单量", "dine_in_settled_order_count"), ("店内退款金额", "dine_in_refund_amount"),
   ("外卖营业额", "delivery_sales_amount"), ("店内订单量", "dine_in_order_count"),
   ("外卖营业收入", "delivery_revenue"), ("外卖折扣金额", "delivery_discount_amount"),
   ("外卖折前单均", "delivery_average_order_value_before_discount"),
   ("外卖折后单均", "delivery_average_order_value_after_discount"), ("外卖订单量", "delivery_order_count"),
   ("外卖正向单订单量", "delivery_positive_order_count"), ("外卖退单量", "delivery_refund_order_count"),
   ("外卖退款金额", "delivery_refund_amount"), ("美团外卖营业额", "meituan_delivery_sales_amount"),
   ("美团外卖营业收入", "meituan_delivery_revenue"), ("美团外卖折扣金额", "meituan_delivery_discount_amount"),
   ("美团外卖订单量", "meituan_delivery_order_count"),
   ("美团外卖正向单订单量", "meituan_delivery_positive_order_count"),
   ("美团外卖退单量", "meituan_delivery_refund_order_count"),
   ("美团外卖已结账订单量", "meituan_delivery_settled_order_count"),
   ("美团外卖折前单均", "meituan_delivery_average_order_value_before_discount"),
   ("美团外卖折后单均", "meituan_delivery_average_order_value_after_discount"),
   ("美团外卖退款金额", "meituan_delivery_refund_amount"), ("京东外卖营业额", "jd_delivery_sales_amount"),
   ("京东外卖营业收入", "jd_delivery_revenue"), ("京东外卖折扣金额", "jd_delivery_discount_amount"),
   ("京东外卖折前单均", "jd_delivery_average_order_value_before_discount"),
   ("京东外卖折后单均", "jd_delivery_average_order_value_after_discount"),
   ("京东外卖订单量", "jd_delivery_order_count"), ("京东外卖正向单订单量", "jd_delivery_positive_order_count"),
   ("京东外卖退单量", "jd_delivery_refund_order_count"),
   ("京东外卖已结账订单量", "jd_delivery_settled_order_count"), ("京东外卖退款金额", "jd_delivery_refund_amount"),
   ("饿了么外卖营业额", "eleme_delivery_sales_amount"), ("饿了么外卖营业收入", "eleme_delivery_revenue"),
   ("饿了么外卖折扣金额", "eleme_delivery_discount_amount"),
   ("饿了么外卖折前单均", "eleme_delivery_average_order_value_before_discount"),
   ("饿了么外卖折后单均", "eleme_delivery_average_order_value_after_discount"),
   ("饿了么外卖订单量", "eleme_delivery_order_count"),
   ("饿了么外卖正向单订单量", "eleme_delivery_positive_order_count"),
   ("饿了么外卖退单量", "eleme_delivery_refund_order_count"),
   ("饿了么外卖已结账订单量", "eleme_delivery_settled_order_count"),
   ("饿了么外卖退款金额", "eleme_delivery_refund_amount"), ("自提营业额", "pickup_sales_amount"),
   ("自提营业收入", "pickup_revenue"), ("自提折扣金额", "pickup_discount_amount"),
   ("自提折前单均", "business_088_pickup_avg_before_discount"),
   ("自提折后单均", "business_089_pickup_avg_after_discount"), ("自提订单量", "pickup_order_count"),
   ("自提正向单订单量", "pickup_positive_order_count"), ("自提已结账订单量", "pickup_settled_order_count"),
   ("自提退单量", "pickup_refund_order_count"), ("自提退款金额", "pickup_refund_amount"),
   ("现金营业额", "cash_sales_amount"), ("现金营业收入", "cash_revenue"),
   ("现金优惠金额", "cash_discount_amount"), ("现金支付次数", "cash_payment_count"),
   ("扫码支付营业收入", "qr_payment_revenue"), ("扫码支付营业额", "qr_payment_sales_amount"),
   ("扫码支付优惠金额", "qr_payment_discount_amount"), ("扫码支付支付次数", "qr_payment_count"),
   ("扫码支付微信营业额", "qr_payment_wechat_sales_amount"),
   ("扫码支付支付宝营业额", "qr_payment_alipay_sales_amount"),
   ("扫码支付微信营业收入", "qr_payment_wechat_revenue"), ("扫码支付支付宝营业收入", "qr_payment_alipay_revenue"),
   ("扫码支付微信优惠金额", "qr_payment_wechat_discount_amount"),
   ("扫码支付支付宝优惠金额", "qr_payment_alipay_discount_amount"),
   ("扫码支付微信支付次数", "qr_payment_wechat_count"), ("扫码支付支付宝支付次数", "qr_payment_alipay_count"),
   ("团购营业额", "group_buy_sales_amount"), ("美团团购营业额", "meituan_group_buy_sales_amount"),
   ("抖音团购营业额", "douyin_group_buy_sales_amount"), ("快手团购营业额", "kuaishou_group_buy_sales_amount"),
   ("团购营业收入", "group_buy_revenue"), ("美团团购营业收入", "meituan_group_buy_revenue"),
   ("抖音团购营业收入", "douyin_group_buy_revenue"), ("快手团购营业收入", "kuaishou_group_buy_revenue"),
   ("团购优惠金额", "group_buy_discount_amount"), ("美团团购优惠金额", "meituan_group_buy_discount_amount"),
   ("抖音团购优惠金额", "douyin_group_buy_discount_amount"),
   ("快手团购优惠金额", "kuaishou_group_buy_discount_amount"), ("团购支付次数", "group_buy_payment_count"),
   ("美团团购支付次数", "meituan_group_buy_payment_count"),
   ("抖音团购支付次数", "douyin_group_buy_payment_count"),
   ("快手团购支付次数", "kuaishou_group_buy_payment_count"), ("抵用券营业额", "voucher_sales_amount"),
   ("抵用券营业收入", "voucher_revenue"), ("抵用券优惠金额", "voucher_discount_amount"),
   ("抵用券支付次数", "voucher_payment_count"), ("优惠券营业额", "coupon_sales_amount"),
   ("优惠券营业收入", "coupon_revenue"), ("优惠券优惠金额", "coupon_discount_amount"),
   ("优惠券支付次数", "coupon_payment_count"), ("自定义记账营业额", "custom_accounting_sales_amount"),
   ("自定义记账营业收入", "custom_accounting_revenue"),
   ("自定义记账优惠金额", "custom_accounting_discount_amount"),
   ("自定义记账支付次数", "custom_accounting_payment_count"),
   ("店内营销会员订单量", "dine_in_marketing_member_order_count"),
   ("店内非会员订单量", "dine_in_non_member_order_count"),
   ("外卖营销会员订单量", "delivery_marketing_member_order_count"),
   ("外卖营销会员单均营业额", "business_142_takeout_gross_sales_member_marketing"),
   ("店内营销会员营业额", "dine_in_marketing_member_sales_amount"),
   ("店内非会员营业额", "dine_in_non_member_sales_amount"),
   ("店内营销会员营业收入", "dine_in_marketing_member_revenue"),
   ("店内营销会员单均营业额", "business_146_dine_in_gross_sales_member_marketing"),
   ("外卖营销会员营业额", "delivery_marketing_member_sales_amount"),
   ("外卖已结账订单量", "delivery_settled_order_count"),
   ("店内折后单均", "business_149_dine_in_avg_after_discount"),
   ("店内非会员单均营业收入", "business_150_dine_in_revenue_member_non_member"), ("用餐人数", "diner_count"),
   ("营业天数", "business_day_count")]

def dishExplicitTypes : List (String × StructuredFieldType) :=
  [("菜品销售数量", .decimal), ("菜品关联正向订单量", .integer), ("菜品关联逆向订单量", .integer), ("退菜数量", .decimal),
   ("出餐订单数", .integer)]

def businessExplicitTypes : List (String × StructuredFieldType) :=
  [("桌台数量", .integer), ("桌台使用次数", .integer), ("有效订单量", .decimal), ("逆向订单量", .decimal),
   ("正向订单量", .decimal), ("已结账订单量", .decimal), ("桌台数x营业天数", .integer), ("消费桌数", .integer),
   ("消费次数", .integer), ("店内正向单订单量", .decimal), ("店内退单量", .decimal), ("店内已结账订单量", .decimal),
   ("店内订单量", .decimal), ("外卖订单量", .decimal), ("外卖正向单订单量", .decimal), ("外卖退单量", .decimal),
   ("美团外卖订单量", .decimal), ("美团外卖正向单订单量", .decimal), ("美团外卖退单量", .decimal),
   ("美团外卖已结账订单量", .decimal), ("京东外卖订单量", .decimal), ("京东外卖正向单订单量", .decimal),
   ("京东外卖退单量", .decimal), ("京东外卖已结账订单量", .decimal), ("饿了么外卖订单量", .decimal),
   ("饿了么外卖正向单订单量", .decimal), ("饿了么外卖退单量", .decimal), ("饿了么外卖已结账订单量", .decimal),
   ("自提订单量", .decimal), ("自提正向单订单量", .decimal), ("自提已结账订单量", .decimal), ("自提退单量", .decimal),
   ("现金支付次数", .decimal), ("扫码支付支付次数", .decimal), ("扫码支付微信支付次数", .decimal),
   ("扫码支付支付宝支付次数", .decimal), ("团购支付次数", .decimal), ("美团团购支付次数", .decimal),
   ("抖音团购支付次数", .decimal), ("快手团购支付次数", .decimal), ("抵用券支付次数", .decimal), ("优惠券支付次数", .decimal),
   ("自定义记账支付次数", .decimal), ("店内营销会员订单量", .decimal), ("店内非会员订单量", .decimal),
   ("外卖营销会员订单量", .decimal), ("外卖已结账订单量", .decimal), ("用餐人数", .integer), ("营业天数", .integer)]

def inStoreOrderFields : List (String × String × StructuredFieldType) :=
  [("store_name", "门店", .string), ("organization_code", "机构编码", .string),
   ("business_date", "营业日期", .date), ("order_id", "订单号", .string),
   ("operating_mode", "经营模式", .string), ("order_source", "订单来源", .string),
   ("dining_mode", "用餐方式", .string), ("ordered_at", "下单时间", .dateTime),
   ("settled_at", "结账时间", .dateTime), ("refunded_at", "退单时间", .dateTime),
   ("pickup_number", "取餐号", .string), ("table_number", "桌牌号", .string),
   ("omnichannel_transaction_id", "全渠道流水号", .string), ("table_area", "桌台区域", .string),
   ("diner_count", "用餐人数", .decimal), ("order_amount", "订单金额（元）", .decimal),
   ("customer_payable", "顾客应付（元）", .decimal), ("payment_total", "支付合计（元）", .decimal),
   ("order_discount", "订单优惠（元）", .decimal), ("order_income", "订单收入（元）", .decimal),
   ("payment_method", "结账方式", .string), ("order_status", "订单状态", .string),
   ("refund_flag", "退单标识", .string), ("dish_income", "菜品收入（元）", .decimal),
   ("service_fee", "服务费（元）", .decimal), ("service_fee_discount", "服务费优惠（元）", .decimal),
   ("service_fee_income", "服务费收入（元）", .decimal), ("scheduled_dining_at", "预定用餐时间", .dateTime),
   ("member", "会员", .string), ("order_note", "整单备注", .string)]

def takeawayOrderFields : List (String × String × StructuredFieldType) :=
  [("store_name", "门店", .string), ("organization_code", "机构编码", .string),
   ("order_source", "订单来源", .string), ("takeaway_order_id", "外卖订单号", .string),
   ("cashier_order_id", "收银订单号", .string), ("order_status", "订单状态", .string),
   ("order_form", "订单形式", .string), ("refund_flag", "退单标识", .string),
   ("pickup_number", "取餐号", .string), ("omnichannel_transaction_id", "全渠道流水号", .string),
   ("business_date", "营业日期", .date), ("ordered_at", "下单时间", .dateTime),
   ("accepted_at", "接单时间", .dateTime), ("completed_at", "完成时间", .dateTime),
   ("cancelled_at", "取消时间", .dateTime), ("refunded_at", "退单时间", .dateTime),
   ("delivery_method", "配送方式", .string), ("dish_total", "菜品总价(元)", .decimal),
   ("packaging_fee", "餐盒费(元)", .decimal), ("delivery_fee", "配送费(元)", .decimal),
   ("order_amount", "订单金额(元)", .decimal),
   ("merchant_delivery_income", "配送费(商家收入)(元)", .decimal),
   ("takeaway_turnover", "外卖营业额(元)", .decimal), ("platform_service_fee", "平台服务费(元)", .decimal),
   ("merchant_promotion_expense", "商家活动支出(元)", .decimal),
   ("other_expense", "其他支出(元)", .decimal),
   ("original_expected_income", "本单预计收入(原)(元)", .decimal),
   ("partial_refund", "部分退款(元)", .decimal),
   ("business_discount_expense", "营业优惠/支出(元)", .decimal),
   ("business_income", "营业收入(元)", .decimal), ("customer_paid", "顾客实付(元)", .decimal),
   ("packaging_discount", "餐盒费优惠(元)", .decimal), ("packaging_income", "餐盒费收入(元)", .decimal)]

/-! ### Registries -/

/-- The other headers of a column. -/
def otherHeaders : StructuredDatasetName → String → List String
  | .dishes, "下单时间" => ["订单时间"]
  | .dishes, "门店" => ["门店名称"]
  | .dishes, "营业日" => ["营业日期"]
  | .business, "营业日期" => ["营业日"]
  | .business, "门店名称" => ["门店"]
  | .vip, "日期" => ["营业日期", "营业日"]
  | .vip, "周" => ["营业周"]
  | .vip, "月份" => ["月"]
  | .vip, "储值门店名称" => ["门店名称"]
  | _, _ => []

def aliasesFor (dataset : StructuredDatasetName) (sourceColumn : String) : List String :=
  sourceColumn :: otherHeaders dataset sourceColumn

/-- `inferFieldType` for the datasets that are extracted by partition. -/
def inferExtractFieldType (dataset : StructuredDatasetName) (sourceColumn : String) :
    StructuredFieldType :=
  if ["营业日", "营业日期"].contains sourceColumn then .date
  else if sourceColumn = "下单时间" then .dateTime
  else if sourceColumn = "时段" then .timeRange
  else if containsAny sourceColumn ["率", "占比"] then .percent
  else if containsAny sourceColumn ["销售数量"] then .decimal
  else if dataset = .dishes && containsAny sourceColumn
      ["数量", "次数", "订单数", "桌数", "人数", "营业天数", "桌台数量", "支付次数"] then .integer
  else if containsAny sourceColumn ["额", "收入", "优惠", "单均", "金额", "售价", "折扣"] then .decimal
  else .string

/-- A field of a dataset that is extracted by partition. -/
def createExtractField (dataset : StructuredDatasetName)
    (explicitTypes : List (String × StructuredFieldType)) (column : String × String) :
    ImportField where
  canonicalName := column.2
  sourceColumn := column.1
  aliases := aliasesFor dataset column.1
  type := (explicitTypes.lookup column.1).getD (inferExtractFieldType dataset column.1)
  nullable := column.2 ≠ "business_date"
  inputSource := .file

/-- A field of an order dataset. -/
def createOrderField (field : String × String × StructuredFieldType) : ImportField where
  canonicalName := field.1
  sourceColumn := field.2.1
  aliases := []
  type := field.2.2
  nullable := !(["store_name", "business_date"].contains field.1)
  inputSource := if field.1 = "payment_method_json" then .derived else .file

/-- The other headers of a field of `delivery_ledger`. -/
def deliveryLedgerAliases : String → List String
  | "entry_id" => ["序号"]
  | "purchase_date" => ["进货日期"]
  | "supplier_name" => ["供货单位名称"]
  | "item_name" => ["食品名称"]
  | "specification" => ["规格"]
  | "purchase_quantity" => ["进货数量"]
  | "purchase_amount" => ["进货金额"]
  | "production_date_or_batch" => ["生产日期或生产批号"]
  | "shelf_life" => ["保质期"]
  | "supplier_contact_phone" => ["供货单位联系方式"]
  | "supplier_unit_address" => ["供货单位地址"]
  | _ => []

/-- A field of the registry for queries, with its headers. -/
def importFieldOf (aliases : List String) (entry : StructuredFieldRegistryEntry) :
    ImportField where
  canonicalName := entry.canonicalName
  sourceColumn := entry.sourceColumn
  aliases
  type := entry.type
  nullable := entry.nullable
  inputSource := entry.inputSource

/-- The fields of a dataset that is queried by rows. -/
def queryFields (dataset : StructuredDatasetName) : List ImportField :=
  (getStructuredRegistry dataset).fields.map fun entry =>
    importFieldOf (aliasesFor dataset entry.sourceColumn) entry

def costCardField (field : CostCardUploadField) : ImportField where
  canonicalName := field.canonicalName
  sourceColumn := field.sourceColumn
  aliases := []
  type := field.type
  nullable := field.nullable
  inputSource := .file

def getImportRegistry : StructuredDatasetName → ImportRegistry
  | .dishes => ⟨.dishes, .strictAllNonempty, .window, some .rowBusinessDate,
      dishSourceColumns.map (createExtractField .dishes dishExplicitTypes)⟩
  | .business => ⟨.business, .strictAllNonempty, .window, some .rowBusinessDate,
      businessSourceColumns.map (createExtractField .business businessExplicitTypes)⟩
  | .inStoreOrders => ⟨.inStoreOrders, .strictAllNonempty, .window, some .rowBusinessDate,
      inStoreOrderFields.map createOrderField ++
        [createOrderField ("payment_method_json", "结账方式JSON", .string)]⟩
  | .takeawayOrders => ⟨.takeawayOrders, .strictAllNonempty, .window, some .rowBusinessDate,
      takeawayOrderFields.map createOrderField⟩
  | .vip => ⟨.vip, .strictAllNonempty, .window, some .rowBusinessDate, queryFields .vip⟩
  | .dishCatalog => ⟨.dishCatalog, .importMatchingVisible, .snapshot, some .snapshotMetadata,
      queryFields .dishCatalog⟩
  | .deliveryLedger => ⟨.deliveryLedger, .strictAllNonempty, .derivedReceipt, none,
      (getStructuredRegistry .deliveryLedger).fields.map fun entry =>
        importFieldOf (distinct (entry.sourceColumn :: deliveryLedgerAliases entry.canonicalName))
          entry⟩
  | .supplierCatalog => ⟨.supplierCatalog, .importMatchingVisible, .none, none,
      queryFields .supplierCatalog⟩
  | .costCards => ⟨.costCards, .costCardCandidates, .none, none,
      costCardUploadSchema.map costCardField⟩

/-! ### Headers -/

def normalizeHeader (header : String) : String :=
  String.ofList (collapseSpaces false (Text.trim header.toList))

inductive HeaderErrorCode where
  | unknownColumn
  | missingRequiredColumn
  | ambiguousColumn
  | duplicateColumn
  deriving DecidableEq

def HeaderErrorCode.text : HeaderErrorCode → String
  | .unknownColumn => "UNKNOWN_COLUMN"
  | .missingRequiredColumn => "MISSING_REQUIRED_COLUMN"
  | .ambiguousColumn => "AMBIGUOUS_COLUMN"
  | .duplicateColumn => "DUPLICATE_COLUMN"

structure HeaderValidationError where
  code : HeaderErrorCode
  column : String
  canonicalNames : List String := []
  deriving DecidableEq

inductive HeaderLookupValue where
  | field (field : ImportField)
  | ambiguous (canonicalNames : List String)

/-- What a header stands for after a field is known by it too. -/
def addHeader (lookup : List (String × HeaderLookupValue)) (field : ImportField)
    (rawAlias : String) : List (String × HeaderLookupValue) :=
  let header := normalizeHeader rawAlias
  match lookup.lookup header with
  | none => (header, .field field) :: lookup
  | some existing =>
    let canonicalNames :=
      match existing with
      | .ambiguous canonicalNames => canonicalNames
      | .field other => [other.canonicalName, field.canonicalName]
    (header, .ambiguous (sortStrings (distinct canonicalNames))) :: lookup

def buildStructuredHeaderLookup (fields : List ImportField) : List (String × HeaderLookupValue) :=
  fields.foldl (fun lookup field =>
    (distinct (field.sourceColumn :: field.aliases)).foldl (addHeader · field) lookup) []

structure HeaderMapping where
  canonicalName : String
  sourceColumnIndex : ℕ
  deriving DecidableEq

structure HeaderScan where
  errors : List HeaderValidationError := []
  seenCanonicalNames : List String := []
  seenHeaders : List String := []
  fields : List HeaderMapping := []

/-- A header and the index of its column. -/
def scanHeader (lookup : List (String × HeaderLookupValue)) (scan : HeaderScan)
    (rawHeader : String × ℕ) : HeaderScan :=
  let header := normalizeHeader rawHeader.1
  let refused (error : HeaderValidationError) (seenHeaders : List String) : HeaderScan :=
    { scan with errors := scan.errors ++ [error], seenHeaders }
  if header = "" then scan
  else if scan.seenHeaders.contains header then
    refused { code := .duplicateColumn, column := header } scan.seenHeaders
  else
    let seenHeaders := header :: scan.seenHeaders
    match lookup.lookup header with
    | none => refused { code := .unknownColumn, column := header } seenHeaders
    | some (.ambiguous canonicalNames) =>
      refused { code := .ambiguousColumn, column := header, canonicalNames } seenHeaders
    | some (.field field) =>
      if scan.seenCanonicalNames.contains field.canonicalName then
        refused { code := .duplicateColumn, column := header } seenHeaders
      else
        { scan with
          seenHeaders
          seenCanonicalNames := field.canonicalName :: scan.seenCanonicalNames
          fields := scan.fields ++ [⟨field.canonicalName, rawHeader.2⟩] }

/-- Datasets whose headers have no blank between them. -/
def refusesBlankHeaders (dataset : StructuredDatasetName) : Bool :=
  [.supplierCatalog, .costCards, .inStoreOrders, .takeawayOrders].contains dataset

/-- The fields, unless there are errors. -/
def headerResolution (errors : List HeaderValidationError) (fields : List HeaderMapping) :
    Except (List HeaderValidationError) (List HeaderMapping) :=
  if errors = [] then .ok fields else .error errors

lemma headerResolution_ne (errors : List HeaderValidationError) (fields : List HeaderMapping) :
    headerResolution errors fields ≠ .error [] := by
  unfold headerResolution
  split
  · exact nofun
  · rename_i h
    exact fun herror => h (Except.error.inj herror)

/-- The fields of the headers of a file, or what is wrong with them. -/
def resolveStructuredHeaders (dataset : StructuredDatasetName) (headers : List String) :
    Except (List HeaderValidationError) (List HeaderMapping) :=
  let fileFields := (getImportRegistry dataset).fields.filter fun field => field.inputSource = .file
  let hasBlank := headers.any fun header => normalizeHeader header = ""
  let unknown : List HeaderValidationError := [{ code := .unknownColumn, column := "" }]
  let scan := headers.zipIdx.foldl (scanHeader (buildStructuredHeaderLookup fileFields))
    { errors :=
        (if dataset = .dishCatalog && (headers.length ≠ fileFields.length || hasBlank) then unknown
          else []) ++
        (if refusesBlankHeaders dataset && hasBlank then unknown else []) }
  let missing := fileFields.filter fun field =>
    !(dataset = .supplierCatalog && field.nullable) &&
      !scan.seenCanonicalNames.contains field.canonicalName
  let errors := scan.errors ++
    missing.map fun field => { code := .missingRequiredColumn, column := field.sourceColumn }
  headerResolution errors scan.fields

lemma resolveStructuredHeaders_ne (dataset : StructuredDatasetName) (headers : List String) :
    resolveStructuredHeaders dataset headers ≠ .error [] := headerResolution_ne _ _

end Import
end SmeDataCenter
