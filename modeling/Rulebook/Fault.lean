import Rulebook.Text.Word

/-!
# Faults

A `Rejection` is a rule or a grouping that the user has to mend, a `Fault` anything that stops an
operation on a workbook. `Fault.code` is the stable name of its kind, `Fault.message` what the user
reads.
-/

set_option autoImplicit false

namespace Rulebook

open Text

/-- Why a rule or a grouping is refused. -/
inductive Rejection where
  | emptyName
  | emptyText
  | duplicateName (name : String)
  | emptyGroupKey
  | duplicateGroupField (field : String)
deriving DecidableEq, Repr

namespace Rejection

/-- The stable name of the reason. -/
def kind : Rejection → String
  | emptyName => "empty_name"
  | emptyText => "empty_text"
  | duplicateName _ => "duplicate_name"
  | emptyGroupKey => "empty_group_key"
  | duplicateGroupField _ => "duplicate_group_field"

/-- What the user reads. -/
def reason : Rejection → String
  | emptyName => "规则名称不能为空"
  | emptyText => "规则描述不能为空"
  | duplicateName name => "规则名称已存在: " ++ name
  | emptyGroupKey => "分组字段不能为空"
  | duplicateGroupField field => "分组字段重复: " ++ field

end Rejection

/-- What stops an operation. -/
inductive Fault where
  | rejected (rejection : Rejection)
  | ruleNotFound (index size : Nat)
  | strayOrder (order : List Nat) (size : Nat)
  | incompleteOrder (order : List Nat) (size : Nat)
  | unreadableJson
  | inaccessibleFile
deriving DecidableEq, Repr

namespace Fault

/-- The stable name of the kind of fault. -/
def code : Fault → String
  | rejected _ => "VALIDATION_ERROR"
  | ruleNotFound _ _ => "RULE_NOT_FOUND"
  | strayOrder _ _ => "INVALID_SNAPSHOT"
  | incompleteOrder _ _ => "INVALID_SNAPSHOT"
  | unreadableJson => "JSON_ERROR"
  | inaccessibleFile => "IO_ERROR"

/-- What the user reads. -/
def message : Fault → String
  | rejected rejection => "参数验证失败: " ++ rejection.reason
  | ruleNotFound index size =>
      "规则未找到: index=" ++ numeral index ++ ", 当前共 " ++ numeral size ++ " 条规则"
  | strayOrder order size =>
      "快照数据无效: 规则顺序 " ++ numerals order ++ " 不是 0.." ++ numeral size ++ " 的排列"
  | incompleteOrder order size =>
      "快照数据无效: 规则顺序 " ++ numerals order ++ " 缺少部分规则（共 " ++ numeral size ++ " 条）"
  | unreadableJson => "JSON 序列化错误"
  | inaccessibleFile => "IO 错误"

end Fault

end Rulebook
