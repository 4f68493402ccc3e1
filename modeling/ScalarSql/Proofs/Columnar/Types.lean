import ScalarSql.Columnar.Basic
import ScalarSql.Proofs.Computation
import ScalarSql.Proofs.DataType

/-!
# Types of exported columns

The type of a column that values of a type are exported to names that type: read back, it has the
same fields under the same names in the same order, and the same types of items, at any depth.
Only an unresolved part is not named.  It is exported to a column that is declared to hold nothing
but `NULL`, which queries do not handle, so the whole type is refused, wherever the part stands,
`ColumnType.toDataType_ofDataType`.
-/

set_option autoImplicit false

namespace ScalarSql.ColumnType

/-- The refusal of a column that is declared to hold nothing but `NULL`. -/
def refusal : Error :=
  .typeMismatch "Int32|Int64|Float64|Utf8|Boolean|Decimal128|Struct|List" "Null"

mutual

/-- What an exported type is read back as. -/
theorem toDataType_ofDataType_eq : ∀ type : DataType,
    (ofDataType type).toDataType = if type.hasUnresolved then .error refusal else .ok type
  | .struct fields => by
      rw [ofDataType, toDataType, fieldTypes_ofFields_eq fields, DataType.hasUnresolved]
      split <;> rfl
  | .array element => by
      rw [ofDataType, toDataType, toDataType_ofDataType_eq element, DataType.hasUnresolved]
      split <;> rfl
  | .int | .long | .double | .string | .boolean | .decimal | .unresolved => rfl

theorem fieldTypes_ofFields_eq : ∀ fields : List (String × DataType),
    fieldTypes (ofFields fields)
      = if DataType.fieldsHaveUnresolved fields then .error refusal else .ok fields
  | [] => rfl
  | (name, type) :: rest => by
      rw [ofFields, fieldTypes, toDataType_ofDataType_eq type, fieldTypes_ofFields_eq rest,
        DataType.fieldsHaveUnresolved]
      -- The first field without a type decides, and all refusals are the same.
      cases type.hasUnresolved with
      | true => rfl
      | false => cases DataType.fieldsHaveUnresolved rest <;> rfl

end

/-- **An exported type is read back as itself** if and only if no part of it is unresolved, and
refused otherwise. -/
theorem toDataType_ofDataType (type : DataType) :
    ((ofDataType type).toDataType = .ok type ↔ ¬ DataType.unresolved.IsPart type) ∧
    ((ofDataType type).toDataType = .error refusal ↔ DataType.unresolved.IsPart type) := by
  rw [toDataType_ofDataType_eq, ← DataType.hasUnresolved_iff_isPart]
  cases type.hasUnresolved with
  | true => exact ⟨⟨nofun, fun resolved => absurd rfl resolved⟩, fun _ => rfl, fun _ => rfl⟩
  | false => exact ⟨⟨fun _ => nofun, fun _ => rfl⟩, nofun, nofun⟩

end ScalarSql.ColumnType
