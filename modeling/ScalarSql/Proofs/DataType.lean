import ScalarSql.DataType

/-!
# Parts of types

What a type is made of, at any depth: the type itself, the types of its fields and of its items,
and their parts in turn, `DataType.IsPart`.  A type has an unresolved part if and only if
`DataType.hasUnresolved` finds one, `DataType.hasUnresolved_iff_isPart`.
-/

set_option autoImplicit false

namespace ScalarSql.DataType

/-- The first type is the second one or stands somewhere inside it. -/
inductive IsPart : DataType → DataType → Prop
  | whole (type : DataType) : IsPart type type
  | field {inner : DataType} {fields : List (String × DataType)} {field : String × DataType}
      (member : field ∈ fields) (inside : IsPart inner field.2) : IsPart inner (.struct fields)
  | item {inner element : DataType} (inside : IsPart inner element) :
      IsPart inner (.array element)

variable {inner element : DataType} {fields : List (String × DataType)}

theorem isPart_struct_iff : inner.IsPart (.struct fields) ↔
    inner = .struct fields ∨ ∃ field ∈ fields, inner.IsPart field.2 := by
  constructor
  · intro part
    cases part with
    | whole => exact .inl rfl
    | field member inside => exact .inr ⟨_, member, inside⟩
  · rintro (rfl | ⟨field, member, inside⟩)
    · exact .whole _
    · exact .field member inside

theorem isPart_array_iff :
    inner.IsPart (.array element) ↔ inner = .array element ∨ inner.IsPart element := by
  constructor
  · intro part
    cases part with
    | whole => exact .inl rfl
    | item inside => exact .inr inside
  · rintro (rfl | inside)
    · exact .whole _
    · exact .item inside

mutual

/-- **A type has an unresolved part** if and only if one is found. -/
theorem hasUnresolved_iff_isPart : ∀ type : DataType,
    type.hasUnresolved = true ↔ unresolved.IsPart type
  | .struct fields => by
      rw [hasUnresolved, fieldsHaveUnresolved_iff_isPart fields, isPart_struct_iff]
      simp only [reduceCtorEq, false_or]
  | .array element => by
      rw [hasUnresolved, hasUnresolved_iff_isPart element, isPart_array_iff]
      simp only [reduceCtorEq, false_or]
  | .int | .long | .double | .string | .boolean | .decimal => ⟨nofun, nofun⟩
  | .unresolved => ⟨fun _ => .whole _, fun _ => rfl⟩

theorem fieldsHaveUnresolved_iff_isPart : ∀ fields : List (String × DataType),
    fieldsHaveUnresolved fields = true ↔ ∃ field ∈ fields, unresolved.IsPart field.2
  | [] => ⟨nofun, nofun⟩
  | (name, type) :: rest => by
      rw [fieldsHaveUnresolved, Bool.or_eq_true, hasUnresolved_iff_isPart type,
        fieldsHaveUnresolved_iff_isPart rest]
      simp only [List.mem_cons, exists_eq_or_imp]

end

end ScalarSql.DataType
