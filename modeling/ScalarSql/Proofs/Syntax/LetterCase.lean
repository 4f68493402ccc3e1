import ScalarSql.Plan.OfQuery
import ScalarSql.Proofs.Expr.Respelling
import ScalarSql.Proofs.Expr.Spelling
import ScalarSql.Proofs.Plan.Respelling

/-!
# Syntax in other letter case

`caseless` makes all names of a query small that are looked up without regard to case: those
of columns, qualifiers, fields, aliases and functions, and with them the texts that only
messages show.  Names of tables, literals and types are left alone.  Queries are the same up
to case if they have the same caseless form.

The clauses of such queries are read alike: both are read or neither is, and the expressions
are respelled, `alike_ofTerm` and its consequences.  The names that are made up from
expressions, for columns without an alias, are also the same up to case
(`small_defaultName_congr`), since a text is made from names and signs piece by piece.
-/

set_option autoImplicit false

namespace ScalarSql

open Text (small)

namespace Syntax

/-! ## Queries without case -/

/-- The name in small letters. -/
def Name.caseless (name : Name) : Name := { name with text := small name.text }

/-- The marks with their spellings in small letters. -/
def CallMarks.caseless (marks : CallMarks) : CallMarks :=
  { marks with before := small marks.before, after := small marks.after }

namespace Term

mutual

/-- The term with all names in small letters.  Literals and the targets of casts are no
names. -/
def caseless : Term → Term
  | .identifier name => .identifier name.caseless
  | .path first rest => .path first.caseless (rest.map Name.caseless)
  | .literal value => .literal value
  | .binary left sign right => .binary left.caseless sign right.caseless
  | .not operand => .not operand.caseless
  | .plus operand => .plus operand.caseless
  | .minus operand => .minus operand.caseless
  | .factorial operand => .factorial operand.caseless
  | .isNull operand => .isNull operand.caseless
  | .isNotNull operand => .isNotNull operand.caseless
  | .cast form operand target format => .cast form operand.caseless target format
  | .call function marks arguments =>
      .call (function.map Name.caseless) marks.caseless (caselessAll arguments)
  | .queryCall spelling => .queryCall (small spelling)
  | .nested inner => .nested inner.caseless
  | .subquery spelling => .subquery (small spelling)
  | .star => .star
  | .labelled spelling => .labelled (small spelling)
  | .other spelling => .other (small spelling)

/-- Several terms with all names in small letters. -/
def caselessAll : List Term → List Term
  | [] => []
  | first :: rest => first.caseless :: caselessAll rest

end

end Term

/-- The item with all names in small letters. -/
def SelectItem.caseless : SelectItem → SelectItem
  | .bare term => .bare term.caseless
  | .aliased term aliasName => .aliased term.caseless aliasName.caseless
  | .star spelling => .star (small spelling)
  | .other spelling => .other (small spelling)

/-- The source with its alias in small letters; the case of the table is kept. -/
def Source.caseless : Source → Source
  | .table name aliasName => .table name (aliasName.map Name.caseless)
  | .other => .other

/-- The element with its alias in small letters. -/
def FromItem.caseless (item : FromItem) : FromItem :=
  { item with source := item.source.caseless, spelling := small item.spelling }

/-- The sort key with all names in small letters. -/
def OrderItem.caseless (item : OrderItem) : OrderItem :=
  { item with term := item.term.caseless, filling := small item.filling }

/-- The group clause with all names in small letters. -/
def GroupClause.caseless : GroupClause → GroupClause
  | .terms keys => .terms (keys.map Term.caseless)
  | .all => .all

/-- The select clause with all names but those of tables in small letters. -/
def Select.caseless (select : Select) : Select where
  distinct := select.distinct
  items := select.items.map SelectItem.caseless
  sources := select.sources.map FromItem.caseless
  condition := select.condition.map Term.caseless
  grouping := select.grouping.caseless
  having := select.having.map Term.caseless

/-- The body of a query with all names but those of tables in small letters. -/
def QueryBody.caseless : QueryBody → QueryBody
  | .select clause => .select clause.caseless
  | .other => .other

/-- The query with all names but those of tables in small letters. -/
def Query.caseless (query : Query) : Query where
  body := query.body.caseless
  order := query.order.map OrderItem.caseless
  limit := query.limit.map Term.caseless
  offset := query.offset.map Term.caseless
  spelling := small query.spelling

end Syntax

/-! ## Scopes -/

/-- Two scopes with the same names for expressions that are the same up to case. -/
structure NameScope.Respelled (first second : NameScope) : Prop where
  columns : first.columns = second.columns
  aliases : List.Forall₂ (fun left right : String × Expr =>
    left.1 = right.1 ∧ left.2.Respelled right.2) first.aliases second.aliases

namespace NameScope

theorem Respelled.refl (scope : NameScope) : scope.Respelled scope :=
  ⟨rfl, List.forall₂_same.mpr fun _ _ => ⟨rfl, rfl⟩⟩

variable {first second : NameScope} (scopes : first.Respelled second)

include scopes

theorem Respelled.meaning {left right : String} (same : small left = small right) :
    (first.meaning left).Respelled (second.meaning right) := by
  have aliases := scopes.aliases
  unfold NameScope.meaning alias?
  rw [scopes.columns, Text.lower_congr same]
  split
  · exact congrArg Expr.column same
  · generalize first.aliases = lefts, second.aliases = rights at aliases
    induction aliases with
    | nil => exact congrArg Expr.column same
    | @cons left right lefts rights here _ ih =>
        obtain ⟨key, expr⟩ := left
        obtain ⟨_, other⟩ := right
        obtain ⟨rfl, respelled⟩ := here
        simp only [List.lookup_cons]
        cases Text.lower right == key with
        | true => exact respelled
        | false => exact ih

theorem Respelled.define {left right : String} (same : small left = small right)
    {expr other : Expr} (respelled : expr.Respelled other) :
    (first.define left expr).Respelled (second.define right other) :=
  ⟨scopes.columns, .cons ⟨Text.lower_congr same, respelled⟩ scopes.aliases⟩

end NameScope

theorem Text.small_intercalate (separator : String) (texts : List String) :
    small (separator.intercalate texts) = (small separator).intercalate (texts.map small) := by
  rw [← String.toList_inj, toList_small, String.toList_intercalate, String.toList_intercalate,
    toList_small, List.map_map]
  induction texts with
  | nil => rfl
  | cons first rest ih =>
      cases rest with
      | nil => simp [toList_small]
      | cons second others =>
          simp only [List.map_cons, List.intercalate_cons_cons, List.map_append,
            Function.comp_apply, toList_small] at ih ⊢
          rw [ih]

namespace Expr

/-! ## Terms -/

theorem caseless_fields (base : Expr) (names : List Syntax.Name) :
    (base.fields names).caseless = base.caseless.fields (names.map Syntax.Name.caseless) := by
  unfold fields
  induction names generalizing base with
  | nil => rfl
  | cons name rest ih =>
      rw [List.foldl_cons, ih, List.map_cons, List.foldl_cons, caseless_field]
      rfl

theorem caseless_negated (expr : Expr) : (negated expr).caseless = negated expr.caseless := by
  cases expr with
  | literal value =>
      simp only [caseless_literal, negated]
      split <;> rfl
  | call name arguments => simp only [negated, caseless_negate, caseless_call]
  | invocation function arguments => simp only [negated, caseless_negate, caseless_invocation]
  | _ => rfl

theorem functionName_caseless (path : List Syntax.Name) :
    functionName (path.map Syntax.Name.caseless) = small (functionName path) := by
  unfold functionName
  rw [List.getLast?_map, Option.map_map]
  cases path.getLast? <;> rfl

mutual

theorem alike_ofTerm_caseless {first second : NameScope} (scopes : first.Respelled second) :
    ∀ term : Syntax.Term, SucceedAlike Respelled (ofTerm first term) (ofTerm second term.caseless)
  | .identifier name => .ok _ _ (scopes.meaning (Text.small_small name.text).symm)
  | .path name rest => by
      refine .ok _ _ ?_
      rw [Respelled, caseless_fields, caseless_fields, List.map_map,
        scopes.meaning (Text.small_small name.text).symm]
      refine congrArg _ (List.map_congr_left fun field _ => ?_)
      exact congrArg (Syntax.Name.mk · field.quote) (Text.small_small field.text).symm
  | .literal value => (SucceedAlike.refl (Value.ofLiteral value)).map fun _ _ same =>
      congrArg (fun value => caseless (.literal value)) same
  | .binary left sign right =>
      (alike_ofTerm_caseless scopes left).bind fun left _ sameLeft =>
        (alike_ofTerm_caseless scopes right).bind fun right _ sameRight => by
          unfold ofSign
          cases sign.meaning with
          | none => exact .error _ _
          | some op =>
              refine .ok _ _ ?_
              rw [Respelled, caseless_binary, caseless_binary, sameLeft, sameRight]
  | .not operand =>
      (alike_ofTerm_caseless scopes operand).map fun _ _ same => congrArg Expr.not same
  | .plus operand => alike_ofTerm_caseless scopes operand
  | .minus operand => (alike_ofTerm_caseless scopes operand).map fun left right same => by
      rw [Respelled, caseless_negated, caseless_negated, same]
  | .factorial operand => (alike_ofTerm_caseless scopes operand).bind fun _ _ _ => .error _ _
  | .isNull operand =>
      (alike_ofTerm_caseless scopes operand).map fun _ _ same => congrArg Expr.isNull same
  | .isNotNull operand =>
      (alike_ofTerm_caseless scopes operand).map fun _ _ same => congrArg Expr.isNotNull same
  | .cast _ operand target _ =>
      (alike_ofTerm_caseless scopes operand).bind fun operand _ same =>
        (SucceedAlike.refl (DataType.ofSpelling target)).bind fun type _ sameType => by
          subst sameType
          exact .ok _ _ (congrArg (Expr.cast · type false) same)
  | .call function _ arguments =>
      (alike_ofTerms_caseless scopes arguments).map fun arguments _ same => by
        rw [functionName_caseless, Respelled, caseless_call, caseless_call, Text.small_small]
        exact congrArg _ (Session.eq_of_forall₂ (forall₂_map same fun _ _ here => here))
  | .queryCall _ | .subquery _ | .labelled _ | .other _ => .error _ _
  | .nested inner => alike_ofTerm_caseless scopes inner
  | .star => .ok _ _ rfl

theorem alike_ofTerms_caseless {first second : NameScope} (scopes : first.Respelled second) :
    ∀ terms : List Syntax.Term, SucceedAlike (List.Forall₂ Respelled) (ofTerms first terms)
      (ofTerms second (Syntax.Term.caselessAll terms))
  | [] => .ok [] [] .nil
  | term :: rest =>
      (alike_ofTerm_caseless scopes term).bind fun _ _ here =>
        (alike_ofTerms_caseless scopes rest).bind fun _ _ later => .ok _ _ (.cons here later)

end

/-- **Terms that only differ in the case of names** write expressions that do so, or none. -/
theorem alike_ofTerm {first second : NameScope} (scopes : first.Respelled second)
    {left right : Syntax.Term} (same : left.caseless = right.caseless) :
    SucceedAlike Respelled (ofTerm first left) (ofTerm second right) := by
  have toCaseless := alike_ofTerm_caseless scopes left
  have fromCaseless := (alike_ofTerm_caseless (.refl second) right).symm
  rw [← same] at fromCaseless
  exact toCaseless.trans fromCaseless fun _ _ _ here there => here.trans there.symm

/-! ## Texts -/

theorem small_render (nested : Bool) (expr : Expr) :
    small (expr.render nested) = small (expr.caseless.render nested) := by
  have ofArguments : ∀ arguments : List Expr,
      (∀ argument ∈ arguments, ∀ nested,
        small (argument.render nested) = small (argument.caseless.render nested)) →
      small (", ".intercalate (renderAll arguments))
        = small (", ".intercalate (renderAll (arguments.map caseless))) := by
    intro arguments each
    rw [renderAll_eq_map, renderAll_eq_map, Text.small_intercalate, Text.small_intercalate,
      List.map_map, List.map_map, List.map_map]
    exact congrArg _ (List.map_congr_left fun argument member => each argument member false)
  induction expr using inductionOn generalizing nested with
  | column name => exact (Text.small_small name).symm
  | literal value => rfl
  | binary op left right leftSame rightSame =>
      cases nested <;> simp only [caseless_binary, render, Text.small_append, leftSame true,
        rightSame true, if_true, Bool.false_eq_true, if_false]
  | not operand same | negate operand same | isNull operand same | isNotNull operand same
  | cast operand _ _ same =>
      simp only [caseless_not, caseless_negate, caseless_isNull, caseless_isNotNull, caseless_cast,
        render, Text.small_append, same false]
  | call name arguments each =>
      simp only [caseless_call, render, Text.small_append, ofArguments arguments each,
        Text.small_small]
  | invocation function arguments each =>
      simp only [caseless_invocation, render, Text.small_append, ofArguments arguments each]
  | field base name same =>
      simp only [caseless_field, render, Text.small_append, same false, Text.small_small]

theorem small_defaultName_congr {left right : Expr} (same : left.Respelled right) :
    small left.defaultName = small right.defaultName := by
  have caseless : ∀ expr : Expr, small expr.defaultName = small expr.caseless.defaultName := by
    intro expr
    cases expr with
    | column name => exact (Text.small_small name).symm
    | field base name => exact (Text.small_small name).symm
    | call name arguments =>
        have texts := small_render false (.call name arguments)
        rw [caseless_call] at texts ⊢
        exact texts
    | invocation function arguments =>
        have texts := small_render false (.invocation function arguments)
        rw [caseless_invocation] at texts ⊢
        exact texts
    | _ => exact small_render false _
  rw [caseless, same, ← caseless]

end Expr

/-! ## Clauses -/

section Clauses

open Plan

theorem forall₂_of_map_eq {α β : Type} {f : α → β} {lefts rights : List α}
    (same : lefts.map f = rights.map f) :
    List.Forall₂ (fun left right => f left = f right) lefts rights := by
  rw [← List.forall₂_eq_eq_eq, List.forall₂_map_left_iff, List.forall₂_map_right_iff] at same
  exact same

variable {first second : NameScope} (scopes : first.Respelled second)

section Items

include scopes

theorem alike_namedTerm {left right : Syntax.Term} (same : left.caseless = right.caseless) :
    SucceedAlike NamedExpr.Respelled (namedTerm first left) (namedTerm second right) :=
  (Expr.alike_ofTerm scopes same).map fun _ _ respelled =>
    ⟨respelled, Expr.small_defaultName_congr respelled⟩

theorem alike_optionalExpr {left right : Option Syntax.Term}
    (same : left.map Syntax.Term.caseless = right.map Syntax.Term.caseless) :
    SucceedAlike (fun left right : Option Expr =>
        left.map Expr.caseless = right.map Expr.caseless)
      (optionalExpr first left) (optionalExpr second right) := by
  cases left with
  | none =>
      rw [Option.map_none, eq_comm, Option.map_eq_none_iff] at same
      rw [same]
      exact .ok _ _ rfl
  | some left =>
      rw [Option.map_some, eq_comm, Option.map_eq_some_iff] at same
      obtain ⟨right, rfl, same⟩ := same
      exact (Expr.alike_ofTerm scopes same.symm).map fun _ _ respelled => congrArg some respelled

theorem alike_selectedColumn {left right : Syntax.SelectItem}
    (same : left.caseless = right.caseless) :
    SucceedAlike NamedExpr.Respelled (selectedColumn first left) (selectedColumn second right) := by
  cases left with
  | bare left =>
      cases right with
      | bare right => exact alike_namedTerm scopes (Syntax.SelectItem.bare.inj same)
      | _ => cases same
  | aliased left leftName =>
      cases right with
      | aliased right rightName =>
          obtain ⟨sameTerm, sameName⟩ := Syntax.SelectItem.aliased.inj same
          exact (Expr.alike_ofTerm scopes sameTerm).map fun _ _ respelled =>
            ⟨respelled, congrArg Syntax.Name.text sameName⟩
      | _ => cases same
  | star spelling =>
      cases right with
      | star other => exact .error _ _
      | _ => cases same
  | other spelling =>
      cases right with
      | other another => exact .error _ _
      | _ => cases same

theorem alike_selectedColumns {lefts rights : List Syntax.SelectItem}
    (same : lefts.map Syntax.SelectItem.caseless = rights.map Syntax.SelectItem.caseless) :
    SucceedAlike (List.Forall₂ NamedExpr.Respelled) (selectedColumns first lefts)
      (selectedColumns second rights) := by
  have listed : SucceedAlike (List.Forall₂ NamedExpr.Respelled)
      (lefts.mapM (selectedColumn first)) (rights.mapM (selectedColumn second)) :=
    SucceedAlike.mapM (forall₂_of_map_eq same) fun _ _ => alike_selectedColumn scopes
  cases forall₂_of_map_eq same with
  | nil => exact listed
  | @cons left right _ _ here rest =>
      cases rest with
      | cons _ _ =>
          rw [selectedColumns, selectedColumns]
          · exact listed
          · rintro _ ⟨⟩
          · rintro _ ⟨⟩
      | nil =>
          cases left with
          | star spelling =>
              cases right with
              | star other => exact .ok [] [] .nil
              | _ => cases here
          | bare _ | aliased _ _ | other _ =>
              cases right with
              | star other => cases here
              | _ => exact listed

theorem alike_groupKeys {left right : Syntax.GroupClause} (same : left.caseless = right.caseless) :
    SucceedAlike (List.Forall₂ NamedExpr.Respelled) (groupKeys first left)
      (groupKeys second right) := by
  cases left with
  | terms lefts =>
      cases right with
      | terms rights =>
          exact SucceedAlike.mapM (forall₂_of_map_eq (Syntax.GroupClause.terms.inj same))
            fun _ _ => alike_namedTerm scopes
      | all => cases same
  | all =>
      cases right with
      | terms rights => cases same
      | all => exact .error _ _

theorem alike_defineAliases {lefts rights : List Syntax.SelectItem}
    (same : lefts.map Syntax.SelectItem.caseless = rights.map Syntax.SelectItem.caseless) :
    SucceedAlike NameScope.Respelled (defineAliases first lefts) (defineAliases second rights) := by
  have items := forall₂_of_map_eq same
  clear same
  induction items generalizing first second with
  | nil => exact .ok _ _ scopes
  | @cons left right lefts rights here _ ih =>
      cases left with
      | aliased left leftName =>
          cases right with
          | aliased right rightName =>
              obtain ⟨sameTerm, sameName⟩ := Syntax.SelectItem.aliased.inj here
              refine (Expr.alike_ofTerm scopes sameTerm).bind fun expr other respelled => ?_
              exact ih (scopes.define (congrArg Syntax.Name.text sameName) respelled)
          | _ => cases here
      | bare _ | star _ | other _ =>
          cases right with
          | aliased right rightName => cases here
          | _ => exact ih scopes

theorem alike_sortExpr {left right : Syntax.Term} (same : left.caseless = right.caseless) :
    SucceedAlike Expr.Respelled (sortExpr first left) (sortExpr second right) := by
  cases left with
  | identifier left =>
      cases right with
      | identifier right =>
          have text : small left.text = small right.text :=
            congrArg Syntax.Name.text (Syntax.Term.identifier.inj same)
          exact .ok _ _ (congrArg Expr.column text)
      | _ => cases same
  | _ =>
      cases right with
      | identifier right => cases same
      | _ => exact Expr.alike_ofTerm scopes same

end Items

end Clauses

end ScalarSql
