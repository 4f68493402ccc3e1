import ScalarSql.Expr.OfTerm
import ScalarSql.Proofs.Computation

/-!
# A term means what its names mean

Of a scope, an expression only depends on the meanings of the names in its term,
`Syntax.Term.names`.  It depends on every one of them: nothing that a term is made of hides
an operand, so that two scopes give a term the same expression if and only if they give
every name in it the same meaning, `Expr.ofTerm_eq_iff`.
-/

set_option autoImplicit false

namespace ScalarSql

namespace Syntax.Term

mutual

/-- The names in a term that stand for something in a scope: those on their own, and the
first ones of paths. -/
def names : Term → List Name
  | .identifier name => [name]
  | .path first _ => [first]
  | .binary left _ right => left.names ++ right.names
  | .not operand | .plus operand | .minus operand | .factorial operand | .isNull operand
  | .isNotNull operand | .cast _ operand _ _ | .nested operand => operand.names
  | .call _ _ arguments => namesOfAll arguments
  | .literal _ | .queryCall _ | .subquery _ | .star | .labelled _ | .other _ => []

/-- The names in several terms. -/
def namesOfAll : List Term → List Name
  | [] => []
  | first :: rest => first.names ++ namesOfAll rest

end

end Syntax.Term

/-! ## Operands can be read off -/

theorem Decimal.neg_neg (number : Decimal) : number.neg.neg = number := by
  simp only [neg, Bool.not_not]

namespace Expr

theorem negatedLiteral?_injective {left right result : Value}
    (leftNegated : negatedLiteral? left = some result)
    (rightNegated : negatedLiteral? right = some result) : left = right := by
  have opposite : ∀ {bits : Nat} {number other result : BoundedInt bits},
      BoundedInt.ofInt? (-number.val) = some result →
        BoundedInt.ofInt? (-other.val) = some result → number = other := by
    intro bits number other result first second
    have values : -number.val = -other.val :=
      (BoundedInt.val_of_ofInt? first).symm.trans (BoundedInt.val_of_ofInt? second)
    cases number
    cases other
    exact (BoundedInt.mk.injEq ..).mpr (Int.neg_inj.mp values)
  cases left with
  | int number =>
      obtain ⟨negated, first, rfl⟩ := Option.map_eq_some_iff.mp leftNegated
      cases right with
      | int other =>
          obtain ⟨_, second, same⟩ := Option.map_eq_some_iff.mp rightNegated
          cases same
          rw [opposite first second]
      | _ => simp [negatedLiteral?] at rightNegated
  | long number =>
      obtain ⟨negated, first, rfl⟩ := Option.map_eq_some_iff.mp leftNegated
      cases right with
      | long other =>
          obtain ⟨_, second, same⟩ := Option.map_eq_some_iff.mp rightNegated
          cases same
          rw [opposite first second]
      | _ => simp [negatedLiteral?] at rightNegated
  | decimal number =>
      cases leftNegated
      cases right with
      | decimal other =>
          have same : other.neg = number.neg := Value.decimal.inj (Option.some.inj rightNegated)
          rw [← number.neg_neg, ← same, other.neg_neg]
      | _ => simp [negatedLiteral?] at rightNegated
  | _ => cases leftNegated

/-- A negation is a literal for a number that can be negated, and an operator on anything
else. -/
theorem negated_cases (expr : Expr) :
    (∃ value result, expr = .literal value ∧ negatedLiteral? value = some result ∧
        expr.negated = .literal result) ∨ expr.negated = .negate expr := by
  cases expr with
  | literal value =>
      cases found : negatedLiteral? value with
      | none => exact .inr (by simp only [negated, found])
      | some result => exact .inl ⟨value, result, rfl, found, by simp only [negated, found]⟩
  | _ => exact .inr rfl

theorem negated_injective {left right : Expr} (same : left.negated = right.negated) :
    left = right := by
  rcases left.negated_cases with ⟨_, _, rfl, leftNegated, leftWritten⟩ | leftWritten <;>
    rcases right.negated_cases with ⟨_, _, rfl, rightNegated, rightWritten⟩ | rightWritten <;>
    rw [leftWritten, rightWritten] at same <;>
    cases same
  · rw [negatedLiteral?_injective leftNegated rightNegated]
  · rfl

theorem fields_injective {left right : Expr} {names : List Syntax.Name}
    (same : left.fields names = right.fields names) : left = right := by
  induction names generalizing left right with
  | nil => exact same
  | cons name rest ih =>
      have inner : Expr.field left name.text = .field right name.text := ih same
      cases inner
      rfl

theorem ofSign_eq_iff {sign : Syntax.BinarySign} {left right first second : Expr}
    {leftResult rightResult : Expr} (leftWritten : ofSign sign left first = .ok leftResult)
    (rightWritten : ofSign sign right second = .ok rightResult) :
    leftResult = rightResult ↔ left = right ∧ first = second := by
  unfold ofSign at leftWritten rightWritten
  cases meaning : sign.meaning with
  | none =>
      rw [meaning] at leftWritten
      cases leftWritten
  | some op =>
      rw [meaning] at leftWritten rightWritten
      cases leftWritten
      cases rightWritten
      simp only [binary.injEq, true_and]

/-! ## Terms in two scopes -/

section Scopes

variable {first second : NameScope}

mutual

/-- **Two scopes give a term the same expression** if and only if they give every name in it
the same meaning. -/
theorem ofTerm_eq_iff : ∀ (term : Syntax.Term) {left right : Expr},
    ofTerm first term = .ok left → ofTerm second term = .ok right →
      (left = right ↔
        ∀ name ∈ term.names, first.meaning name.text = second.meaning name.text)
  | .identifier name, _, _, leftRead, rightRead => by
      cases leftRead
      cases rightRead
      simp only [Syntax.Term.names, List.forall_mem_singleton]
  | .path head rest, _, _, leftRead, rightRead => by
      cases leftRead
      cases rightRead
      simp only [Syntax.Term.names, List.forall_mem_singleton]
      exact ⟨fields_injective, fun same => by rw [same]⟩
  | .literal value, _, _, leftRead, rightRead => by
      have same := leftRead.symm.trans rightRead
      cases same
      simp [Syntax.Term.names]
  | .binary leftTerm sign rightTerm, _, _, leftRead, rightRead => by
      simp only [ofTerm, bind_eq_ok] at leftRead rightRead
      obtain ⟨_, firstLeft, _, firstRight, firstMade⟩ := leftRead
      obtain ⟨_, secondLeft, _, secondRight, secondMade⟩ := rightRead
      rw [ofSign_eq_iff firstMade secondMade, ofTerm_eq_iff leftTerm firstLeft secondLeft,
        ofTerm_eq_iff rightTerm firstRight secondRight, Syntax.Term.names, List.forall_mem_append]
  | .not operand, _, _, leftRead, rightRead | .isNull operand, _, _, leftRead, rightRead
  | .isNotNull operand, _, _, leftRead, rightRead => by
      obtain ⟨_, firstRead, rfl⟩ := map_eq_ok.mp leftRead
      obtain ⟨_, secondRead, rfl⟩ := map_eq_ok.mp rightRead
      simp only [not.injEq, isNull.injEq, isNotNull.injEq, Syntax.Term.names]
      exact ofTerm_eq_iff operand firstRead secondRead
  | .plus operand, _, _, leftRead, rightRead | .nested operand, _, _, leftRead, rightRead => by
      exact ofTerm_eq_iff operand leftRead rightRead
  | .minus operand, _, _, leftRead, rightRead => by
      obtain ⟨_, firstRead, rfl⟩ := map_eq_ok.mp leftRead
      obtain ⟨_, secondRead, rfl⟩ := map_eq_ok.mp rightRead
      rw [Syntax.Term.names, ← ofTerm_eq_iff operand firstRead secondRead]
      exact ⟨negated_injective, congrArg negated⟩
  | .factorial operand, _, _, leftRead, _ => by
      simp only [ofTerm, bind_eq_ok] at leftRead
      obtain ⟨_, _, impossible⟩ := leftRead
      cases impossible
  | .cast form operand target format, _, _, leftRead, rightRead => by
      simp only [ofTerm, bind_eq_ok] at leftRead rightRead
      obtain ⟨_, firstRead, type, firstType, firstMade⟩ := leftRead
      obtain ⟨_, secondRead, _, secondType, secondMade⟩ := rightRead
      cases firstType.symm.trans secondType
      cases firstMade
      cases secondMade
      simp only [cast.injEq, and_true, Syntax.Term.names]
      exact ofTerm_eq_iff operand firstRead secondRead
  | .call function marks arguments, _, _, leftRead, rightRead => by
      obtain ⟨_, firstRead, rfl⟩ := map_eq_ok.mp leftRead
      obtain ⟨_, secondRead, rfl⟩ := map_eq_ok.mp rightRead
      simp only [call.injEq, true_and, Syntax.Term.names]
      exact ofTerms_eq_iff arguments firstRead secondRead
  | .star, _, _, leftRead, rightRead => by
      cases leftRead
      cases rightRead
      simp [Syntax.Term.names]
  | .queryCall _, _, _, leftRead, _ | .subquery _, _, _, leftRead, _
  | .labelled _, _, _, leftRead, _ | .other _, _, _, leftRead, _ => by cases leftRead

theorem ofTerms_eq_iff : ∀ (terms : List Syntax.Term) {left right : List Expr},
    ofTerms first terms = .ok left → ofTerms second terms = .ok right →
      (left = right ↔ ∀ name ∈ Syntax.Term.namesOfAll terms,
        first.meaning name.text = second.meaning name.text)
  | [], _, _, leftRead, rightRead => by
      cases leftRead
      cases rightRead
      simp [Syntax.Term.namesOfAll]
  | term :: rest, _, _, leftRead, rightRead => by
      simp only [ofTerms, bind_eq_ok] at leftRead rightRead
      obtain ⟨_, firstRead, _, firstRest, firstMade⟩ := leftRead
      obtain ⟨_, secondRead, _, secondRest, secondMade⟩ := rightRead
      cases firstMade
      cases secondMade
      rw [List.cons.injEq, ofTerm_eq_iff term firstRead secondRead,
        ofTerms_eq_iff rest firstRest secondRest, Syntax.Term.namesOfAll, List.forall_mem_append]

end

end Scopes

end Expr

end ScalarSql
