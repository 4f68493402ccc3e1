import ScalarSql.Proofs.Session

/-!
# The rewriting loop reaches its fixed point in one pass

Planning rewrites an analysed plan and analyses it again until nothing changes.  Rewriting
folds constants, drops filters that always hold and swaps operands, and one of these could
make room for another: a swap could bring two literals together, and a folded predicate could
make a filter superfluous.  It does not.  What rewriting returns it returns unchanged,
`Plan.optimize_optimize`, and since rewriting keeps plans typed, analysing returns it
unchanged as well, numbers of invocations included, `Plan.HasSchema.analyze`.

So every plan that is accepted is settled after one pass, `Session.settled_of_analyze`.
Further passes leave it as it is, and none of them ends in an error.
-/

set_option autoImplicit false

namespace ScalarSql

namespace Session

/-- **The rewriting loop reaches its fixed point in one pass.**  Rewriting the analysed plan
gives a plan that neither rewriting nor analysing changes.  The loop returns it after any
positive number of passes, and so does planning a query with this draft. -/
theorem settled_of_analyze {scope : FunctionScope} {catalog : Catalog} {written analyzed : Plan}
    {next after : Nat} (accepted : written.analyze scope catalog next = .ok (analyzed, after)) :
    analyzed.optimize.optimize = analyzed.optimize ∧
      (∀ start, analyzed.optimize.analyze scope catalog start = .ok (analyzed.optimize, start)) ∧
      ∀ session : Session, session.scope = scope → session.catalog = catalog →
        (∀ passes start, 0 < passes →
          session.settle passes analyzed start = .ok (analyzed.optimize, start)) ∧
        ∀ sql, session.draft sql = .ok written → 0 < session.config.maxPasses →
          session.plan sql next = .ok (analyzed.optimize, after) := by
  obtain ⟨schema, typed⟩ := Plan.exists_hasSchema_of_analyze accepted
  refine ⟨Plan.optimize_optimize analyzed, typed.optimize.analyze scope, ?_⟩
  rintro session rfl rfl
  have settled : ∀ passes start, 0 < passes →
      session.settle passes analyzed start = .ok (analyzed.optimize, start) := by
    intro passes start positive
    cases passes with
    | zero => cases positive
    | succ fewer => exact settle_eq typed fewer start
  refine ⟨settled, fun sql drafted positive => ?_⟩
  simp only [plan, state_bind_eq_ok, state_lift_eq_ok]
  exact ⟨written, next, ⟨drafted, rfl⟩, analyzed, after, accepted, settled _ _ positive⟩

/-- An argument is folded after it is converted, a comparison is folded and then swapped, and
a filter that always holds is dropped. -/
theorem settled_of_analyze_of_filters :
    let twice : Callable := .scalar (.dynamic
      { name := "twice", parameters := [.long], returnType := .long, arity := .fixed 1 }
      fun _ => .ok .null)
    let session : Session := {
      registry := { entries := [("twice", [twice])] }
      catalog := { tables := [("t", { columns := [⟨"a", .int⟩], batches := [] })] } }
    let int (number : Int) : Expr := .literal (.int (BoundedInt.wrap number))
    let three : Expr := .binary (.arithmetic .add) (int 1) (int 2)
    let filtered : Plan := .filter (.binary (.comparison .lt) three (.column "a"))
      (.filter (.binary (.comparison .eq) (int 1) (int 1)) (.scan "t" none))
    let written : Plan := .project [⟨.call "twice" [three], "x"⟩] filtered
    let analyzed : Plan :=
      .project [⟨.invocation ⟨5, twice⟩ [.cast three .long false], "x"⟩] filtered
    let settled : Plan :=
      .project [⟨.invocation ⟨5, twice⟩ [.literal (.long (BoundedInt.wrap 3))], "x"⟩]
        (.filter (.binary (.comparison .gt) (.column "a") (int 3)) (.scan "t" none))
    written.analyze session.scope session.catalog 5 = .ok (analyzed, 6) ∧
      analyzed.optimize = settled ∧ settled.optimize = settled ∧
      session.analyze settled 9 = .ok (settled, 9) ∧
      session.settle 1 analyzed 6 = .ok (settled, 6) ∧
      session.settle 4 analyzed 6 = .ok (settled, 6) := by
  intro twice session int three filtered written analyzed settled
  have accepted : written.analyze session.scope session.catalog 5 = .ok (analyzed, 6) := rfl
  have optimized : analyzed.optimize = settled := rfl
  obtain ⟨once, again, loop⟩ := settled_of_analyze accepted
  obtain ⟨passes, -⟩ := loop session rfl rfl
  rw [optimized] at once again passes
  exact ⟨accepted, optimized, once, again 9, passes 1 6 (by decide), passes 4 6 (by decide)⟩

end Session

end ScalarSql
