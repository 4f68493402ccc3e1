import Mathlib.Data.List.DropRight
import Mathlib.Data.Set.Card
import ScalarSql.Function.HostType
import ScalarSql.Function.Registry
import ScalarSql.Proofs.Computation

/-!
# What a registry stores

A registry is used through six operations: a function is registered in place of all others of
its key, or declared and then registered in the same way, or added to them; and what is stored
under one key or under all of them is removed.  A declaration can fail, and the registry is
then left as it was.

**One key at a time.**  An operation does to what is stored under a key what
`Registry.Operation.effect` says, and nothing if it has another key
(`Registry.Operation.lookup_apply`).  So what is stored under a key can be read off the operations
on this key alone: those since the last removal count, and of these the last replacement and the
additions behind it (`Registry.written`).

**Main result.**  After any run of operations the registry stores under every key what the
operations wrote there, holds no key twice and no key without a function
(`Registry.stores_run`).
-/

set_option autoImplicit false

namespace ScalarSql

namespace Registry

/-! ## Operations -/

/-- A use of a registry that may change it. -/
inductive Operation where
  | register (callable : Callable)
  | overload (callable : Callable)
  /-- Declares a typed function and registers it. -/
  | registerTyped (name : String) (parameters : List HostType) (result : HostType)
      (body : HostType.Arguments parameters → Outcome result.Carrier)
  /-- Declares a function with the given signature and registers it. -/
  | registerDynamic (name : String) (parameters : List DataType) (returnType : DataType)
      (arity : Arity) (body : List Value → Except Error Value)
  | deregister (name : String)
  | clear

namespace Operation

/-- The registry after an operation, or why a function cannot be declared. -/
def attempt (registry : Registry) : Operation → Except Error Registry
  | .register callable => .ok (registry.register callable)
  | .overload callable => .ok (registry.registerOverload callable)
  | .registerTyped name parameters result body =>
      (ScalarFunction.typed name parameters result body).map fun function =>
        registry.register (.scalar function)
  | .registerDynamic name parameters returnType arity body =>
      (Signature.declare name parameters returnType arity).map fun signature =>
        registry.register (.scalar (.dynamic signature body))
  | .deregister name => .ok (registry.deregister name)
  | .clear => .ok registry.clear

/-- The registry that there is after an operation, whether or not it fails. -/
def apply (registry : Registry) (operation : Operation) : Registry :=
  match operation.attempt registry with
  | .ok changed => changed
  | .error _ => registry

/-- Whether what the operation declares can be declared; most operations declare nothing. -/
def declaration : Operation → Except Error Unit
  | .registerTyped name parameters result body =>
      (ScalarFunction.typed name parameters result body).map fun _ => ()
  | .registerDynamic name parameters returnType arity _ =>
      (Signature.declare name parameters returnType arity).map fun _ => ()
  | .register _ | .overload _ | .deregister _ | .clear => .ok ()

/-- The function that the operation puts in place of all others of its key.  There is none if
it cannot be declared. -/
def replacement? : Operation → Option Callable
  | .register callable => some callable
  | .registerTyped name parameters result body =>
      (ScalarFunction.typed name parameters result body).toOption.map .scalar
  | .registerDynamic name parameters returnType arity body =>
      (Signature.declare name parameters returnType arity).toOption.map fun signature =>
        .scalar (.dynamic signature body)
  | .overload _ | .deregister _ | .clear => none

/-- The function that the operation adds to those of its key. -/
def addition? : Operation → Option Callable
  | .overload callable => some callable
  | _ => none

variable (keyOf : String → String) (key : String)

/-- The function that the operation puts in place of all others of the given key. -/
def replaces? (operation : Operation) : Option Callable :=
  operation.replacement?.filter fun callable => keyOf callable.name == key

/-- The function that the operation adds to those of the given key. -/
def adds? (operation : Operation) : Option Callable :=
  operation.addition?.filter fun callable => keyOf callable.name == key

/-- Whether the operation removes what is stored under the given key. -/
def removes : Operation → Bool
  | .deregister name => keyOf name == key
  | .clear => true
  | _ => false

/-- Whether the operation puts a function under the given key. -/
def writes (operation : Operation) : Bool :=
  (operation.replaces? keyOf key).isSome || (operation.adds? keyOf key).isSome

/-- What is stored under the given key after the operation. -/
def effect (operation : Operation) (stored : Option (List Callable)) :
    Option (List Callable) :=
  if operation.removes keyOf key then none
  else
    match operation.replaces? keyOf key, operation.adds? keyOf key with
    | some callable, _ => some [callable]
    | none, some callable => some (stored.getD [] ++ [callable])
    | none, none => stored

end Operation

/-- The registry after some operations, which starts without functions. -/
def run (caseSensitive : Bool) (history : List Operation) : Registry :=
  history.foldl Operation.apply { caseSensitive }

/-! ## What is written under a key -/

section Written

variable (keyOf : String → String) (key : String)

/-- The operations since what is stored under a key was removed for the last time. -/
def sinceRemoval (history : List Operation) : List Operation :=
  history.rtakeWhile fun operation => !operation.removes keyOf key

/-- The last function that was put in place of all others of a key. -/
def latest? (history : List Operation) : Option Callable :=
  (history.filterMap (Operation.replaces? keyOf key)).getLast?

/-- The functions that were added to those of a key since all of them were replaced for the
last time. -/
def overloads (history : List Operation) : List Callable :=
  (history.rtakeWhile fun operation => (operation.replaces? keyOf key).isNone).filterMap
    (Operation.adds? keyOf key)

/-- What a history writes under a key: since the last removal, the function that was
registered last, if there is one, and all overloads after it in order. -/
def written (history : List Operation) : List Callable :=
  let recent := sinceRemoval keyOf key history
  (latest? keyOf key recent).toList ++ overloads keyOf key recent

end Written

/-- The registry stores what a history writes. -/
structure Stores (registry : Registry) (history : List Operation) : Prop where
  /-- Nothing is found under a name if and only if nothing was put under its key since the
  last removal. -/
  lookup_eq_none : ∀ name, registry.lookup name = none ↔
    ∀ operation ∈ sinceRemoval registry.key (registry.key name) history,
      operation.writes registry.key (registry.key name) = false
  /-- What is found under a name is what was written under its key. -/
  lookup_eq_some : ∀ name callables, registry.lookup name = some callables →
    callables = written registry.key (registry.key name) history
  /-- An operation that neither removes nor puts anything under the key of a name does not
  change what is found under it. -/
  lookup_other : ∀ (operation : Operation) (name : String),
    operation.removes registry.key (registry.key name) = false →
      operation.writes registry.key (registry.key name) = false →
        (operation.apply registry).lookup name = registry.lookup name
  /-- An operation fails if and only if its declaration does. -/
  attempt_fails_iff : ∀ (operation : Operation) (error : Error),
    operation.attempt registry = .error error ↔ operation.declaration = .error error
  /-- An operation that fails neither removes nor puts anything under any key, and changes
  nothing. -/
  failed : ∀ (operation : Operation) (error : Error), operation.declaration = .error error →
    (∀ key, operation.removes registry.key key = false ∧
      operation.writes registry.key key = false) ∧
    operation.apply registry = registry
  nonempty : ∀ entry ∈ registry.entries, entry.2 ≠ []
  contains_iff : ∀ name, registry.contains name = (registry.lookup name).isSome
  /-- The size is the number of keys that something is written under. -/
  size_eq : registry.size = {key | written registry.key key history ≠ []}.ncard

/-! ## One operation -/

section Entries

variable {key other : String} {entries : List (String × List Callable)}
  {change : List Callable → List Callable}

theorem lookup_alter : (alter key change entries).lookup other
    = if other = key then some (change ((entries.lookup key).getD []))
      else entries.lookup other := by
  induction entries with
  | nil =>
      by_cases same : other = key
      · simp [alter, same]
      · simp [alter, same, List.lookup_cons, beq_false_of_ne same]
  | cons entry rest ih =>
      obtain ⟨first, callables⟩ := entry
      by_cases found : first = key
      · subst found
        by_cases same : other = first
        · simp [alter, same]
        · simp [alter, same, List.lookup_cons, beq_false_of_ne same]
      · have before : (first == key) = false := beq_false_of_ne found
        have behind : (key == first) = false := beq_false_of_ne (Ne.symm found)
        simp only [alter, before, Bool.false_eq_true, if_false, List.lookup_cons, behind, ih]
        by_cases same : other = first
        · simp [same, found]
        · simp only [beq_false_of_ne same]

theorem lookup_filter (keep : String → Bool) :
    (entries.filter fun entry => keep entry.1).lookup other
      = if keep other then entries.lookup other else none := by
  induction entries with
  | nil => simp
  | cons entry rest ih =>
      obtain ⟨first, callables⟩ := entry
      by_cases same : other = first
      · subst same
        cases kept : keep other with
        | true => simp [kept]
        | false => simpa [kept] using ih
      · rw [List.lookup_cons, beq_false_of_ne same]
        cases kept : keep first with
        | true => simpa [kept, List.lookup_cons, beq_false_of_ne same] using ih
        | false => simpa [kept] using ih

theorem keys_alter (key : String) (change : List Callable → List Callable)
    (entries : List (String × List Callable)) :
    (alter key change entries).map Prod.fst
      = if key ∈ entries.map Prod.fst then entries.map Prod.fst
        else entries.map Prod.fst ++ [key] := by
  induction entries with
  | nil => simp [alter]
  | cons entry rest ih =>
      obtain ⟨first, callables⟩ := entry
      by_cases found : first = key
      · simp [alter, found]
      · have apart : ¬ key = first := Ne.symm found
        simp only [alter, beq_false_of_ne found, Bool.false_eq_true, if_false, List.map_cons, ih,
          List.mem_cons, apart, false_or]
        split
        · rfl
        · rfl

theorem mem_alter {entry : String × List Callable} (member : entry ∈ alter key change entries) :
    entry ∈ entries ∨ ∃ callables, entry.2 = change callables := by
  induction entries with
  | nil =>
      rw [alter, List.mem_singleton] at member
      exact .inr ⟨[], by rw [member]⟩
  | cons first rest ih =>
      rw [alter] at member
      split at member
      · rcases List.mem_cons.mp member with rfl | later
        · exact .inr ⟨_, rfl⟩
        · exact .inl (List.mem_cons_of_mem _ later)
      · rcases List.mem_cons.mp member with rfl | later
        · exact .inl List.mem_cons_self
        · rcases ih later with old | changed
          · exact .inl (List.mem_cons_of_mem _ old)
          · exact .inr changed

end Entries

/-- The registry without the keys for which a test succeeds. -/
def without (registry : Registry) (removed : String → Bool) : Registry :=
  { registry with entries := registry.entries.filter fun entry => !removed entry.1 }

theorem without_none (registry : Registry) : registry.without (fun _ => false) = registry := by
  simp [without]

namespace Operation

/-- **What an operation does to a registry**: it removes everything or one key, or it writes
under one key, or it does nothing because of a declaration that fails. -/
theorem apply_cases (registry : Registry) (operation : Operation) :
    (∃ callable, operation.replacement? = some callable ∧ operation.addition? = none ∧
      (∀ key, operation.removes registry.key key = false) ∧
      operation.apply registry = registry.register callable) ∨
    (∃ callable, operation.replacement? = none ∧ operation.addition? = some callable ∧
      (∀ key, operation.removes registry.key key = false) ∧
      operation.apply registry = registry.registerOverload callable) ∨
    (operation.replacement? = none ∧ operation.addition? = none ∧
      operation.apply registry = registry.without (operation.removes registry.key)) := by
  cases operation with
  | register callable => exact .inl ⟨callable, rfl, rfl, fun _ => rfl, rfl⟩
  | overload callable => exact .inr (.inl ⟨callable, rfl, rfl, fun _ => rfl, rfl⟩)
  | registerTyped name parameters result body =>
      cases declared : ScalarFunction.typed name parameters result body with
      | ok function =>
          refine .inl ⟨.scalar function, ?_, rfl, fun _ => rfl, ?_⟩
          · simp [replacement?, declared, Except.toOption]
          · simp [apply, attempt, declared, Except.map]
      | error error =>
          refine .inr (.inr ⟨?_, rfl, ?_⟩)
          · simp [replacement?, declared, Except.toOption]
          · exact (by simp [apply, attempt, declared, Except.map] : _ = registry).trans
              registry.without_none.symm
  | registerDynamic name parameters returnType arity body =>
      cases declared : Signature.declare name parameters returnType arity with
      | ok signature =>
          refine .inl ⟨.scalar (.dynamic signature body), ?_, rfl, fun _ => rfl, ?_⟩
          · simp [replacement?, declared, Except.toOption]
          · simp [apply, attempt, declared, Except.map]
      | error error =>
          refine .inr (.inr ⟨?_, rfl, ?_⟩)
          · simp [replacement?, declared, Except.toOption]
          · exact (by simp [apply, attempt, declared, Except.map] : _ = registry).trans
              registry.without_none.symm
  | deregister name =>
      refine .inr (.inr ⟨rfl, rfl, ?_⟩)
      have test : (fun entry : String × List Callable => entry.1 != registry.key name)
          = fun entry => !(registry.key name == entry.1) := by
        funext entry
        rw [bne, Bool.beq_comm]
      exact congrArg (fun keep => { registry with entries := registry.entries.filter keep }) test
  | clear =>
      refine .inr (.inr ⟨rfl, rfl, ?_⟩)
      have nothing : registry.entries.filter (fun _ => !true) = [] := by
        simp
      exact congrArg (fun entries => { registry with entries }) nothing.symm

theorem attempt_eq_error_iff (registry : Registry) (operation : Operation) (error : Error) :
    operation.attempt registry = .error error ↔ operation.declaration = .error error := by
  cases operation with
  | registerTyped name parameters result body =>
      cases declared : ScalarFunction.typed name parameters result body <;>
        simp [attempt, declaration, declared, Except.map]
  | registerDynamic name parameters returnType arity body =>
      cases declared : Signature.declare name parameters returnType arity <;>
        simp [attempt, declaration, declared, Except.map]
  | register | overload | deregister | clear => exact ⟨nofun, nofun⟩

theorem replacement?_eq_none_of_declaration {operation : Operation} {error : Error}
    (fails : operation.declaration = .error error) :
    operation.replacement? = none ∧ operation.addition? = none := by
  cases operation with
  | registerTyped name parameters result body =>
      have declared := map_eq_error.mp fails
      simp [replacement?, addition?, declared, Except.toOption]
  | registerDynamic name parameters returnType arity body =>
      have declared := map_eq_error.mp fails
      simp [replacement?, addition?, declared, Except.toOption]
  | register | overload | deregister | clear => cases fails

theorem caseSensitive_apply (registry : Registry) (operation : Operation) :
    (operation.apply registry).caseSensitive = registry.caseSensitive := by
  obtain ⟨_, -, -, -, changed⟩ | ⟨_, -, -, -, changed⟩ | ⟨-, -, changed⟩ :=
    operation.apply_cases registry
  all_goals
    rw [changed]
    rfl

/-- **One operation changes one key**, or all of them by removing everything. -/
theorem lookup_apply (registry : Registry) (operation : Operation) (key : String) :
    (operation.apply registry).entries.lookup key
      = operation.effect registry.key key (registry.entries.lookup key) := by
  obtain ⟨callable, replaces, adds, keeps, changed⟩ | ⟨callable, replaces, adds, keeps, changed⟩ |
    ⟨replaces, adds, changed⟩ := operation.apply_cases registry
  · rw [changed, Registry.register, lookup_alter, effect, keeps, replaces?, adds?, replaces, adds]
    by_cases here : registry.key callable.name = key
    · simp [here, Option.filter_some]
    · simp [here, Ne.symm here, Option.filter_some]
  · rw [changed, registerOverload, lookup_alter, effect, keeps, replaces?, adds?, replaces, adds]
    by_cases here : registry.key callable.name = key
    · simp [here, Option.filter_some]
    · simp [here, Ne.symm here, Option.filter_some]
  · rw [changed, without, lookup_filter fun key => !operation.removes registry.key key, effect,
      replaces?, adds?, replaces, adds]
    cases operation.removes registry.key key with
    | true => rfl
    | false => rfl

end Operation

/-! ## Keys and functions -/

/-- No key is stored twice or without a function. -/
structure WellKept (registry : Registry) : Prop where
  nodup : (registry.entries.map Prod.fst).Nodup
  nonempty : ∀ entry ∈ registry.entries, entry.2 ≠ []

theorem WellKept.alter {registry : Registry} (kept : registry.WellKept) (key : String)
    {change : List Callable → List Callable} (writes : ∀ callables, change callables ≠ []) :
    WellKept { registry with entries := Registry.alter key change registry.entries } := by
  constructor
  · show ((Registry.alter key change registry.entries).map Prod.fst).Nodup
    rw [keys_alter]
    split
    · exact kept.nodup
    · next new =>
        rw [List.nodup_append]
        refine ⟨kept.nodup, List.nodup_singleton key, ?_⟩
        rintro old stored _ added rfl
        exact new (List.mem_singleton.mp added ▸ stored)
  · intro entry member
    rcases mem_alter member with old | ⟨callables, changed⟩
    · exact kept.nonempty entry old
    · rw [changed]
      exact writes callables

theorem WellKept.apply {registry : Registry} (kept : registry.WellKept) (operation : Operation) :
    (operation.apply registry).WellKept := by
  obtain ⟨callable, -, -, -, changed⟩ | ⟨callable, -, -, -, changed⟩ | ⟨-, -, changed⟩ :=
    operation.apply_cases registry
  · rw [changed]
    exact kept.alter _ fun _ => List.cons_ne_nil _ _
  · rw [changed]
    exact kept.alter _ fun _ => List.concat_ne_nil _ _
  · rw [changed]
    refine ⟨?_, fun entry member => kept.nonempty entry (List.mem_of_mem_filter member)⟩
    exact kept.nodup.sublist (List.filter_sublist.map Prod.fst)

theorem isSome_lookup_iff {entries : List (String × List Callable)} {key : String} :
    (entries.lookup key).isSome = true ↔ key ∈ entries.map Prod.fst := by
  simp [List.lookup_isSome_iff]

/-! ## A run of operations -/

section Written

variable (keyOf : String → String) (key : String)

/-- What is written after one more operation. -/
theorem written_append_singleton (history : List Operation) (operation : Operation) :
    written keyOf key (history ++ [operation])
      = if operation.removes keyOf key then []
        else
          match operation.replaces? keyOf key with
          | some callable => [callable]
          | none => written keyOf key history ++ (operation.adds? keyOf key).toList := by
  unfold written sinceRemoval
  rw [List.rtakeWhile_concat]
  cases operation.removes keyOf key with
  | true => rfl
  | false =>
      cases replaces : operation.replaces? keyOf key with
      | some callable =>
          simp [latest?, overloads, replaces]
      | none =>
          have added : [operation].filterMap (Operation.adds? keyOf key)
              = (operation.adds? keyOf key).toList := by
            cases adds : operation.adds? keyOf key with
            | some callable => simp [adds]
            | none => simp [adds]
          simp [latest?, overloads, replaces, added]

/-- Nothing is written if and only if no operation since the last removal writes. -/
theorem written_eq_nil_iff (history : List Operation) :
    written keyOf key history = []
      ↔ ∀ operation ∈ sinceRemoval keyOf key history, operation.writes keyOf key = false := by
  unfold written
  generalize sinceRemoval keyOf key history = recent
  have noReplacement : latest? keyOf key recent = none
      ↔ ∀ operation ∈ recent, operation.replaces? keyOf key = none := by
    rw [latest?, List.getLast?_eq_none_iff, List.filterMap_eq_nil_iff]
  have noAddition (none : ∀ operation ∈ recent, operation.replaces? keyOf key = none) :
      overloads keyOf key recent = []
        ↔ ∀ operation ∈ recent, operation.adds? keyOf key = .none := by
    have all : recent.rtakeWhile (fun operation => (operation.replaces? keyOf key).isNone)
        = recent := by
      rw [List.rtakeWhile_eq_self_iff]
      intro operation member
      rw [none operation member]
      rfl
    rw [overloads, all, List.filterMap_eq_nil_iff]
  rw [List.append_eq_nil_iff, Option.toList_eq_nil_iff, noReplacement]
  constructor
  · rintro ⟨replaces, adds⟩ operation member
    rw [Operation.writes, replaces operation member, (noAddition replaces).mp adds operation member]
    rfl
  · intro quiet
    have both : ∀ operation ∈ recent,
        operation.replaces? keyOf key = none ∧ operation.adds? keyOf key = none := by
      intro operation member
      simpa [Operation.writes] using quiet operation member
    have replaces := fun operation member => (both operation member).1
    exact ⟨replaces, (noAddition replaces).mpr fun operation member => (both operation member).2⟩

end Written

variable (caseSensitive : Bool) (history : List Operation)

theorem run_append_singleton (operation : Operation) :
    run caseSensitive (history ++ [operation]) = operation.apply (run caseSensitive history) := by
  simp [run]

theorem caseSensitive_run : (run caseSensitive history).caseSensitive = caseSensitive := by
  induction history using List.reverseRecOn with
  | nil => rfl
  | append_singleton history operation ih =>
      rw [run_append_singleton, Operation.caseSensitive_apply, ih]

theorem wellKept_run : (run caseSensitive history).WellKept := by
  induction history using List.reverseRecOn with
  | nil => exact ⟨List.nodup_nil, nofun⟩
  | append_singleton history operation ih =>
      rw [run_append_singleton]
      exact ih.apply operation

/-- **What is stored under a key** after a run of operations is what they write there. -/
theorem lookup_run (key : String) :
    (run caseSensitive history).entries.lookup key
      = Option.guard (!·.isEmpty) (written (run caseSensitive history).key key history) := by
  -- The key of a name is the same after every operation.
  have sameKey : ∀ history, (run caseSensitive history).key = Registry.key { caseSensitive } := by
    intro history
    funext name
    rw [Registry.key, caseSensitive_run]
    rfl
  rw [sameKey]
  induction history using List.reverseRecOn with
  | nil => rfl
  | append_singleton history operation ih =>
      rw [run_append_singleton, Operation.lookup_apply, ih, sameKey, written_append_singleton,
        Operation.effect]
      split
      · rfl
      · cases operation.replaces? _ key with
        | some callable => simp
        | none =>
            cases operation.adds? _ key with
            | some callable =>
                generalize written _ key history = before
                cases before with
                | nil => rfl
                | cons first rest => rfl
            | none => simp

/-- **A registry stores what its operations wrote**, whatever their order and whether or not
it tells letter case apart. -/
theorem stores_run : (run caseSensitive history).Stores history := by
  have stored := lookup_run caseSensitive history
  have kept := wellKept_run caseSensitive history
  generalize run caseSensitive history = registry at stored kept
  have lookup (name : String) : registry.lookup name
      = Option.guard (!·.isEmpty) (written registry.key (registry.key name) history) := stored _
  constructor
  case lookup_eq_none =>
    intro name
    rw [lookup, ← written_eq_nil_iff, Option.guard_eq_none_iff]
    simp
  case lookup_eq_some =>
    intro name callables found
    rw [lookup, Option.guard_eq_some_iff] at found
    exact found.1.symm
  case lookup_other =>
    intro operation name noRemoval noWrite
    have sameKey : (operation.apply registry).key = registry.key := by
      funext other
      rw [Registry.key, Operation.caseSensitive_apply]
      rfl
    simp only [Operation.writes, Bool.or_eq_false_iff, Option.isSome_eq_false_iff,
      Option.isNone_iff_eq_none] at noWrite
    rw [Registry.lookup, sameKey, Operation.lookup_apply, Operation.effect, noRemoval, noWrite.1,
      noWrite.2]
    rfl
  case attempt_fails_iff => exact Operation.attempt_eq_error_iff registry
  case failed =>
    intro operation error fails
    obtain ⟨noReplacement, noAddition⟩ := Operation.replacement?_eq_none_of_declaration fails
    refine ⟨fun key => ⟨?_, ?_⟩, ?_⟩
    · cases operation with
      | deregister | clear => cases fails
      | register | overload | registerTyped | registerDynamic => rfl
    · simp [Operation.writes, Operation.replaces?, Operation.adds?, noReplacement, noAddition]
    · rw [Operation.apply, (Operation.attempt_eq_error_iff registry operation error).mpr fails]
  case nonempty => exact kept.nonempty
  case contains_iff =>
    intro name
    rw [Bool.eq_iff_iff, Registry.lookup, List.lookup_isSome_iff, contains, List.any_eq_true]
    simp only [Bool.beq_comm]
  case size_eq =>
    have keys : {key | written registry.key key history ≠ []}
        = ((registry.entries.map Prod.fst).toFinset : Set String) := by
      ext key
      have isStored := congrArg Option.isSome (stored key)
      rw [Option.isSome_guard, Bool.eq_iff_iff, Bool.not_eq_true', List.isEmpty_eq_false_iff,
        isSome_lookup_iff] at isStored
      rw [Set.mem_ofPred_eq, Finset.mem_coe, List.mem_toFinset, isStored]
    rw [keys, Set.ncard_coe_finset, List.toFinset_card_of_nodup kept.nodup, List.length_map]
    rfl

end Registry

end ScalarSql
