import EntitySql.Proofs.Schema.Resolve
import Mathlib.Data.List.Induction

/-!
# What a registry remembers

A run of a registry is told by its history: what was asked and what was answered. The history
alone says what is remembered of an entity: the metadata of the first descriptor of that name
that was resolved since an alias was last registered for it, and nothing where there is none.
-/

namespace EntitySql.Registry

inductive Call
  | registerAlias (entity : String) (names : AliasMap)
  | resolve (d : EntityDescriptor)
  | get (entity : String)

inductive Answer
  | registered
  | resolved (result : Except Error EntityMeta)
  | found (m : Option EntityMeta)

/-- What was asked and answered, the latest first. -/
abbrev History := List (Call × Answer)

def Call.entity : Call → String
  | .registerAlias entity _ => entity
  | .resolve d => d.name
  | .get entity => entity

def Call.registers (entity : String) : Call → Bool
  | .registerAlias other _ => other == entity
  | _ => false

def call (r : Registry) : Call → Answer × Registry
  | .registerAlias entity names => (.registered, r.registerAlias entity names)
  | .resolve d =>
    let (result, r) := r.resolve d
    (.resolved result, r)
  | .get entity => (.found (r.get? entity), r)

def record (run : History × Registry) (c : Call) : History × Registry :=
  let (answer, r) := run.2.call c
  ((c, answer) :: run.1, r)

def run (case : NameCase) (calls : List Call) : History × Registry :=
  calls.foldl record ([], .empty case)

def lastAlias? (entity : String) : History → Option AliasMap
  | [] => none
  | (.registerAlias other names, _) :: h =>
    if other = entity then some names else lastAlias? entity h
  | _ :: h => lastAlias? entity h

def resolvedAs? (entity : String) : Call × Answer → Option EntityDescriptor
  | (.resolve d, .resolved (.ok _)) => if d.name = entity then some d else none
  | _ => none

def resolvedSince (entity : String) (h : History) : List EntityDescriptor :=
  (h.takeWhile fun e ↦ !e.1.registers entity).filterMap (resolvedAs? entity)

/-- The first descriptor of an entity that was resolved since its last alias. -/
def firstResolved? (entity : String) (h : History) : Option EntityDescriptor :=
  (resolvedSince entity h).getLast?

/-! ## One call -/

variable {r : Registry} {entity : String}

theorem lookup_filter_ne {α : Type} (entries : List (String × α)) (name other : String) :
    (entries.filter fun entry ↦ entry.1 != other).lookup name =
      if name = other then none else entries.lookup name := by
  induction entries with
  | nil => simp
  | cons entry entries ih =>
    obtain ⟨key, a⟩ := entry
    by_cases hkey : key = other
    · subst hkey
      by_cases hname : name = key
      · simpa [hname] using ih
      · simpa [hname, List.lookup_cons, beq_false_of_ne hname] using ih
    · by_cases hname : name = key
      · subst hname
        simp [hkey]
      · simp only [List.filter_cons, bne_iff_ne, ne_eq, hkey, not_false_eq_true, if_true,
          List.lookup_cons, beq_false_of_ne hname, ih]

/-- An alias forgets what was resolved for its own entity and nothing else. -/
theorem get?_registerAlias (names : AliasMap) (other : String) :
    (r.registerAlias other names).get? entity =
      if entity = other then none else r.get? entity :=
  lookup_filter_ne r.resolved entity other

/-- An alias replaces the one before it for the same entity. -/
theorem aliases_registerAlias (names : AliasMap) (other : String) :
    (r.registerAlias other names).aliases.lookup entity =
      if entity = other then some names else r.aliases.lookup entity := by
  by_cases h : entity = other
  · subst h
    simp [registerAlias]
  · simp [registerAlias, List.lookup_cons, h, beq_false_of_ne h]

/-- The three ways in which a resolution can go. -/
theorem resolve_cases (r : Registry) (d : EntityDescriptor) :
    (∃ m, r.get? d.name = some m ∧ r.resolve d = (.ok m, r)) ∨
    (∃ m, r.get? d.name = none ∧
      EntityMeta.resolve d (r.aliases.lookup d.name) r.nameCase = .ok m ∧
      r.resolve d = (.ok m, { r with resolved := (d.name, m) :: r.resolved })) ∨
    (∃ e, r.get? d.name = none ∧
      EntityMeta.resolve d (r.aliases.lookup d.name) r.nameCase = .error e ∧
      r.resolve d = (.error e, r)) := by
  unfold resolve
  cases hget : r.get? d.name with
  | some m => exact .inl ⟨m, rfl, rfl⟩
  | none =>
    cases hresolve : EntityMeta.resolve d (r.aliases.lookup d.name) r.nameCase with
    | ok m => exact .inr (.inl ⟨m, rfl, rfl, rfl⟩)
    | error e => exact .inr (.inr ⟨e, rfl, rfl, rfl⟩)

/-- What is remembered is given back, and the registry stays as it is. -/
theorem resolve_of_memoized {d : EntityDescriptor} {m : EntityMeta}
    (h : r.get? d.name = some m) : r.resolve d = (.ok m, r) := by
  simp [resolve, h]

/-- What is not remembered is resolved by the last alias and the name case of the registry. -/
theorem resolve_of_not_memoized {d : EntityDescriptor} (h : r.get? d.name = none) :
    (r.resolve d).1 = EntityMeta.resolve d (r.aliases.lookup d.name) r.nameCase := by
  rcases resolve_cases r d with ⟨m, hm, -⟩ | ⟨m, -, hm, heq⟩ | ⟨e, -, he, heq⟩
  · rw [h] at hm
    cases hm
  · rw [heq, hm]
  · rw [heq, he]

/-- A resolution that fails leaves the registry as it is. -/
theorem resolve_of_error {d : EntityDescriptor} {e : Error} (h : (r.resolve d).1 = .error e) :
    (r.resolve d).2 = r := by
  rcases resolve_cases r d with ⟨m, -, heq⟩ | ⟨m, -, -, heq⟩ | ⟨e', -, -, heq⟩
  · rw [heq]
  · rw [heq] at h
    cases h
  · rw [heq]

/-- A call about one entity leaves what is held for another. -/
theorem call_of_ne {c : Call} (h : c.entity ≠ entity) :
    (r.call c).2.get? entity = r.get? entity ∧
      (r.call c).2.aliases.lookup entity = r.aliases.lookup entity := by
  cases c with
  | registerAlias other names =>
    have hne : entity ≠ other := Ne.symm h
    exact ⟨by simp [call, get?_registerAlias, hne], by simp [call, aliases_registerAlias, hne]⟩
  | get other => exact ⟨rfl, rfl⟩
  | resolve d =>
    have hne : entity ≠ d.name := Ne.symm h
    rcases resolve_cases r d with ⟨m, -, heq⟩ | ⟨m, -, -, heq⟩ | ⟨e, -, -, heq⟩
    · simp [call, heq]
    · simp [call, heq, get?, List.lookup_cons, beq_false_of_ne hne]
    · simp [call, heq]

/-! ## The history of a run -/

variable {h : History} {c : Call} {a : Answer} {case : NameCase}

theorem run_concat (case : NameCase) (calls : List Call) (c : Call) :
    run case (calls ++ [c]) = record (run case calls) c := by
  simp [run]

theorem registers_eq_false (hne : c.entity ≠ entity) : c.registers entity = false := by
  cases c with
  | registerAlias other names => exact beq_false_of_ne hne
  | _ => rfl

theorem resolvedAs?_of_ne (hne : c.entity ≠ entity) (a : Answer) :
    resolvedAs? entity (c, a) = none := by
  cases c with
  | resolve d =>
    unfold resolvedAs?
    split
    · next heq =>
      cases heq
      exact if_neg hne
    · rfl
  | _ => rfl

theorem resolvedSince_cons (hc : c.registers entity = false) (a : Answer) :
    resolvedSince entity ((c, a) :: h) =
      (resolvedAs? entity (c, a)).toList ++ resolvedSince entity h := by
  unfold resolvedSince
  rw [List.takeWhile_cons_of_pos (by simp [hc]), List.filterMap_cons]
  cases resolvedAs? entity (c, a) <;> rfl

theorem firstResolved?_of_none (hc : c.registers entity = false)
    (ha : resolvedAs? entity (c, a) = none) :
    firstResolved? entity ((c, a) :: h) = firstResolved? entity h := by
  rw [firstResolved?, resolvedSince_cons hc, ha]
  rfl

theorem lastAlias?_cons (hc : c.registers entity = false) (a : Answer) :
    lastAlias? entity ((c, a) :: h) = lastAlias? entity h := by
  cases c with
  | registerAlias other names => exact if_neg (by simpa [Call.registers] using hc)
  | _ => rfl

/-- What a registry holds, as its history tells it. -/
structure Remembers (case : NameCase) (h : History) (r : Registry) : Prop where
  nameCase : r.nameCase = case
  aliases : ∀ entity, r.aliases.lookup entity = lastAlias? entity h
  memo : ∀ entity, (firstResolved? entity h = none ∧ r.get? entity = none) ∨
    ∃ d m, firstResolved? entity h = some d ∧ r.get? entity = some m ∧
      EntityMeta.resolve d (lastAlias? entity h) case = .ok m
  distinct : (r.resolved.map (·.1)).Nodup

theorem remembers_empty (case : NameCase) : Remembers case [] (.empty case) where
  nameCase := rfl
  aliases _ := rfl
  memo _ := .inl ⟨rfl, rfl⟩
  distinct := List.nodup_nil

theorem not_mem_of_get?_eq_none {name : String} (hget : r.get? name = none) :
    name ∉ r.resolved.map (·.1) := by
  intro hmem
  obtain ⟨⟨key, m⟩, hentry, rfl⟩ := List.mem_map.1 hmem
  have hne := List.lookup_eq_none_iff.1 hget _ hentry
  simp at hne

namespace Remembers

theorem call_nameCase (hr : Remembers case h r) (c : Call) : (r.call c).2.nameCase = case := by
  cases c with
  | registerAlias other names => exact hr.nameCase
  | get other => exact hr.nameCase
  | resolve d =>
    rcases resolve_cases r d with ⟨m, -, heq⟩ | ⟨m, -, -, heq⟩ | ⟨e, -, -, heq⟩ <;>
      simpa [call, heq] using hr.nameCase

theorem call_aliases (hr : Remembers case h r) (c : Call) (entity : String) :
    (r.call c).2.aliases.lookup entity = lastAlias? entity ((c, (r.call c).1) :: h) := by
  by_cases hne : c.entity = entity
  · cases c with
    | registerAlias other names =>
      obtain rfl : other = entity := hne
      simp [call, aliases_registerAlias, lastAlias?]
    | get other => exact hr.aliases entity
    | resolve d =>
      rw [lastAlias?_cons rfl, ← hr.aliases entity]
      rcases resolve_cases r d with ⟨m, -, heq⟩ | ⟨m, -, -, heq⟩ | ⟨e, -, -, heq⟩ <;>
        simp [call, heq]
  · rw [(call_of_ne hne).2, lastAlias?_cons (registers_eq_false hne), hr.aliases entity]

theorem call_distinct (hr : Remembers case h r) (c : Call) :
    ((r.call c).2.resolved.map (·.1)).Nodup := by
  cases c with
  | registerAlias other names =>
    exact (List.filter_sublist.map Prod.fst).nodup hr.distinct
  | get other => exact hr.distinct
  | resolve d =>
    rcases resolve_cases r d with ⟨m, -, heq⟩ | ⟨m, hget, -, heq⟩ | ⟨e, -, -, heq⟩
    · simpa [call, heq] using hr.distinct
    · simp only [call, heq, List.map_cons, List.nodup_cons]
      exact ⟨not_mem_of_get?_eq_none hget, hr.distinct⟩
    · simpa [call, heq] using hr.distinct

/-- What is remembered of an entity is what its first descriptor since its last alias gave: that of
this call only where nothing was remembered before it. -/
theorem call_memo (hr : Remembers case h r) (c : Call) (entity : String) :
    (firstResolved? entity ((c, (r.call c).1) :: h) = none ∧ (r.call c).2.get? entity = none) ∨
    ∃ d m, firstResolved? entity ((c, (r.call c).1) :: h) = some d ∧
      (r.call c).2.get? entity = some m ∧
      EntityMeta.resolve d (lastAlias? entity ((c, (r.call c).1) :: h)) case = .ok m := by
  by_cases hne : c.entity = entity
  · cases c with
    | registerAlias other names =>
      obtain rfl : other = entity := hne
      refine .inl ⟨?_, by simp [call, get?_registerAlias]⟩
      simp [firstResolved?, resolvedSince, Call.registers]
    | get other => exact hr.memo entity
    | resolve d =>
      obtain rfl : d.name = entity := hne
      rw [lastAlias?_cons rfl]
      rcases resolve_cases r d with ⟨m, hget, heq⟩ | ⟨m, hget, hm, heq⟩ | ⟨e, hget, -, heq⟩
      · rcases hr.memo d.name with ⟨-, hnone⟩ | ⟨d₀, m₀, hfirst, hget₀, hm₀⟩
        · rw [hget] at hnone
          cases hnone
        · refine .inr ⟨d₀, m₀, ?_, by simpa [call, heq] using hget₀, hm₀⟩
          rw [firstResolved?, resolvedSince_cons rfl, List.getLast?_append, ← firstResolved?,
            hfirst]
          rfl
      · rcases hr.memo d.name with ⟨hfirst, -⟩ | ⟨d₀, m₀, -, hget₀, -⟩
        · refine .inr ⟨d, m, ?_, by simp [call, heq, get?], ?_⟩
          · rw [firstResolved?, resolvedSince_cons rfl, List.getLast?_append, ← firstResolved?,
              hfirst]
            simp [call, heq, resolvedAs?]
          · rw [← hr.aliases, ← hr.nameCase]
            exact hm
        · rw [hget] at hget₀
          cases hget₀
      · have hcall : r.call (.resolve d) = (.resolved (.error e), r) := by simp [call, heq]
        rw [hcall, firstResolved?_of_none rfl rfl]
        exact hr.memo d.name
  · rw [firstResolved?_of_none (registers_eq_false hne) (resolvedAs?_of_ne hne _),
      lastAlias?_cons (registers_eq_false hne), (call_of_ne hne).1]
    exact hr.memo entity

/-- One call keeps what the history tells. -/
theorem record (hr : Remembers case h r) (c : Call) :
    Remembers case (record (h, r) c).1 (record (h, r) c).2 where
  nameCase := hr.call_nameCase c
  aliases := hr.call_aliases c
  memo := hr.call_memo c
  distinct := hr.call_distinct c

end Remembers

/-- A registry holds what its history tells. By induction on the calls, from the last one back. -/
theorem remembers_run (case : NameCase) (calls : List Call) :
    Remembers case (run case calls).1 (run case calls).2 := by
  induction calls using List.reverseRecOn with
  | nil => exact remembers_empty case
  | append_singleton calls c ih =>
    rw [run_concat]
    exact ih.record c

/-! ## What the history tells -/

theorem mem_of_mem_resolvedSince {d : EntityDescriptor} (hd : d ∈ resolvedSince entity h) :
    d.name = entity ∧ ∃ a, (.resolve d, a) ∈ h := by
  obtain ⟨⟨c, a⟩, hmem, hc⟩ := List.mem_filterMap.1 hd
  unfold resolvedAs? at hc
  split at hc
  · next d' m heq =>
    cases heq
    obtain ⟨hname, hd'⟩ := Option.ite_none_right_eq_some.1 hc
    cases hd'
    exact ⟨hname, _, (List.takeWhile_sublist _).subset hmem⟩
  · cases hc

/-- What is held for an entity after a run with this history, and what every next call does. -/
structure Memoizes (case : NameCase) (h : History) (r : Registry) (entity : String) : Prop where
  /-- Something is remembered exactly where a descriptor was resolved since the last alias. -/
  remembered : (r.get? entity).isSome = true ↔ ∃ d, d ∈ resolvedSince entity h
  get : ∀ m, r.get? entity = some m ↔ ∃ d, firstResolved? entity h = some d ∧
    EntityMeta.resolve d (lastAlias? entity h) case = .ok m
  resolve_again : ∀ d m, d.name = entity → r.get? entity = some m → (r.resolve d).1 = .ok m
  resolve_anew : ∀ d, d.name = entity → r.get? entity = none →
    (r.resolve d).1 = EntityMeta.resolve d (lastAlias? entity h) case
  resolve_failed : ∀ d e, (r.resolve d).1 = .error e → (r.resolve d).2 = r
  call_other : ∀ c : Call, c.entity ≠ entity →
    (r.call c).2.get? entity = r.get? entity ∧
      (r.call c).2.aliases.lookup entity = r.aliases.lookup entity
  size : ∃ names : List String, names.Nodup ∧ (∀ name, name ∈ names ↔ (r.get? name).isSome = true) ∧
    r.size = names.length
  /-- Where an entity has one descriptor only, nobody can tell that anything is remembered. -/
  resolve_unmemoized : ∀ d, d.name = entity →
    (∀ d' a, (.resolve d', a) ∈ h → d'.name = entity → d' = d) →
    (r.resolve d).1 = EntityMeta.resolve d (lastAlias? entity h) case

namespace Remembers

/-- The first resolution since the last alias is that of the description itself. -/
theorem resolve_anew (hr : Remembers case h r) {d : EntityDescriptor}
    (hget : r.get? d.name = none) :
    (r.resolve d).1 = EntityMeta.resolve d (lastAlias? d.name h) case := by
  rw [resolve_of_not_memoized hget, hr.aliases, hr.nameCase]

/-- What is held for an entity is what its first description since the last alias resolves to. -/
theorem get?_eq_some_iff (hr : Remembers case h r) (entity : String) (m : EntityMeta) :
    r.get? entity = some m ↔ ∃ d, firstResolved? entity h = some d ∧
      EntityMeta.resolve d (lastAlias? entity h) case = .ok m := by
  rcases hr.memo entity with ⟨hfirst, hget⟩ | ⟨d, m', hfirst, hget, hm⟩
  · simp [hfirst, hget]
  · simp [hfirst, hget, hm]

theorem isSome_get?_iff (hr : Remembers case h r) (entity : String) :
    (r.get? entity).isSome = true ↔ ∃ d, d ∈ resolvedSince entity h := by
  rcases hr.memo entity with ⟨hfirst, hget⟩ | ⟨d, m, hfirst, hget, -⟩
  · simp [hget, List.getLast?_eq_none_iff.1 hfirst]
  · simp only [hget, Option.isSome_some, true_iff]
    exact ⟨d, List.mem_of_getLast? hfirst⟩

theorem isSome_get?_iff_mem (name : String) :
    name ∈ r.resolved.map (·.1) ↔ (r.get? name).isSome = true := by
  constructor
  · intro hmem
    by_contra hnone
    exact not_mem_of_get?_eq_none (by simpa using hnone) hmem
  · intro hsome
    obtain ⟨m, hm⟩ := Option.isSome_iff_exists.1 hsome
    obtain ⟨before, after, heq, -⟩ := List.lookup_eq_some_iff.1 hm
    simp [heq]

/-- Where only one description goes by a name, the memory changes no answer. -/
theorem resolve_unmemoized (hr : Remembers case h r) {d : EntityDescriptor}
    (honly : ∀ d' a, (.resolve d', a) ∈ h → d'.name = d.name → d' = d) :
    (r.resolve d).1 = EntityMeta.resolve d (lastAlias? d.name h) case := by
  rcases hr.memo d.name with ⟨-, hget⟩ | ⟨d', m, hfirst, hget, hm⟩
  · exact hr.resolve_anew hget
  · obtain ⟨hname, a, ha⟩ := mem_of_mem_resolvedSince (List.mem_of_getLast? hfirst)
    obtain rfl := honly d' a ha hname
    rw [resolve_of_memoized hget, hm]

theorem memoizes (hr : Remembers case h r) (entity : String) : Memoizes case h r entity where
  remembered := hr.isSome_get?_iff entity
  get := hr.get?_eq_some_iff entity
  resolve_again := by
    rintro d m rfl hget
    rw [resolve_of_memoized hget]
  resolve_anew := by
    rintro d rfl hget
    exact hr.resolve_anew hget
  resolve_failed _ _ := resolve_of_error
  call_other _ := call_of_ne
  size := ⟨r.resolved.map (·.1), hr.distinct, isSome_get?_iff_mem, by simp [Registry.size]⟩
  resolve_unmemoized := by
    rintro d rfl honly
    exact hr.resolve_unmemoized honly

end Remembers

/-- After any run, a registry holds of every entity what the history of the run tells, and nothing
but the next resolution or alias of that entity changes it. -/
theorem run_memoizes (case : NameCase) (calls : List Call) (entity : String) :
    Memoizes case (run case calls).1 (run case calls).2 entity :=
  (remembers_run case calls).memoizes entity

/-- An alias makes the registry resolve anew, and then the first descriptor stands again. -/
example :
    let d : EntityDescriptor := ⟨"Order", none, [⟨"Id", none, true, false, false⟩]⟩
    let calls : List Call := [.resolve d, .registerAlias "Order" ⟨some "ORDERS", []⟩,
      .resolve { d with table := some "T" }, .resolve d]
    ((run .upper calls).2.get? "Order").map (·.table) = some "ORDERS" ∧
      (resolvedSince "Order" (run .upper calls).1).length = 2 := by
  decide +kernel

end EntitySql.Registry
