import ObjectAssembly.Proofs.Copying
import ObjectAssembly.Proofs.Registration

/-!
# Extension — further types change nothing that worked

A registry grows at its end, and a type whose identifier is taken leaves it as it is.  So each
identifier stands for the type that was first registered under it, whatever is registered later.
`FindsMore` relates a resolver to one that finds whatever the first one finds, and maybe more.  Both make
the same of a definition, unless the first one misses an identifier.
-/

namespace ObjectAssembly

/-! ### Registries that grow -/

namespace ObjectRegistry

/-- The registry after an attempt to register a type, which fails if the identifier is taken. -/
def register (r : ObjectRegistry) (t : ObjectType) : ObjectRegistry :=
  match r.insert? t with
  | none => r
  | some (r', _) => r'

/-- The registry after attempts to register types in order, which go on when one of them fails. -/
def registerAll (r : ObjectRegistry) (types : List ObjectType) : ObjectRegistry :=
  types.foldl register r

variable {r : ObjectRegistry} {t : ObjectType} {id : String}

theorem register_of_contains (h : r.contains t.id = true) : r.register t = r := by
  have hinsert : r.insert? t = none := if_pos h
  rw [register, hinsert]

theorem register_of_not_contains (h : ¬ r.contains t.id = true) :
    r.register t = ⟨r.types ++ [t]⟩ := by
  have hinsert : r.insert? t = some (⟨r.types ++ [t]⟩, .typeRegistered t.id t.typeName) := if_neg h
  rw [register, hinsert]

theorem types_prefix_register (r : ObjectRegistry) (t : ObjectType) :
    r.types <+: (r.register t).types := by
  by_cases h : r.contains t.id = true
  · simp only [register_of_contains h, List.prefix_rfl]
  · rw [register_of_not_contains h]
    exact List.prefix_append _ _

/-- An identifier stands for the new type only if it stood for none before. -/
theorem get?_register (r : ObjectRegistry) (t : ObjectType) (id : String) :
    (r.register t).get? id = (r.types ++ [t]).find? (·.id == id) := by
  by_cases h : r.contains t.id = true
  · rw [register_of_contains h, List.find?_append, get?]
    by_cases hid : t.id = id
    · -- the identifier is taken, so the search ends before it comes to the new type
      subst hid
      obtain ⟨first, hfirst⟩ := Option.isSome_iff_exists.mp h
      rw [get?] at hfirst
      rw [hfirst]
      rfl
    · have hnone : [t].find? (·.id == id) = none := by simp [hid]
      rw [hnone, Option.or_none]
  · rw [register_of_not_contains h]
    rfl

theorem nodup_register (h : r.ids.Nodup) (t : ObjectType) : (r.register t).ids.Nodup := by
  by_cases ht : r.contains t.id = true
  · rwa [register_of_contains ht]
  · have hnew : t.id ∉ r.ids := fun hmem => ht (contains_iff.mpr hmem)
    rw [register_of_not_contains ht, ids, List.map_append, List.map_singleton,
      ← List.concat_eq_append]
    exact h.concat hnew

theorem types_prefix_registerAll (r : ObjectRegistry) (types : List ObjectType) :
    r.types <+: (r.registerAll types).types := by
  induction types generalizing r with
  | nil => exact List.prefix_rfl
  | cons t types ih => exact (types_prefix_register r t).trans (ih (r.register t))

/-- An identifier stands for the first type that was registered under it. -/
theorem get?_registerAll (r : ObjectRegistry) (types : List ObjectType) (id : String) :
    (r.registerAll types).get? id = (r.types ++ types).find? (·.id == id) := by
  induction types generalizing r with
  | nil => rw [List.append_nil]; rfl
  | cons t types ih =>
    have hfirst : (r.register t).types.find? (·.id == id) = (r.types ++ [t]).find? (·.id == id) :=
      get?_register r t id
    show ((r.register t).registerAll types).get? id = _
    rw [ih, List.find?_append, hfirst, ← List.find?_append, List.append_assoc]
    rfl

theorem nodup_registerAll (h : r.ids.Nodup) (types : List ObjectType) :
    (r.registerAll types).ids.Nodup := by
  induction types generalizing r with
  | nil => exact h
  | cons t types ih => exact ih (nodup_register h t)

theorem id_of_get? (h : r.get? id = some t) : t.id = id := by
  have hid : (t.id == id) = true := List.find?_some (p := fun t : ObjectType => t.id == id) h
  exact beq_iff_eq.mp hid

end ObjectRegistry

/-! ### Resolvers that find more -/

section FindsMore

variable {resolve resolve' : Resolver} {calls calls' : Calls} {pairs : List (String × String)}
  {d : Definition}

/-- Whatever the first resolver finds, the second one finds as well. -/
def FindsMore (resolve resolve' : Resolver) : Prop :=
  ∀ id t, resolve id = some t → resolve' id = some t

theorem ObjectRegistry.findsMore_registerAll (r : ObjectRegistry) (types : List ObjectType) :
    FindsMore r.get? (r.registerAll types).get? := by
  intro id t ht
  rw [get?] at ht
  rw [get?_registerAll, List.find?_append, ht]
  rfl

/-- The outcome is not that an identifier is missing. -/
def NoneMissing {α : Type} (outcome : Except ConfigurationError α) : Prop :=
  ∀ slot id, outcome ≠ .error (.typeNotFound slot id)

theorem NoneMissing.of_map {α β : Type} {outcome : Except ConfigurationError α} {f : α → β}
    (h : NoneMissing (outcome.map f)) : NoneMissing outcome := by
  rintro slot id rfl
  exact h slot id rfl

theorem ObjectType.record_eq (t : ObjectType) (calls : Calls) :
    t.record calls = calls ++ if t.isConstructible then [t.id] else [] := by
  unfold record
  split
  · rfl
  · rw [List.append_nil]

/-- If the factories answer the same and nothing is missed, the same is asked for, called, logged and
made. -/
theorem instantiateAll_of_findsMore (hmore : FindsMore resolve resolve') :
    ∀ {pairs : List (String × String)} {calls calls' : Calls},
      AnswerAlike resolve calls calls' pairs → NoneMissing (instantiateAll resolve calls pairs).outcome →
      ∃ made, (instantiateAll resolve calls pairs).calls = calls ++ made ∧
        instantiateAll resolve' calls' pairs =
          { instantiateAll resolve calls pairs with calls := calls' ++ made }
  | [], calls, calls', _, _ => by
    refine ⟨[], (List.append_nil calls).symm, ?_⟩
    rw [List.append_nil]
    rfl
  | (slot, id) :: rest, calls, calls', halike, hnone => by
    cases hr : resolve id with
    | none =>
      rw [instantiateAll_cons_of_none hr] at hnone
      exact absurd rfl (hnone slot id)
    | some t =>
      obtain ⟨hsame, hrest⟩ := halike t hr
      have hr' : resolve' id = some t := hmore id t hr
      cases hi : t.instantiate calls with
      | error cause =>
        rw [hi] at hsame
        rw [instantiateAll_cons_of_error hr hi, instantiateAll_cons_of_error hr' hsame.symm]
        exact ⟨_, t.record_eq calls, by rw [t.record_eq calls']⟩
      | ok o =>
        simp only [instantiateAll, hr, hi] at hnone
        obtain ⟨made, hcalls, heq⟩ := instantiateAll_of_findsMore hmore (hrest o hi) hnone.of_map
        rw [hi] at hsame
        refine ⟨(if t.isConstructible then [t.id] else []) ++ made, ?_, ?_⟩
        · simp only [instantiateAll, hr, hi, hcalls]
          rw [t.record_eq calls, List.append_assoc]
        · simp only [instantiateAll, hr, hr', hi, ← hsame, heq]
          rw [t.record_eq calls', List.append_assoc]

theorem usageSections_of_findsMore (hmore : FindsMore resolve resolve')
    (hnone : NoneMissing (usageSections resolve pairs).2) :
    usageSections resolve' pairs = usageSections resolve pairs := by
  induction pairs with
  | nil => rfl
  | cons p rest ih =>
    obtain ⟨slot, id⟩ := p
    cases hr : resolve id with
    | none =>
      simp only [usageSections, hr] at hnone
      exact absurd rfl (hnone slot id)
    | some t =>
      simp only [usageSections, hr] at hnone
      simp only [usageSections, hr, hmore id t hr, ih hnone.of_map]

/-- A definition materializes in the same way with a resolver that finds more. -/
theorem Definition.materialize_of_findsMore (hmore : FindsMore resolve resolve')
    (halike : AnswerAlike resolve calls calls' d.slots.pairs)
    (hnone : NoneMissing (d.materialize resolve calls).outcome) :
    ∃ made, (d.materialize resolve calls).calls = calls ++ made ∧
      d.materialize resolve' calls' =
        { d.materialize resolve calls with calls := calls' ++ made } := by
  have hpairs : NoneMissing (instantiateAll resolve calls d.slots.pairs).outcome := by
    intro slot id he
    refine hnone slot id ?_
    rw [materialize_outcome, he]
  obtain ⟨made, hcalls, heq⟩ := instantiateAll_of_findsMore hmore halike hpairs
  refine ⟨made, ?_⟩
  unfold materialize
  rw [heq]
  rcases hmade : instantiateAll resolve calls d.slots.pairs with ⟨lookups, called, log, e | fresh⟩ <;>
    rw [hmade] at hcalls
  · exact ⟨hcalls, rfl⟩
  · rcases hbound : bindAll d.options fresh with ⟨bound, entries, e | ⟨⟩⟩ <;>
      simp only [hbound, and_true] <;> exact hcalls

theorem Definition.usage_of_findsMore (hmore : FindsMore resolve resolve')
    (hnone : NoneMissing (d.usage resolve).outcome) : d.usage resolve' = d.usage resolve := by
  have hpairs : NoneMissing (usageSections resolve d.slots.pairs).2 := hnone.of_map
  simp only [usage, usageSections_of_findsMore hmore hpairs]

end FindsMore

/-- **Further types change nothing that worked.**  Whatever types have been registered, registering
more of them keeps the identifiers in order and without repetition.  Each identifier stands for the
first type that was registered under it, and that type bears it.  A definition whose materialization or
usage text does not end with an identifier that is not found gives the same result as before: the
factories that answer the same are called in the same order, and the same is asked for and logged. -/
theorem registrations_keep_results (types more : List ObjectType) :
    let r := ObjectRegistry.empty.registerAll types
    let r' := r.registerAll more
    r.ids <+: r'.ids ∧ r'.ids.Nodup ∧
      (∀ id, r'.get? id = (types ++ more).find? (·.id == id)) ∧
      (∀ id, r.contains id = true → r'.get? id = r.get? id) ∧
      (∀ id t, r'.get? id = some t → t.id = id) ∧
      (∀ (d : Definition) (calls calls' : Calls), AnswerAlike r.get? calls calls' d.slots.pairs →
        NoneMissing (d.materialize r.get? calls).outcome →
        ∃ made, (d.materialize r.get? calls).calls = calls ++ made ∧
          d.materialize r'.get? calls' =
            { d.materialize r.get? calls with calls := calls' ++ made }) ∧
      ∀ d : Definition, NoneMissing (d.usage r.get?).outcome → d.usage r'.get? = d.usage r.get? := by
  intro r r'
  have hmore : FindsMore r.get? r'.get? := r.findsMore_registerAll more
  have hall : r' = ObjectRegistry.empty.registerAll (types ++ more) :=
    (List.foldl_append ..).symm
  refine ⟨?_, ?_, ?_, ?_, ?_, ?_, ?_⟩
  · exact (r.types_prefix_registerAll more).map _
  · have hempty : ObjectRegistry.empty.ids.Nodup := List.nodup_nil
    rw [hall]
    exact ObjectRegistry.nodup_registerAll hempty _
  · intro id
    rw [hall, ObjectRegistry.get?_registerAll]
    rfl
  · intro id hid
    obtain ⟨t, ht⟩ := Option.isSome_iff_exists.mp hid
    rw [ht, hmore id t ht]
  · exact fun id t ht => ObjectRegistry.id_of_get? ht
  · exact fun d calls calls' halike hnone => d.materialize_of_findsMore hmore halike hnone
  · exact fun d hnone => d.usage_of_findsMore hmore hnone

end ObjectAssembly
