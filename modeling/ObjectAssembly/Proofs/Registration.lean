import ObjectAssembly.Application
import ObjectAssembly.Proofs.Cells
import Mathlib.Data.List.Nodup

/-!
# Registration — what a registry holds after types have been registered

Types are registered in order, up to the first one whose identifier is taken.  So a registry never
holds two types of one identifier, and registering types in several batches does the same as
registering them all at once.
-/

namespace ObjectAssembly

/-! ### Registries -/

section Registries

variable {done types more reg : List ObjectType} {t : ObjectType} {id : String}
  {taken : Option String}

/-- The types have been registered behind those that are there, up to the first one whose identifier
is taken. -/
inductive Filled (done : List ObjectType) :
    List ObjectType → List ObjectType → Option String → Prop
  | all {types : List ObjectType} (h : ((done ++ types).map (·.id)).Nodup) :
      Filled done types (done ++ types) none
  | stopped {before : List ObjectType} {t : ObjectType} (after : List ObjectType)
      (h : ((done ++ before).map (·.id)).Nodup) (ht : t.id ∈ (done ++ before).map (·.id)) :
      Filled done (before ++ t :: after) (done ++ before) (some t.id)

theorem Filled.nodup (h : Filled done types reg taken) : (reg.map (·.id)).Nodup := by
  cases h with
  | all h => exact h
  | stopped _ h _ => exact h

theorem Filled.eq_append (h : Filled done types reg none) : reg = done ++ types := by
  cases h
  rfl

/-- The types before the one whose identifier is taken have been registered. -/
theorem Filled.exists_taken (h : Filled done types reg (some id)) :
    ∃ before t after, types = before ++ t :: after ∧ reg = done ++ before ∧ t.id = id ∧
      ((done ++ before).map (·.id)).Nodup ∧ t.id ∈ (done ++ before).map (·.id) := by
  cases h with
  | stopped after h ht => exact ⟨_, _, after, rfl, rfl, rfl, h, ht⟩

/-- Types after others that have all been registered. -/
theorem Filled.append (h : Filled done types reg none) {reg' : List ObjectType}
    (h' : Filled reg more reg' taken) : Filled done (types ++ more) reg' taken := by
  cases h with
  | all _ =>
    cases h' with
    | all h' =>
      rw [List.append_assoc] at h' ⊢
      exact .all h'
    | stopped after h' ht =>
      rw [List.append_assoc] at h' ht ⊢
      rw [← List.append_assoc]
      exact .stopped after h' ht

/-- Types after one whose identifier is taken. -/
theorem Filled.stop (h : Filled done types reg (some id)) :
    Filled done (types ++ more) reg (some id) := by
  cases h with
  | stopped after h ht =>
    rw [List.append_assoc]
    exact .stopped (after ++ more) h ht

/-- An identifier is taken just if some identifier is there twice. -/
theorem Filled.taken_iff (h : Filled done types reg taken) :
    taken = none ↔ ((done ++ types).map (·.id)).Nodup := by
  cases h with
  | all h => exact iff_of_true rfl h
  | @stopped before t after h ht =>
    refine iff_of_false nofun fun hnodup => ?_
    rw [← List.append_assoc, List.map_append] at hnodup
    exact (List.nodup_append.mp hnodup).2.2 _ ht _ List.mem_cons_self rfl

namespace ObjectRegistry

theorem contains_iff {r : ObjectRegistry} : r.contains id = true ↔ id ∈ r.types.map (·.id) := by
  unfold contains get?
  rw [List.find?_isSome, List.mem_map]
  simp only [beq_iff_eq]

/-- Registering types fills the registry. -/
theorem insertAll_filled (types : List ObjectType) {r : ObjectRegistry}
    (h : (r.types.map (·.id)).Nodup) :
    Filled r.types types (r.insertAll types).1.types (r.insertAll types).2.2 := by
  induction types generalizing r with
  | nil =>
    have hall : Filled r.types [] (r.types ++ []) none := .all (by rwa [List.append_nil])
    rwa [List.append_nil] at hall
  | cons t rest ih =>
    by_cases ht : r.contains t.id = true
    · have hinsert : r.insert? t = none := if_pos ht
      have hstopped : Filled r.types ([] ++ t :: rest) (r.types ++ []) (some t.id) :=
        .stopped rest (by rwa [List.append_nil])
          (by rw [List.append_nil]; exact contains_iff.mp ht)
      rw [insertAll, hinsert]
      rwa [List.append_nil] at hstopped
    · have hinsert : r.insert? t = some (⟨r.types ++ [t]⟩, .typeRegistered t.id t.typeName) :=
        if_neg ht
      have hmore : ((r.types ++ [t]).map (·.id)).Nodup := by
        rw [List.map_append, List.map_cons, List.map_nil, ← List.concat_eq_append]
        exact h.concat fun hmem => ht (contains_iff.mpr hmem)
      rw [insertAll, hinsert]
      exact (Filled.all hmore).append (ih (r := ⟨r.types ++ [t]⟩) hmore)

end ObjectRegistry

end Registries

/-! ### Effects that register -/

section Effects

variable {κ : Type} {V : κ → Type} [DecidableEq κ] {ρ : Type} {s s' : Store κ V}
  {done types : List ObjectType}

/-- The registry resource holds these types, of distinct identifiers, and is not lent. -/
structure Store.Holds (s : Store κ V) (types : List ObjectType) : Prop where
  cell : s.resources.cell? (.registry : Key κ) = some ⟨⟨types⟩, .free⟩
  nodup : (types.map (·.id)).Nodup

theorem Store.Holds.registry? (h : s.Holds types) : s.registry? = some ⟨types⟩ := by
  unfold Store.registry?
  rw [Resources.read_of_shared h.cell]
  rfl

/-- What registering types does to a registry that can be filled. -/
theorem Store.Holds.register? (h : s.Holds done) (types : List ObjectType) :
    ∃ s' log outcome reg taken, s.register? types = some (s', log, outcome) ∧ s'.Holds reg ∧
      Filled done types reg taken ∧
      ∀ message, outcome = .error message ↔
        ∃ id, taken = some id ∧ message = ObjectRegistry.duplicateMessage id := by
  have hfilled := ObjectRegistry.insertAll_filled types (r := ⟨done⟩) h.nodup
  rcases hinsert : ObjectRegistry.insertAll ⟨done⟩ types with ⟨reg, log, taken⟩
  rw [hinsert] at hfilled
  obtain ⟨lent, hlend, hcell⟩ := Resources.cell?_write_lendMut (w := reg) h.cell
  have hregister : s.register? types = some
      ({ s with resources := (lent.write (.registry : Key κ) reg).releaseMut .registry }, log,
        taken.elim (.ok (ObjectRegistry.size reg))
          fun id => .error (ObjectRegistry.duplicateMessage id)) := by
    rw [Store.register?, hlend]
    simp only [hinsert]
    cases taken <;> rfl
  refine ⟨_, _, _, reg.types, taken, hregister, ⟨hcell, hfilled.nodup⟩, hfilled, ?_⟩
  intro message
  cases taken with
  | none => simp
  | some id => simp [eq_comm]

/-- The effect registers these types.  If there is a registry to fill, it leaves the registry as
registering the types does and panics just as that does; it publishes none.  It may do anything else
to the store. -/
def Effect.Registers (run : Effect (Store κ V) ρ) (types : List ObjectType) : Prop :=
  ∀ view s, (run view s).store.publishedRegistry? = s.publishedRegistry? ∧
    ∀ s' log outcome, s.register? types = some (s', log, outcome) →
      (run view s).store.resources.cell? (.registry : Key κ) =
        s'.resources.cell? (.registry : Key κ) ∧
      ∀ message, (run view s).outcome = .error message ↔ outcome = .error message

/-- What an effect that registers types does to a registry that can be filled. -/
theorem Effect.Registers.fill {run : Effect (Store κ V) ρ} (h : run.Registers types) (view : View)
    (hs : s.Holds done) :
    ∃ reg taken, (run view s).store.Holds reg ∧ Filled done types reg taken ∧
      ∀ message, (run view s).outcome = .error message ↔
        ∃ id, taken = some id ∧ message = ObjectRegistry.duplicateMessage id := by
  obtain ⟨s', log, outcome, reg, taken, hregister, hholds, hfilled, hmessage⟩ := hs.register? types
  obtain ⟨hcell, houtcome⟩ := (h view s).2 s' log outcome hregister
  refine ⟨reg, taken, ⟨hcell.trans hholds.cell, hholds.nodup⟩, hfilled, fun message => ?_⟩
  exact (houtcome message).trans (hmessage message)

/-- Registers types in one batch. -/
def registering (types : List ObjectType) : Effect (Store κ V) ρ := fun _ s =>
  match s.register? types with
  | none => ⟨s, [], .error "ObjectsPlugin must be added first"⟩
  | some (s, log, outcome) => ⟨s, log, outcome.map fun _ => none⟩

theorem register?_globals {log : List LogEntry} {outcome : Except String Nat}
    (h : s.register? types = some (s', log, outcome)) : s'.globals = s.globals := by
  unfold Store.register? at h
  split at h
  · cases h
  · cases h
    rfl

theorem publishedRegistry?_congr
    (h : s'.globals.cell? (.registry : Key κ) = s.globals.cell? (.registry : Key κ)) :
    s'.publishedRegistry? = s.publishedRegistry? :=
  congrArg Except.toOption (Resources.read_congr h)

theorem registering_registers (types : List ObjectType) :
    (registering types : Effect (Store κ V) ρ).Registers types := by
  intro view s
  unfold registering
  cases hregister : s.register? types with
  | none => exact ⟨rfl, fun s' log outcome h => by cases h⟩
  | some answer =>
    obtain ⟨s', log, outcome⟩ := answer
    refine ⟨publishedRegistry?_congr (by rw [register?_globals hregister]), ?_⟩
    rintro _ _ _ ⟨⟩
    refine ⟨rfl, fun message => ?_⟩
    cases outcome <;> simp [Except.map]

/-- The provider's build leaves an empty registry to fill. -/
theorem objectsPlugin_build {ι : Type} :
    ∃ run : Effect (Store κ V) ρ, (objectsPlugin : Plugin ι (Store κ V) ρ).callback .build =
      [.effect run] ∧ ∀ view s, (run view s).outcome = .ok none ∧ (run view s).store.Holds [] ∧
        (run view s).store.publishedRegistry? = s.publishedRegistry? :=
  ⟨_, rfl, fun _ _ => ⟨rfl, ⟨Resources.cell?_insert_self, List.nodup_nil⟩, rfl⟩⟩

/-- Ready, the provider takes the registry out and publishes what it holds. -/
theorem objectsPlugin_ready {ι : Type} :
    ∃ run : Effect (Store κ V) ρ, (objectsPlugin : Plugin ι (Store κ V) ρ).callback .ready =
      [.effect run] ∧ ∀ view s reg, s.Holds reg → (run view s).outcome = .ok none ∧
        (run view s).store.resources.cell? (.registry : Key κ) = none ∧
        (run view s).store.publishedRegistry? = some ⟨reg⟩ := by
  refine ⟨_, rfl, fun view s reg hs => ?_⟩
  have hvalue : s.resources.value? (.registry : Key κ) = some ⟨reg⟩ := by
    rw [Resources.value?, hs.cell]
    rfl
  obtain ⟨left, hremove, hgone⟩ : ∃ left, s.resources.remove (.registry : Key κ) =
      (left, some ⟨reg⟩) ∧ left.cell? (.registry : Key κ) = none :=
    ⟨_, Prod.ext rfl (Resources.remove_snd.trans hvalue), Resources.cell?_remove_self⟩
  simp only [hremove]
  have hcell : (s.globals.insert (.registry : Key κ) (⟨reg⟩ : ObjectRegistry)).1.cell? .registry =
      some ⟨(⟨reg⟩ : ObjectRegistry), .free⟩ := Resources.cell?_insert_self
  have hread := Resources.read_of_shared hcell
  exact ⟨trivial, hgone, congrArg Except.toOption hread⟩

/-- The demo plugin registers the demo types, and publishes no registry. -/
theorem demoPlugin_registers {ι : Type} :
    ∃ run : Effect (Store κ V) ρ, (demoPlugin : Plugin ι (Store κ V) ρ).callback .build =
      [.effect run] ∧ run.Registers Demo.types := by
  refine ⟨_, rfl, fun view s => ?_⟩
  cases hregister : s.register? Demo.types with
  | none => exact ⟨rfl, fun s' log outcome h => by cases h⟩
  | some answer =>
    obtain ⟨s', log, outcome⟩ := answer
    have hsame : s'.publishedRegistry? = s.publishedRegistry? :=
      publishedRegistry?_congr (by rw [register?_globals hregister])
    cases outcome with
    | error message =>
      refine ⟨hsame, ?_⟩
      rintro _ _ _ ⟨⟩
      exact ⟨rfl, fun _ => by simp⟩
    | ok n =>
      have hne : (Key.catalog : Key κ) ≠ .registry := nofun
      have hcell : (s'.globals.insert (.catalog : Key κ) Demo.catalog).1.cell? .registry =
          s'.globals.cell? .registry := Resources.cell?_setCell_of_ne hne
      refine ⟨(publishedRegistry?_congr hcell).trans hsame, ?_⟩
      rintro _ _ _ ⟨⟩
      exact ⟨rfl, fun _ => by simp⟩

end Effects

end ObjectAssembly
