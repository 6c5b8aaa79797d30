import ObjectAssembly.Materialize
import ObjectAssembly.Proofs.Binding

/-!
# Materialization — when it succeeds, and where it fails first

`Instantiates` says that every identifier of a list resolves and that its factory makes an object,
each factory seeing the calls before it.  A definition materializes iff its identifiers do so, every
entry of its log is declared by one of the fresh objects, and each fresh object replays the log
alone.  If it does not materialize, `FirstFailure` names the step at which it ends: the lookup or
the factory of a pair, the refusal of an entry by an object, or an entry that no object declares.
-/

namespace ObjectAssembly

/-! ### Tables of slots -/

namespace Slots

variable {α β : Type}

/-- The names of the slots with the numbers of their members. -/
def shape (s : Slots α) : List (String × Nat) := s.map fun p => (p.1, p.2.length)

theorem shape_refill : ∀ (s : Slots α) (ys : List β), ys.length = s.size →
    (s.refill ys).shape = s.shape
  | [], _, _ => rfl
  | p :: rest, ys, h => by
    have hp : p.2.length + size rest = ys.length := h.symm
    have ih := shape_refill rest (ys.drop p.2.length) (by rw [List.length_drop]; omega)
    have hl : min p.2.length ys.length = p.2.length := by omega
    simp only [refill, shape, List.map_cons, List.length_take, hl] at ih ⊢
    rw [ih]

theorem members_refill : ∀ (s : Slots α) (ys : List β), ys.length = s.size →
    (s.refill ys).pairs.map (·.2) = ys
  | [], ys, h => by
    have : ys = [] := List.length_eq_zero_iff.mp h
    rw [this]; rfl
  | p :: rest, ys, h => by
    have hp : p.2.length + size rest = ys.length := h.symm
    have ih := members_refill rest (ys.drop p.2.length) (by rw [List.length_drop]; omega)
    simp only [pairs] at ih
    simp only [refill, pairs, List.flatMap_cons, List.map_append, List.map_map, ih]
    simp [Function.comp_def]

end Slots

/-! ### Fresh objects -/

/-- Every identifier resolves and its factory, called after those before it, makes an object. -/
inductive Instantiates (resolve : Resolver) :
    Calls → List (String × String) → List Object → Calls → Prop
  | nil (calls : Calls) : Instantiates resolve calls [] [] calls
  | cons {calls called : Calls} {slot id : String} {rest : List (String × String)} {t : ObjectType}
      {o : Object} {objects : List Object} :
      resolve id = some t → t.instantiate calls = .ok o →
      Instantiates resolve (t.record calls) rest objects called →
      Instantiates resolve calls ((slot, id) :: rest) (o :: objects) called

section Instantiation

variable {resolve : Resolver} {calls called : Calls} {pairs : List (String × String)}
  {objects : List Object}

theorem Instantiates.length_eq (h : Instantiates resolve calls pairs objects called) :
    objects.length = pairs.length := by
  induction h with
  | nil => rfl
  | cons _ _ _ ih => simp [ih]

theorem ObjectType.cls_of_instantiate {t : ObjectType} {o : Object}
    (h : t.instantiate calls = .ok o) : o.cls = t.cls := by
  unfold ObjectType.instantiate at h
  split at h
  · cases h
  · next make _ =>
    cases hm : make calls with
    | error e => rw [hm] at h; cases h
    | ok fields => rw [hm] at h; cases h; rfl

/-- What is logged of a pair whose object has been made. -/
def madeEntry (p : String × String) (o : Object) : LogEntry := .instantiated p.1 p.2 o.typeName

theorem instantiateAll_cons_of_none {slot id : String} {rest : List (String × String)}
    (hr : resolve id = none) : instantiateAll resolve calls ((slot, id) :: rest) =
      ⟨[id], calls, [], .error (.typeNotFound slot id)⟩ := by
  simp only [instantiateAll, hr]

theorem instantiateAll_cons_of_error {slot id : String} {rest : List (String × String)}
    {t : ObjectType} {cause : InstantiateError} (hr : resolve id = some t)
    (hm : t.instantiate calls = .error cause) : instantiateAll resolve calls ((slot, id) :: rest) =
      ⟨[id], t.record calls, [], .error (.ofInstantiate slot id cause)⟩ := by
  simp only [instantiateAll, hr, hm]

/-- Instantiating goes on behind pairs that have made their objects. -/
theorem instantiateAll_append {before : List (String × String)} {fresh : List Object}
    (rest : List (String × String)) (h : Instantiates resolve calls before fresh called) :
    instantiateAll resolve calls (before ++ rest) =
      { lookups := before.map (·.2) ++ (instantiateAll resolve called rest).lookups
        calls := (instantiateAll resolve called rest).calls
        log := List.zipWith madeEntry before fresh ++ (instantiateAll resolve called rest).log
        outcome := (instantiateAll resolve called rest).outcome.map (fresh ++ ·) } := by
  induction h with
  | nil calls =>
    rw [List.nil_append]
    rcases instantiateAll resolve calls rest with ⟨lookups, calls', log, e | objects⟩ <;> rfl
  | cons hr hi _ ih =>
    have hn := congrArg ObjectClass.name (ObjectType.cls_of_instantiate hi)
    simp only [List.cons_append, instantiateAll, hr, hi, ih, ObjectType.typeName, ← hn]
    cases (instantiateAll resolve _ rest).outcome <;> rfl

theorem instantiateAll_of_instantiates (h : Instantiates resolve calls pairs objects called) :
    instantiateAll resolve calls pairs =
      ⟨pairs.map (·.2), called, List.zipWith madeEntry pairs objects, .ok objects⟩ := by
  have := instantiateAll_append [] h
  simpa [instantiateAll, Except.map] using this

theorem instantiates_of_instantiateAll : ∀ {pairs : List (String × String)} {calls : Calls}
    {objects : List Object}, (instantiateAll resolve calls pairs).outcome = .ok objects →
    Instantiates resolve calls pairs objects (instantiateAll resolve calls pairs).calls
  | [], calls, objects, h => by cases h; exact .nil calls
  | (slot, id) :: rest, calls, objects, h => by
    unfold instantiateAll at h ⊢
    cases hr : resolve id with
    | none => simp [hr] at h
    | some t =>
      cases hi : t.instantiate calls with
      | error e => simp [hr, hi] at h
      | ok o =>
        simp only [hr, hi] at h ⊢
        cases ho : (instantiateAll resolve (t.record calls) rest).outcome with
        | error e => rw [ho] at h; cases h
        | ok os =>
          rw [ho] at h
          cases h
          exact .cons hr hi (instantiates_of_instantiateAll ho)

/-- Instantiating fails at the first pair whose lookup or factory fails. -/
theorem instantiateAll_error : ∀ {pairs : List (String × String)} {calls : Calls}
    {e : ConfigurationError}, (instantiateAll resolve calls pairs).outcome = .error e →
    ∃ before slot id after fresh called, pairs = before ++ (slot, id) :: after ∧
      Instantiates resolve calls before fresh called ∧
      ((resolve id = none ∧ e = .typeNotFound slot id) ∨
        ∃ t cause, resolve id = some t ∧ t.instantiate called = .error cause ∧
          e = .ofInstantiate slot id cause)
  | [], calls, e, h => by cases h
  | (slot, id) :: rest, calls, e, h => by
    cases hr : resolve id with
    | none =>
      rw [instantiateAll_cons_of_none hr, Except.error.injEq] at h
      exact ⟨[], slot, id, rest, [], calls, rfl, .nil calls, .inl ⟨hr, h.symm⟩⟩
    | some t =>
      cases hi : t.instantiate calls with
      | error cause =>
        rw [instantiateAll_cons_of_error hr hi, Except.error.injEq] at h
        exact ⟨[], slot, id, rest, [], calls, rfl, .nil calls, .inr ⟨t, cause, hr, hi, h.symm⟩⟩
      | ok o =>
        simp only [instantiateAll, hr, hi] at h
        cases ho : (instantiateAll resolve (t.record calls) rest).outcome with
        | ok os => rw [ho] at h; cases h
        | error e' =>
          rw [ho] at h
          cases h
          obtain ⟨before, slot', id', after, fresh, called, rfl, hb, hf⟩ := instantiateAll_error ho
          exact ⟨(slot, id) :: before, slot', id', after, o :: fresh, called, rfl, .cons hr hi hb, hf⟩

end Instantiation

/-! ### Success -/

section Success

variable {d : Definition} {resolve : Resolver} {calls called : Calls} {fresh bound : List Object}
  {c : Configuration}

theorem materialize_of_bound (hi : Instantiates resolve calls d.slots.pairs fresh called)
    (hd : ∀ a ∈ d.options, ∃ o ∈ fresh, o.declares a.name)
    (hb : List.Forall₂ (fun o o' => o.replay d.options = .ok o') fresh bound) :
    (d.materialize resolve calls).outcome = .ok ⟨d.name, d.slots.refill bound⟩ := by
  have hall := bindAll_ok_iff.mpr ⟨hb, hd, rfl⟩
  simp only [Definition.materialize, instantiateAll_of_instantiates hi, hall]

/-- A configuration has the name and the slots of its definition, and its objects are what the log
makes of fresh instances. -/
theorem replayed_of_materialize (h : (d.materialize resolve calls).outcome = .ok c) :
    c.name = d.name ∧ c.slots.shape = d.slots.shape ∧
      ∃ fresh called, Instantiates resolve calls d.slots.pairs fresh called ∧
        (∀ a ∈ d.options, ∃ o ∈ fresh, o.declares a.name) ∧
        List.Forall₂ (fun o o' => o.replay d.options = .ok o') fresh (c.toList.map (·.2)) := by
  unfold Definition.materialize at h
  cases hm : (instantiateAll resolve calls d.slots.pairs).outcome with
  | error e => simp [hm] at h
  | ok fresh =>
    simp only [hm] at h
    rcases hb : bindAll d.options fresh with ⟨bound, log, e | ⟨⟩⟩
    · simp [hb] at h
    · simp only [hb, Except.ok.injEq] at h
      subst h
      obtain ⟨hs, hd, -⟩ := bindAll_ok_iff.mp hb
      have hi := instantiates_of_instantiateAll hm
      have hlen : bound.length = d.slots.size := by
        rw [← hs.length_eq, hi.length_eq, Slots.length_pairs]
      refine ⟨rfl, Slots.shape_refill _ _ hlen, fresh, _, hi, hd, ?_⟩
      rw [Configuration.toList, Slots.members_refill _ _ hlen]
      exact hs

/-- All targets replay a log iff there is a list of their replays. -/
theorem forall₂_replay_iff {log : List Assignment} {targets : List Object} :
    (∃ bound, List.Forall₂ (fun o o' => o.replay log = .ok o') targets bound) ↔
      ∀ o ∈ targets, ∃ o', o.replay log = .ok o' := by
  constructor
  · rintro ⟨bound, h⟩
    induction h with
    | nil => simp
    | cons h _ ih => exact List.forall_mem_cons.mpr ⟨⟨_, h⟩, ih⟩
  · intro h
    induction targets with
    | nil => exact ⟨[], .nil⟩
    | cons o rest ih =>
      rw [List.forall_mem_cons] at h
      obtain ⟨⟨o', ho⟩, hrest⟩ := h
      obtain ⟨bound, hb⟩ := ih hrest
      exact ⟨o' :: bound, .cons ho hb⟩

/-- **Materialization mirrors the definition.**  It succeeds iff every identifier resolves and makes
an object, every entry of the log is declared by one of these objects, and each of them replays the
log alone.  The configuration then has the name and the slots of the definition, one object for each
identifier, and each object is what its own replay makes of its own fresh instance. -/
theorem materialize_mirrors (d : Definition) (resolve : Resolver) (calls : Calls) :
    ((∃ c, (d.materialize resolve calls).outcome = .ok c) ↔
      ∃ fresh called, Instantiates resolve calls d.slots.pairs fresh called ∧
        (∀ a ∈ d.options, ∃ o ∈ fresh, o.declares a.name) ∧
        ∀ o ∈ fresh, ∃ o', o.replay d.options = .ok o') ∧
    ∀ c, (d.materialize resolve calls).outcome = .ok c →
      c.name = d.name ∧ c.slots.shape = d.slots.shape ∧
        ∃ fresh called, Instantiates resolve calls d.slots.pairs fresh called ∧
          List.Forall₂ (fun o o' => o.replay d.options = .ok o') fresh (c.toList.map (·.2)) := by
  refine ⟨⟨?_, ?_⟩, ?_⟩
  · rintro ⟨c, h⟩
    obtain ⟨-, -, fresh, called, hi, hd, hs⟩ := replayed_of_materialize h
    exact ⟨fresh, called, hi, hd, forall₂_replay_iff.mp ⟨_, hs⟩⟩
  · rintro ⟨fresh, called, hi, hd, hs⟩
    obtain ⟨bound, hb⟩ := forall₂_replay_iff.mpr hs
    exact ⟨_, materialize_of_bound hi hd hb⟩
  · intro c h
    obtain ⟨hname, hshape, fresh, called, hi, -, hs⟩ := replayed_of_materialize h
    exact ⟨hname, hshape, fresh, called, hi, hs⟩

end Success

/-! ### Failure -/

/-- The first failing step of a materialization: its error, what the resolver has been asked for, and
the factory calls up to it.  The steps are, for each pair in order, the lookup and then the factory;
and then, for each entry of the log, the setters of all objects in order and the check that some
object has accepted the entry. -/
inductive FirstFailure (d : Definition) (resolve : Resolver) (calls : Calls) :
    ConfigurationError → List String → Calls → Prop
  | lookup {before after : List (String × String)} {slot id : String} {fresh : List Object}
      {called : Calls} :
      d.slots.pairs = before ++ (slot, id) :: after →
      Instantiates resolve calls before fresh called →
      resolve id = none →
      FirstFailure d resolve calls (.typeNotFound slot id) (before.map (·.2) ++ [id]) called
  | notConstructible {before after : List (String × String)} {slot id : String}
      {fresh : List Object} {called : Calls} {t : ObjectType} :
      d.slots.pairs = before ++ (slot, id) :: after →
      Instantiates resolve calls before fresh called →
      resolve id = some t → t.instantiate called = .error .notConstructible →
      FirstFailure d resolve calls (.notConstructible slot id) (before.map (·.2) ++ [id])
        (t.record called)
  | inaccessible {before after : List (String × String)} {slot id : String} {fresh : List Object}
      {called : Calls} {t : ObjectType} :
      d.slots.pairs = before ++ (slot, id) :: after →
      Instantiates resolve calls before fresh called →
      resolve id = some t → t.instantiate called = .error .inaccessible →
      FirstFailure d resolve calls (.constructorInaccessible slot id) (before.map (·.2) ++ [id])
        (t.record called)
  | failed {before after : List (String × String)} {slot id : String} {fresh : List Object}
      {called : Calls} {t : ObjectType} {cause : Failure} :
      d.slots.pairs = before ++ (slot, id) :: after →
      Instantiates resolve calls before fresh called →
      resolve id = some t → t.instantiate called = .error (.failed cause) →
      FirstFailure d resolve calls (.constructionFailed slot id cause) (before.map (·.2) ++ [id])
        (t.record called)
  | refused {fresh passed rest : List Object} {called : Calls} {before after : List Assignment}
      {a : Assignment} {o : Object} {reason : String} :
      Instantiates resolve calls d.slots.pairs fresh called →
      d.options = before ++ a :: after →
      (∀ b ∈ before, ∃ x ∈ fresh, x.declares b.name) →
      List.Forall₂ (fun x x' => x.replay before = .ok x') fresh (passed ++ o :: rest) →
      (∀ x ∈ passed, ∃ x', x.Takes a x') → o.Refuses a reason →
      FirstFailure d resolve calls
        (.optionBinding a.name (.invalidValue a.name a.value o.typeName reason))
        (d.slots.pairs.map (·.2)) called
  | undeclared {fresh bound : List Object} {called : Calls} {before after : List Assignment}
      {a : Assignment} :
      Instantiates resolve calls d.slots.pairs fresh called →
      d.options = before ++ a :: after →
      (∀ b ∈ before, ∃ x ∈ fresh, x.declares b.name) →
      List.Forall₂ (fun x x' => x.replay before = .ok x') fresh bound →
      (∀ x ∈ bound, x.declares a.name = false) →
      FirstFailure d resolve calls (.optionBinding a.name (.unknownOption a.name))
        (d.slots.pairs.map (·.2)) called

section Failure

variable {d : Definition} {resolve : Resolver} {calls called : Calls} {fresh bound : List Object}
  {before after : List (String × String)} {slot id : String} {e : ConfigurationError}

/-- The error of a pair whose lookup or factory fails. -/
theorem materialize_of_instantiation_error {next : Instantiation}
    (hp : d.slots.pairs = before ++ after) (hi : Instantiates resolve calls before fresh called)
    (hn : instantiateAll resolve called after = next) (he : next.outcome = .error e) :
    (d.materialize resolve calls).outcome = .error e ∧
      (d.materialize resolve calls).lookups = before.map (·.2) ++ next.lookups ∧
      (d.materialize resolve calls).calls = next.calls := by
  have hall := instantiateAll_append after hi
  rw [← hp, hn, he] at hall
  simp only [Definition.materialize, hall]
  exact ⟨rfl, rfl, rfl⟩

/-- The error of an entry that cannot be bound. -/
theorem materialize_of_bind_error {e : BindError}
    (hi : Instantiates resolve calls d.slots.pairs fresh called)
    (hb : (bindAll d.options fresh).outcome = .error e) :
    (d.materialize resolve calls).outcome = .error (.ofBind e) ∧
      (d.materialize resolve calls).lookups = d.slots.pairs.map (·.2) ∧
      (d.materialize resolve calls).calls = called := by
  simp only [Definition.materialize, instantiateAll_of_instantiates hi]
  rcases h : bindAll d.options fresh with ⟨bound, log, e' | ⟨⟩⟩
  · rw [h] at hb
    cases hb
    exact ⟨rfl, rfl, rfl⟩
  · rw [h] at hb
    cases hb

/-- A first failing step decides the error, the lookups and the calls. -/
theorem materialize_of_firstFailure {asked : List String}
    (h : FirstFailure d resolve calls e asked called) :
    (d.materialize resolve calls).outcome = .error e ∧
      (d.materialize resolve calls).lookups = asked ∧
      (d.materialize resolve calls).calls = called := by
  cases h with
  | lookup hp hi hr =>
    exact materialize_of_instantiation_error hp hi (instantiateAll_cons_of_none hr) rfl
  | notConstructible hp hi hr hm =>
    exact materialize_of_instantiation_error hp hi (instantiateAll_cons_of_error hr hm) rfl
  | inaccessible hp hi hr hm =>
    exact materialize_of_instantiation_error hp hi (instantiateAll_cons_of_error hr hm) rfl
  | failed hp hi hr hm =>
    exact materialize_of_instantiation_error hp hi (instantiateAll_cons_of_error hr hm) rfl
  | @refused _ passed rest _ _ _ a o _ hi ho hd hs ht hr =>
    have hone := bindOne_error_iff.mpr (.inl ⟨passed, o, rest, _, rfl, ht, hr, rfl⟩)
    exact materialize_of_bind_error hi (bindAll_error_iff.mpr ⟨_, _, _, _, ho, hs, hd, hone⟩)
  | undeclared hi ho hd hs hn =>
    have hone := bindOne_error_iff.mpr (.inr ⟨hn, rfl⟩)
    exact materialize_of_bind_error hi (bindAll_error_iff.mpr ⟨_, _, _, _, ho, hs, hd, hone⟩)

/-- A materialization that fails has a first failing step. -/
theorem exists_firstFailure (h : (d.materialize resolve calls).outcome = .error e) :
    ∃ asked called, FirstFailure d resolve calls e asked called := by
  have hm : (instantiateAll resolve calls d.slots.pairs).outcome = .error e ∨
      ∃ fresh, (instantiateAll resolve calls d.slots.pairs).outcome = .ok fresh ∧
        ∃ be, (bindAll d.options fresh).outcome = .error be ∧ e = .ofBind be := by
    unfold Definition.materialize at h
    cases ho : (instantiateAll resolve calls d.slots.pairs).outcome with
    | error e' =>
      simp only [ho, Except.error.injEq] at h
      exact .inl (congrArg Except.error h)
    | ok fresh =>
      simp only [ho] at h
      rcases hb : bindAll d.options fresh with ⟨bound, log, be | ⟨⟩⟩
      · simp only [hb, Except.error.injEq] at h
        exact .inr ⟨fresh, rfl, be, by rw [hb], h.symm⟩
      · simp [hb] at h
  rcases hm with ho | ⟨fresh, ho, be, hb, rfl⟩
  · obtain ⟨before, slot, id, after, fresh, called, hp, hi, hf⟩ := instantiateAll_error ho
    rcases hf with ⟨hr, rfl⟩ | ⟨t, cause, hr, hc, rfl⟩
    · exact ⟨_, _, .lookup hp hi hr⟩
    · cases cause with
      | notConstructible => exact ⟨_, _, .notConstructible hp hi hr hc⟩
      | inaccessible => exact ⟨_, _, .inaccessible hp hi hr hc⟩
      | failed cause => exact ⟨_, _, .failed hp hi hr hc⟩
  · have hi := instantiates_of_instantiateAll ho
    obtain ⟨before, a, after, mid, hl, hs, hd, hone⟩ := bindAll_error_iff.mp hb
    rcases bindOne_error_iff.mp hone with ⟨passed, o, rest, reason, rfl, ht, hr, rfl⟩ | ⟨hn, rfl⟩
    · exact ⟨_, _, .refused hi hl hd hs ht hr⟩
    · exact ⟨_, _, .undeclared hi hl hd hs hn⟩

/-- **Materialization fails at the first failing step.**  It ends with an error, after these lookups
and factory calls, iff that is the first failing step in the fixed order of steps. -/
theorem materialize_fails_iff_firstFailure (d : Definition) (resolve : Resolver) (calls : Calls)
    (e : ConfigurationError) (asked : List String) (called : Calls) :
    ((d.materialize resolve calls).outcome = .error e ∧
      (d.materialize resolve calls).lookups = asked ∧
      (d.materialize resolve calls).calls = called) ↔ FirstFailure d resolve calls e asked called := by
  constructor
  · rintro ⟨he, rfl, rfl⟩
    obtain ⟨asked, called, h⟩ := exists_firstFailure he
    obtain ⟨-, rfl, rfl⟩ := materialize_of_firstFailure h
    exact h
  · exact materialize_of_firstFailure

end Failure

end ObjectAssembly
