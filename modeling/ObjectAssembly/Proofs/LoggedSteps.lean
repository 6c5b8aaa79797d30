import ObjectAssembly.Proofs.FailedBinding
import ObjectAssembly.Proofs.Materialization

/-!
# LoggedSteps — a materialization logs the steps that it has done

`Course` says how far a materialization comes: the pairs that have made their objects, the entries of
the option log that have been bound to these, and the problem at the next step, if there is one.  The
events in its log are those of these steps and no others: the freezing if there was one, an event for
each object, an event for each bound entry, and a last one that counts them all if nothing is left to
do.  A step that fails half-way has no event.
-/

namespace ObjectAssembly

/-- The title of the entry is this one. -/
def LogEntry.titled (title : String) (entry : LogEntry) : Bool := entry.title == title

/-- The events of a log, without the spans around them. -/
def events (log : List LogEntry) : List LogEntry := log.filter (!·.isSpan)

/-- The events of the steps that have been done: the definition is frozen, iff it was not; each of
these pairs has made its object; and each of these entries has reached the objects that declare its
option. -/
def stepEvents (d : Definition) (made : List (String × String)) (fresh : List Object)
    (bound : List Assignment) : List LogEntry :=
  (if d.frozen then [] else [.frozen d.name]) ++ List.zipWith madeEntry made fresh ++
    bound.map (applied fresh)

/-- How far a materialization comes: the pairs that have made their objects, these objects, the
entries that have been bound to them, and the problem at the next step. -/
inductive Course (d : Definition) (resolve : Resolver) (calls : Calls) :
    List (String × String) → List Object → List Assignment → Option ConfigurationError → Prop
  | lookup {made after : List (String × String)} {slot id : String} {fresh : List Object}
      {called : Calls} :
      d.slots.pairs = made ++ (slot, id) :: after →
      Instantiates resolve calls made fresh called →
      resolve id = none →
      Course d resolve calls made fresh [] (some (.typeNotFound slot id))
  | factory {made after : List (String × String)} {slot id : String} {fresh : List Object}
      {called : Calls} {t : ObjectType} {cause : InstantiateError} :
      d.slots.pairs = made ++ (slot, id) :: after →
      Instantiates resolve calls made fresh called →
      resolve id = some t → t.instantiate called = .error cause →
      Course d resolve calls made fresh [] (some (.ofInstantiate slot id cause))
  | binding {fresh reached left : List Object} {called : Calls} {bound after : List Assignment}
      {a : Assignment} {e : BindError} :
      Instantiates resolve calls d.slots.pairs fresh called →
      d.options = bound ++ a :: after →
      (∀ b ∈ bound, ∃ o ∈ fresh, o.declares b.name) →
      List.Forall₂ (fun o o' => o.replay bound = .ok o') fresh reached →
      Fails a reached left e →
      Course d resolve calls d.slots.pairs fresh bound (some (.ofBind e))
  | complete {fresh reached : List Object} {called : Calls} :
      Instantiates resolve calls d.slots.pairs fresh called →
      (∀ a ∈ d.options, ∃ o ∈ fresh, o.declares a.name) →
      List.Forall₂ (fun o o' => o.replay d.options = .ok o') fresh reached →
      Course d resolve calls d.slots.pairs fresh d.options none

section Course

variable {d : Definition} {resolve : Resolver} {calls : Calls} {made : List (String × String)}
  {fresh : List Object} {bound : List Assignment} {problem : Option ConfigurationError}

/-- Every materialization has a course. -/
theorem exists_course (d : Definition) (resolve : Resolver) (calls : Calls) :
    ∃ made fresh bound problem, Course d resolve calls made fresh bound problem := by
  cases hmade : (instantiateAll resolve calls d.slots.pairs).outcome with
  | error e =>
    obtain ⟨made, slot, id, after, fresh, called, hp, hi, ⟨hr, -⟩ | ⟨t, cause, hr, hc, -⟩⟩ :=
      instantiateAll_error hmade
    · exact ⟨_, _, _, _, .lookup hp hi hr⟩
    · exact ⟨_, _, _, _, .factory hp hi hr hc⟩
  | ok fresh =>
    have hi := instantiates_of_instantiateAll hmade
    rcases hb : bindAll d.options fresh with ⟨reached, entries, e | ⟨⟩⟩
    · obtain ⟨bound, a, after, reached, ho, hs, hd, he⟩ :=
        bindAll_error_iff.mp (congrArg Bound.outcome hb)
      obtain ⟨left, hf⟩ := exists_fails he
      exact ⟨_, _, _, _, .binding hi ho hd hs hf⟩
    · obtain ⟨hs, hd, -⟩ := bindAll_ok_iff.mp hb
      exact ⟨_, _, _, _, .complete hi hd hs⟩

theorem Course.instantiates (h : Course d resolve calls made fresh bound problem) :
    ∃ called, Instantiates resolve calls made fresh called := by
  cases h with
  | lookup _ hi _ => exact ⟨_, hi⟩
  | factory _ hi _ _ => exact ⟨_, hi⟩
  | binding hi _ _ _ _ => exact ⟨_, hi⟩
  | complete hi _ _ => exact ⟨_, hi⟩

/-- What a materialization logs at its end. -/
def closing (d : Definition) (made : List (String × String)) (bound : List Assignment) :
    Option ConfigurationError → List LogEntry
  | some _ => []
  | none => [.materialized d.name d.slots.length made.length bound.length]

/-- The course of a materialization decides how it ends and what it logs. -/
theorem Course.materialize (h : Course d resolve calls made fresh bound problem) :
    (∀ e, (d.materialize resolve calls).outcome = .error e ↔ problem = some e) ∧
      (d.materialize resolve calls).log =
        .materializing d.name :: stepEvents d made fresh bound ++ closing d made bound problem := by
  unfold stepEvents
  cases h with
  | @lookup _ after slot id _ _ hp hi hr =>
    have hall := instantiateAll_append ((slot, id) :: after) hi
    rw [← hp, instantiateAll_cons_of_none hr] at hall
    simp only [Definition.materialize, hall, Except.map]
    exact ⟨by simp, by simp [closing, Definition.freeze]⟩
  | @factory _ after slot id _ _ _ _ hp hi hr hc =>
    have hall := instantiateAll_append ((slot, id) :: after) hi
    rw [← hp, instantiateAll_cons_of_error hr hc] at hall
    simp only [Definition.materialize, hall, Except.map]
    exact ⟨by simp, by simp [closing, Definition.freeze]⟩
  | @binding _ _ left _ _ after a _ hi ho hd hs hf =>
    have hbind : bindAll (bound ++ a :: after) fresh = ⟨left, bound.map (applied fresh), .error _⟩ :=
      bindAll_of_fails hs hd hf
    rw [← ho] at hbind
    simp only [Definition.materialize, instantiateAll_of_instantiates hi, hbind]
    exact ⟨by simp, by simp [closing, Definition.freeze]⟩
  | @complete _ reached _ hi hd hs =>
    have hbind := bindAll_ok_iff.mpr ⟨hs, hd, rfl⟩
    have hlength : reached.length = d.slots.size := by
      rw [← hs.length_eq, hi.length_eq, Slots.length_pairs]
    have hsize : (d.slots.refill reached).size = d.slots.pairs.length := by
      rw [← Slots.length_pairs, ← List.length_map (·.2), Slots.members_refill _ _ hlength, hlength,
        Slots.length_pairs]
    simp only [Definition.materialize, instantiateAll_of_instantiates hi, hbind]
    exact ⟨by simp, by simp [closing, Definition.freeze, Configuration.size, hsize]⟩

end Course

/-! ### Events -/

section Events

variable {log : List LogEntry} {title form : String} {made : List (String × String)}
  {fresh : List Object} {bound : List Assignment} {entry : LogEntry}

/-- Entries of one title are counted all or not at all. -/
theorem countP_titled (h : ∀ entry ∈ log, entry.title = form) :
    log.countP (·.titled title) = if form = title then log.length else 0 := by
  split
  · next heq =>
    rw [List.countP_eq_length]
    intro entry hentry
    rw [LogEntry.titled, h entry hentry, heq, beq_self_eq_true]
  · next hne =>
    rw [List.countP_eq_zero]
    intro entry hentry
    rw [LogEntry.titled, h entry hentry, beq_iff_eq]
    exact hne

theorem exists_madeEntry_of_mem (h : entry ∈ List.zipWith madeEntry made fresh) :
    ∃ p o, entry = madeEntry p o := by
  rw [← List.map_uncurry_zip_eq_zipWith] at h
  obtain ⟨⟨p, o⟩, -, rfl⟩ := List.mem_map.mp h
  exact ⟨p, o, rfl⟩

theorem exists_applied_of_mem (h : entry ∈ bound.map (applied fresh)) :
    ∃ a, entry = applied fresh a := by
  obtain ⟨a, -, rfl⟩ := List.mem_map.mp h
  exact ⟨a, rfl⟩

/-- No event of a step is a span. -/
theorem events_stepEvents (d : Definition) :
    events (stepEvents d made fresh bound) = stepEvents d made fresh bound := by
  rw [events, List.filter_eq_self]
  simp only [stepEvents, List.mem_append]
  rintro entry ((h | h) | h)
  · split at h
    · cases h
    · rw [List.mem_singleton.mp h]
      rfl
  · obtain ⟨p, o, rfl⟩ := exists_madeEntry_of_mem h
    rfl
  · obtain ⟨a, rfl⟩ := exists_applied_of_mem h
    rfl

/-- The events of the steps count the objects and the entries. -/
theorem countP_stepEvents (d : Definition) (bound : List Assignment)
    (hlength : fresh.length = made.length) :
    (stepEvents d made fresh bound).countP (·.titled "object instantiated") = made.length ∧
      (stepEvents d made fresh bound).countP (·.titled "option applied") = bound.length := by
  have hfrozen : ∀ entry ∈ (if d.frozen then [] else [LogEntry.frozen d.name]),
      entry.title = "configuration frozen" := by
    intro entry h
    split at h
    · cases h
    · rw [List.mem_singleton.mp h]
      rfl
  have hmade : ∀ entry ∈ List.zipWith madeEntry made fresh, entry.title = "object instantiated" := by
    intro entry h
    obtain ⟨p, o, rfl⟩ := exists_madeEntry_of_mem h
    rfl
  have happlied : ∀ entry ∈ bound.map (applied fresh), entry.title = "option applied" := by
    intro entry h
    obtain ⟨a, rfl⟩ := exists_applied_of_mem h
    rfl
  simp only [stepEvents, List.countP_append, countP_titled hfrozen, countP_titled hmade,
    countP_titled happlied]
  simp [hlength]

theorem events_closing (d : Definition) (problem : Option ConfigurationError) :
    events (closing d made bound problem) = closing d made bound problem := by
  cases problem <;> rfl

end Events

/-- **A materialization logs the steps that it has done.**  Its events are that the definition is
frozen, iff it was not; for each object that has been made its slot, the identifier as the definition
has it, and its type; for each entry that has been bound the number of objects that declare its option;
and, iff nothing has failed, how many slots, objects and bound entries there are.  The step at which it
fails has no event, even if it is an entry that some objects have taken. -/
theorem materialize_logs_steps (d : Definition) (resolve : Resolver) (calls : Calls) :
    let m := d.materialize resolve calls
    ∃ made fresh bound problem, Course d resolve calls made fresh bound problem ∧
      (∀ e, m.outcome = .error e ↔ problem = some e) ∧
      events m.log = stepEvents d made fresh bound ++
        if problem.isSome then [] else
          [.materialized d.name d.slots.length
            ((events m.log).countP (·.titled "object instantiated"))
            ((events m.log).countP (·.titled "option applied"))] := by
  intro m
  obtain ⟨made, fresh, bound, problem, h⟩ := exists_course d resolve calls
  obtain ⟨houtcome, hlog⟩ := h.materialize
  refine ⟨made, fresh, bound, problem, h, houtcome, ?_⟩
  have hevents : events m.log = stepEvents d made fresh bound ++ closing d made bound problem := by
    calc events m.log
        = events (stepEvents d made fresh bound ++ closing d made bound problem) := by
          rw [hlog]
          rfl
      _ = _ := by
          rw [events, List.filter_append, ← events, ← events, events_stepEvents, events_closing]
  cases problem with
  | some e => exact hevents
  | none =>
    obtain ⟨called, hi⟩ := h.instantiates
    obtain ⟨hobjects, hoptions⟩ := countP_stepEvents d bound hi.length_eq
    rw [hevents, List.countP_append, List.countP_append, hobjects, hoptions]
    rfl

end ObjectAssembly
