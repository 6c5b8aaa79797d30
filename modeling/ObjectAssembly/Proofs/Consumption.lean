import ObjectAssembly.Materialize
import ObjectAssembly.Usage
import Mathlib.Data.List.Basic

/-!
# Consumption — a definition replays its edits until it is consumed

An operation edits a definition or consumes it; a consumption renders or prints the usage text, or
materializes the definition.  Whatever operations a definition has been through, it is what the edits
before the first consumption make of an empty one, and it is frozen iff it has been consumed.  Reading
a definition is looking at it between two operations.
-/

namespace ObjectAssembly

/-! ### Appends, regrouped -/

namespace Slots

variable {α : Type}

/-- The table of a list of appended members: slots in the order of their first append, each with the
members that were appended to it, in order. -/
def ofAppends (appends : List (String × α)) : Slots α :=
  (appends.map (·.1)).eraseDups.map fun slot =>
    (slot, (appends.filter (·.1 == slot)).map (·.2))

/-- Appends members one after another. -/
def appendAll (s : Slots α) (appends : List (String × α)) : Slots α :=
  appends.foldl (fun s p => s.append p.1 p.2) s

/-- The first slot takes the members that are appended to it, and the other slots the rest. -/
theorem appendAll_cons (slot : String) (xs : List α) (rest : Slots α)
    (appends : List (String × α)) :
    appendAll ((slot, xs) :: rest) appends =
      (slot, xs ++ (appends.filter (·.1 == slot)).map (·.2)) ::
        appendAll rest (appends.filter fun p => !p.1 == slot) := by
  induction appends generalizing xs rest with
  | nil => simp [appendAll]
  | cons p appends ih =>
    show appendAll (append p.1 p.2 ((slot, xs) :: rest)) appends = _
    by_cases hp : slot = p.1
    · rw [append, if_pos hp, ih]
      simp [← hp]
    · have hp' : ¬ p.1 = slot := fun h => hp h.symm
      rw [append, if_neg hp, ih]
      simp [hp', appendAll]

/-- Appending to an empty table groups the members by slot. -/
theorem appendAll_nil : ∀ appends : List (String × α), appendAll [] appends = ofAppends appends
  | [] => rfl
  | (slot, x) :: rest => by
    have hlt : (rest.filter fun p => !p.1 == slot).length < ((slot, x) :: rest).length := by
      have := List.length_filter_le (fun p : String × α => !p.1 == slot) rest
      simp only [List.length_cons]
      omega
    have hrest := appendAll_nil (rest.filter fun p => !p.1 == slot)
    show appendAll [(slot, [x])] rest = _
    rw [appendAll_cons, hrest]
    unfold ofAppends
    rw [List.map_cons, List.eraseDups_cons, List.map_cons, List.filter_map]
    congr 1
    · simp
    · apply List.map_congr_left
      intro other hother
      -- the first append is to another slot
      have hne : ¬ slot = other := by
        rw [List.mem_eraseDups, List.mem_map] at hother
        obtain ⟨p, hp, rfl⟩ := hother
        have hp' := (List.mem_filter.mp hp).2
        rintro rfl
        simp at hp'
      have hsame : (rest.filter fun p => !p.1 == slot).filter (·.1 == other) =
          rest.filter (·.1 == other) := by
        rw [List.filter_filter]
        apply List.filter_congr
        intro p _
        by_cases hp : p.1 = other <;> simp [hp, Ne.symm hne]
      rw [hsame, List.filter_cons_of_neg (by simpa using hne)]
termination_by appends => appends.length
decreasing_by exact hlt

/-- A slot is there because something has been appended to it. -/
theorem ne_nil_of_mem_ofAppends {appends : List (String × α)} {p : String × List α}
    (h : p ∈ ofAppends appends) : p.2 ≠ [] := by
  obtain ⟨slot, hslot, rfl⟩ := List.mem_map.mp h
  rw [List.mem_eraseDups, List.mem_map] at hslot
  obtain ⟨q, hq, rfl⟩ := hslot
  have hmem : q.2 ∈ (appends.filter (·.1 == q.1)).map (·.2) :=
    List.mem_map_of_mem (List.mem_filter.mpr ⟨hq, beq_self_eq_true _⟩)
  exact List.ne_nil_of_mem hmem

end Slots

/-! ### Edits in a row -/

namespace Edit

/-- The description that an edit sets. -/
def text? : Edit → Option String
  | .describe text => some text
  | _ => none

/-- The slot and the identifier that an edit appends. -/
def append? : Edit → Option (String × String)
  | .addObject slot id => some (slot, id)
  | _ => none

/-- The assignment that an edit appends. -/
def assignment? : Edit → Option Assignment
  | .addOption a => some a
  | _ => none

end Edit

namespace Definition

variable {d : Definition} {edits : List Edit}

/-- What edits make of a definition that is not frozen. -/
def applyAll (d : Definition) (edits : List Edit) : Definition := edits.foldl apply d

/-- The definition that edits make of an empty one: the last description, the appended members grouped
by slot, and all assignments. -/
def ofEdits (name : String) (edits : List Edit) : Definition where
  name := name
  description := (edits.filterMap Edit.text?).getLast?.getD ""
  slots := .ofAppends (edits.filterMap Edit.append?)
  options := edits.filterMap Edit.assignment?
  frozen := false

theorem applyAll_eq (d : Definition) (edits : List Edit) :
    d.applyAll edits =
      { d with
        description := (edits.filterMap Edit.text?).getLast?.getD d.description
        slots := d.slots.appendAll (edits.filterMap Edit.append?)
        options := d.options ++ edits.filterMap Edit.assignment? } := by
  induction edits generalizing d with
  | nil => simp [applyAll, Slots.appendAll]
  | cons e edits ih =>
    show (d.apply e).applyAll edits = _
    rw [ih]
    simp only [List.filterMap_cons]
    cases e with
    | describe text => simp [apply, Edit.text?, Edit.append?, Edit.assignment?, List.getLast?_cons]
    | addObject slot id => simp [apply, Edit.text?, Edit.append?, Edit.assignment?, Slots.appendAll]
    | addOption a => simp [apply, Edit.text?, Edit.append?, Edit.assignment?]

theorem applyAll_new (name : String) (edits : List Edit) :
    (new name).applyAll edits = ofEdits name edits := by
  rw [applyAll_eq]
  simp [new, ofEdits, Slots.appendAll_nil]

end Definition

/-! ### Operations -/

/-- What is done with a definition. -/
inductive Operation
  | edit (e : Edit)
  | usage (resolve : Resolver)
  | printUsage (resolve : Resolver) (out : Sink)
  | materialize (resolve : Resolver) (calls : Calls)

/-- What an operation leaves behind: the definition, the log, and whether it has failed. -/
structure Response where
  definition : Definition
  log : List LogEntry
  outcome : Except ConfigurationError Unit

namespace Operation

/-- The operation consumes the definition. -/
def consumes : Operation → Bool
  | .edit _ => false
  | _ => true

/-- The edits before the first consumption. -/
def editsBefore : List Operation → List Edit
  | .edit e :: rest => e :: editsBefore rest
  | _ => []

end Operation

namespace Definition

/-- Does something with a definition. -/
def perform (d : Definition) : Operation → Response
  | .edit e =>
    match d.edit e with
    | .error err => ⟨d, [], .error err⟩
    | .ok d' => ⟨d', [], .ok ()⟩
  | .usage resolve =>
    let u := d.usage resolve
    ⟨u.definition, u.log, u.outcome.map fun _ => ()⟩
  | .printUsage resolve out =>
    let (u, _, outcome) := d.printUsage resolve out
    ⟨u.definition, u.log, outcome⟩
  | .materialize resolve calls =>
    let m := d.materialize resolve calls
    ⟨m.definition, m.log, m.outcome.map fun _ => ()⟩

/-- The definition after operations. -/
def after (d : Definition) (ops : List Operation) : Definition :=
  ops.foldl (fun d op => (d.perform op).definition) d

end Definition

/-- The entry says that a definition has been frozen. -/
def LogEntry.isFreezing : LogEntry → Bool
  | .frozen _ => true
  | _ => false

/-! ### One operation -/

section Step

variable {d : Definition} {e : Edit} {op : Operation}

theorem Definition.perform_edit_of_frozen (h : d.frozen = true) :
    d.perform (.edit e) = ⟨d, [], .error (.frozen d.name)⟩ := by
  simp [Definition.perform, Definition.edit, h]

theorem Definition.perform_edit_of_not_frozen (h : d.frozen = false) :
    d.perform (.edit e) = ⟨d.apply e, [], .ok ()⟩ := by
  simp [Definition.perform, Definition.edit, h]

theorem Definition.materialize_definition (resolve : Resolver) (calls : Calls) :
    (d.materialize resolve calls).definition = { d with frozen := true } := by
  unfold Definition.materialize
  dsimp only [Definition.freeze]
  split
  · rfl
  · split <;> rfl

theorem Definition.printUsage_usage (resolve : Resolver) (out : Sink) :
    (d.printUsage resolve out).1 = d.usage resolve := by
  unfold Definition.printUsage
  dsimp only
  split <;> rfl

/-- A consumption freezes the definition and changes nothing else, whether it fails or not. -/
theorem Definition.perform_consume (h : op.consumes = true) :
    (d.perform op).definition = { d with frozen := true } := by
  cases op with
  | edit e => cases h
  | usage resolve => rfl
  | printUsage resolve out => exact congrArg Usage.definition (printUsage_usage resolve out)
  | materialize resolve calls => exact materialize_definition resolve calls

/-! ### The log of one operation -/

theorem not_isFreezing_of_mem_instantiateAll {resolve : Resolver} {entry : LogEntry} :
    ∀ {calls : Calls} {pairs : List (String × String)},
      entry ∈ (instantiateAll resolve calls pairs).log → entry.isFreezing = false
  | calls, [], h => by cases h
  | calls, (slot, id) :: rest, h => by
    unfold instantiateAll at h
    cases hr : resolve id with
    | none => simp [hr] at h
    | some t =>
      cases hi : t.instantiate calls with
      | error e => simp [hr, hi] at h
      | ok o =>
        simp only [hr, hi, List.mem_cons] at h
        rcases h with rfl | h
        · rfl
        · exact not_isFreezing_of_mem_instantiateAll h

theorem not_isFreezing_of_mem_bindAll {entry : LogEntry} {log : List Assignment}
    {targets : List Object} (h : entry ∈ (bindAll log targets).log) : entry.isFreezing = false := by
  have hone : ∀ a targets', entry ∈ (bindOne a targets').log → entry.isFreezing = false := by
    intro a targets' ha
    unfold bindOne at ha
    split at ha
    · cases ha
    · cases ha
    · rw [List.mem_singleton.mp ha]
      rfl
  induction log generalizing targets with
  | nil => cases h
  | cons a log ih =>
    rw [bindAll] at h
    have ha := hone a targets
    rcases hb : bindOne a targets with ⟨targets', entries, err | n⟩
    · rw [hb] at h ha
      exact ha h
    · rw [hb] at h ha
      rcases List.mem_append.mp h with h | h
      · exact ha h
      · exact ih h

/-- What a materialization logs of freezing the definition, and besides. -/
theorem Definition.materialize_log (d : Definition) (resolve : Resolver) (calls : Calls) :
    ∃ rest, (d.materialize resolve calls).log = .materializing d.name :: d.freeze.2 ++ rest ∧
      ∀ entry ∈ rest, entry.isFreezing = false := by
  have hmade := fun entry => @not_isFreezing_of_mem_instantiateAll resolve entry calls d.slots.pairs
  unfold Definition.materialize
  cases hm : (instantiateAll resolve calls d.slots.pairs).outcome with
  | error e =>
    simp only [hm]
    exact ⟨_, rfl, hmade⟩
  | ok objects =>
    have hbound := fun entry => @not_isFreezing_of_mem_bindAll entry d.options objects
    simp only [hm]
    rcases hb : bindAll d.options objects with ⟨bound, log, e | ⟨⟩⟩
    · rw [hb] at hbound
      refine ⟨(instantiateAll resolve calls d.slots.pairs).log ++ log, by simp, ?_⟩
      exact List.forall_mem_append.mpr ⟨hmade, hbound⟩
    · rw [hb] at hbound
      refine ⟨(instantiateAll resolve calls d.slots.pairs).log ++ log ++ [_], by simp; rfl, ?_⟩
      refine List.forall_mem_append.mpr ⟨List.forall_mem_append.mpr ⟨hmade, hbound⟩, ?_⟩
      rintro entry hentry
      rw [List.mem_singleton.mp hentry]
      rfl

/-- The freezing of a definition is logged when it is consumed for the first time. -/
theorem Definition.filter_log_perform (d : Definition) (op : Operation) :
    (d.perform op).log.filter (·.isFreezing) =
      if op.consumes && !d.frozen then [.frozen d.name] else [] := by
  have hfreeze : d.freeze.2.filter (·.isFreezing) =
      if !d.frozen then [LogEntry.frozen d.name] else [] := by
    unfold Definition.freeze
    cases d.frozen <;> rfl
  have husage : ∀ resolve, (d.usage resolve).log.filter (·.isFreezing) =
      if !d.frozen then [LogEntry.frozen d.name] else [] := fun _ => hfreeze
  cases op with
  | edit e =>
    cases hd : d.frozen with
    | true => rw [perform_edit_of_frozen hd]; rfl
    | false => rw [perform_edit_of_not_frozen hd]; rfl
  | usage resolve => exact husage resolve
  | printUsage resolve out =>
    have hlog : (d.perform (.printUsage resolve out)).log = (d.usage resolve).log :=
      congrArg Usage.log (printUsage_usage resolve out)
    rw [hlog]
    exact husage resolve
  | materialize resolve calls =>
    obtain ⟨rest, hlog, hrest⟩ := d.materialize_log resolve calls
    have hnone : rest.filter (·.isFreezing) = [] := by
      rw [List.filter_eq_nil_iff]
      intro entry hentry
      rw [hrest entry hentry]
      exact Bool.false_ne_true
    show (d.materialize resolve calls).log.filter (·.isFreezing) = _
    rw [hlog, List.filter_append, hnone, List.append_nil]
    exact hfreeze

end Step

/-! ### Operations in a row -/

section Run

variable {d : Definition} {ops : List Operation}

/-- A frozen definition stays as it is. -/
theorem Definition.after_of_frozen (h : d.frozen = true) : d.after ops = d := by
  induction ops with
  | nil => rfl
  | cons op ops ih =>
    have hop : (d.perform op).definition = d := by
      cases op with
      | edit e => rw [perform_edit_of_frozen h]
      | _ =>
        rw [perform_consume rfl, ← h]
    show (d.perform op).definition.after ops = d
    rw [hop, ih]

/-- A definition is what the edits before its first consumption make of it. -/
theorem Definition.after_of_not_frozen (h : d.frozen = false) :
    d.after ops =
      { d.applyAll (Operation.editsBefore ops) with frozen := ops.any (·.consumes) } := by
  induction ops generalizing d with
  | nil => rw [List.any_nil, ← h]; rfl
  | cons op ops ih =>
    show (d.perform op).definition.after ops = _
    by_cases hop : op.consumes = true
    · rw [perform_consume hop, after_of_frozen rfl]
      cases op with
      | edit e => cases hop
      | _ => rfl
    · cases op with
      | edit e =>
        rw [perform_edit_of_not_frozen h, ih ((apply_frozen d e).trans h)]
        rfl
      | _ => exact absurd rfl hop

/-- **A definition replays the edits before its first consumption.**  After any operations, failed ones
included, it is frozen iff it has been consumed; its name is the one that it was made with; and it has
the last description, the slots in the order of their first append, each with the members appended to
it, and all assignments.  The next operation logs a freezing iff it is the first consumption, and an
edit succeeds iff there has been none. -/
theorem definition_replays_edits (name : String) (ops : List Operation) (op : Operation) :
    let d := (Definition.new name).after ops
    let consumed := ops.any (·.consumes)
    let edits := Operation.editsBefore ops
    d = { Definition.ofEdits name edits with frozen := consumed } ∧
      (∀ slot ∈ d.slots, slot.2 ≠ []) ∧
      (d.perform op).log.filter (·.isFreezing) =
        (if op.consumes && !consumed then [.frozen name] else []) ∧
      ∀ e, d.perform (.edit e) =
        if consumed then ⟨d, [], .error (.frozen name)⟩ else ⟨d.apply e, [], .ok ()⟩ := by
  intro d consumed edits
  have hd : d = { Definition.ofEdits name edits with frozen := consumed } := by
    rw [← Definition.applyAll_new]
    exact Definition.after_of_not_frozen rfl
  have hname : d.name = name := by rw [hd]; rfl
  have hfrozen : d.frozen = consumed := by rw [hd]
  refine ⟨hd, ?_, ?_, ?_⟩
  · rw [hd]
    exact fun slot => Slots.ne_nil_of_mem_ofAppends
  · rw [Definition.filter_log_perform, hname, hfrozen]
  · intro e
    by_cases hc : consumed = true
    · rw [if_pos hc, Definition.perform_edit_of_frozen (hfrozen.trans hc), hname]
    · rw [if_neg hc]
      exact Definition.perform_edit_of_not_frozen (hfrozen.trans (Bool.not_eq_true _ ▸ hc))

end Run

end ObjectAssembly
