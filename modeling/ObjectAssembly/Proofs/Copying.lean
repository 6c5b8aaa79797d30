import ObjectAssembly.Proofs.Consumption
import ObjectAssembly.Proofs.Materialization

/-!
# Copying — a copy with further assignments binds them last

A copy of a definition is built anew, slot by slot.  Since a definition has each slot once and none
empty, the copy has the same slots in the same order, and its log is that of the original with the
further assignments behind it.  So materializing the copy is materializing the original and then
binding the further assignments to the objects of the configuration.
-/

namespace ObjectAssembly

/-! ### Tables that are built by appending -/

namespace Slots

variable {α β : Type}

/-- Each slot is there once, and none is empty. -/
structure Grouped (s : Slots α) : Prop where
  nodup : s.names.Nodup
  filled : ∀ p ∈ s, p.2 ≠ []

theorem mem_names_append {slot name : String} {x : α} {s : Slots α} :
    name ∈ (append slot x s).names ↔ name = slot ∨ name ∈ s.names := by
  induction s with
  | nil => simp [append, names]
  | cons p rest ih =>
    unfold names at ih ⊢
    by_cases hp : p.1 = slot
    · simp [append, hp]
    · simp only [append, if_neg hp, List.map_cons, List.mem_cons, ih]
      tauto

theorem Grouped.append {s : Slots α} (h : s.Grouped) (slot : String) (x : α) :
    (append slot x s).Grouped := by
  induction s with
  | nil => exact ⟨by simp [Slots.append, names], by simp [Slots.append]⟩
  | cons p rest ih =>
    obtain ⟨hnodup, hfilled⟩ := h
    have hsplit : p.1 ∉ names rest ∧ (names rest).Nodup := List.nodup_cons.mp hnodup
    have hrest := ih ⟨hsplit.2, fun q hq => hfilled q (List.mem_cons_of_mem p hq)⟩
    by_cases hp : p.1 = slot
    · rw [Slots.append, if_pos hp]
      refine ⟨hnodup, List.forall_mem_cons.mpr ⟨?_, fun q hq => ?_⟩⟩
      · exact List.append_ne_nil_of_right_ne_nil _ (List.cons_ne_nil x [])
      · exact hfilled q (List.mem_cons_of_mem p hq)
    · rw [Slots.append, if_neg hp]
      refine ⟨List.nodup_cons.mpr ⟨?_, hrest.nodup⟩, List.forall_mem_cons.mpr ⟨?_, hrest.filled⟩⟩
      · intro hmem
        rcases mem_names_append.mp hmem with heq | hmem
        · exact hp heq
        · exact hsplit.1 hmem
      · exact hfilled p List.mem_cons_self

theorem Grouped.appendAll {s : Slots α} (h : s.Grouped) (appends : List (String × α)) :
    (appendAll s appends).Grouped := by
  induction appends generalizing s with
  | nil => exact h
  | cons p appends ih => exact ih (h.append p.1 p.2)

theorem mem_names_of_mem_pairs {s : Slots α} {p : String × α} (h : p ∈ s.pairs) : p.1 ∈ s.names := by
  obtain ⟨group, hgroup, hp⟩ := List.mem_flatMap.mp h
  obtain ⟨x, -, rfl⟩ := List.mem_map.mp hp
  exact List.mem_map_of_mem hgroup

/-- Appending the members of a table to an empty one, slot by slot, gives the table again. -/
theorem appendAll_pairs : ∀ {s : Slots α}, s.Grouped → appendAll [] s.pairs = s
  | [], _ => rfl
  | (slot, []) :: rest, h => absurd rfl (h.filled (slot, []) List.mem_cons_self)
  | (slot, x :: xs) :: rest, h => by
    have hsplit : slot ∉ names rest ∧ (names rest).Nodup := List.nodup_cons.mp h.nodup
    have hrest : Grouped rest := ⟨hsplit.2, fun q hq => h.filled q (List.mem_cons_of_mem _ hq)⟩
    -- the members of the other slots are not of this one
    have hother : ∀ p ∈ pairs rest, ¬ p.1 = slot := by
      intro p hp heq
      exact hsplit.1 (heq ▸ mem_names_of_mem_pairs hp)
    have hpairs : pairs ((slot, x :: xs) :: rest) =
        (slot, x) :: (xs.map (slot, ·) ++ pairs rest) := rfl
    have hmine : ((xs.map (slot, ·) ++ pairs rest).filter (·.1 == slot)).map (·.2) = xs := by
      have hnone : (pairs rest).filter (·.1 == slot) = [] := by
        rw [List.filter_eq_nil_iff]
        intro p hp
        rw [beq_iff_eq]
        exact hother p hp
      rw [List.filter_append, hnone, List.append_nil, List.filter_map]
      simp [Function.comp_def]
    have htheirs : (xs.map (slot, ·) ++ pairs rest).filter (fun p => !p.1 == slot) = pairs rest := by
      have hall : (pairs rest).filter (fun p => !p.1 == slot) = pairs rest := by
        rw [List.filter_eq_self]
        intro p hp
        simp [hother p hp]
      rw [List.filter_append, hall, List.filter_map]
      simp [Function.comp_def]
    rw [hpairs]
    show appendAll [(slot, [x])] _ = _
    rw [appendAll_cons, hmine, htheirs, appendAll_pairs hrest]
    rfl

/-- Filling a table again depends on its shape only. -/
theorem refill_congr {γ : Type} : ∀ {s : Slots α} {t : Slots β} (_ : s.shape = t.shape)
    (ys : List γ), s.refill ys = t.refill ys
  | [], [], _, _ => rfl
  | [], q :: t, h, _ => by cases h
  | p :: s, [], h, _ => by cases h
  | p :: s, q :: t, h, ys => by
    obtain ⟨hhead, htail⟩ := List.cons.inj h
    obtain ⟨hname, hsize⟩ := Prod.mk.inj hhead
    simp only [refill, hname, hsize, refill_congr htail]

end Slots

/-! ### The copy -/

namespace Definition

variable {d : Definition} {edits : List Edit}

/-- A definition that is not frozen takes all edits. -/
theorem editAll_of_not_frozen (h : d.frozen = false) : d.editAll edits = .ok (d.applyAll edits) := by
  induction edits generalizing d with
  | nil => rfl
  | cons e edits ih =>
    have hedit : d.edit e = .ok (d.apply e) := by
      unfold edit
      rw [h]
      rfl
    rw [editAll, hedit]
    exact ih ((apply_frozen d e).trans h)

/-- Whatever a definition has been through, it has each slot once and none empty. -/
theorem grouped_after_new (name : String) (ops : List Operation) :
    ((new name).after ops).slots.Grouped := by
  have hempty : (new name).slots.Grouped := ⟨List.nodup_nil, by simp [new]⟩
  rw [after_of_not_frozen rfl, applyAll_eq]
  exact hempty.appendAll _

theorem withAssignments_eq (h : d.slots.Grouped) (extra : List Assignment) :
    d.withAssignments extra = .ok { d with options := d.options ++ extra, frozen := false } := by
  have htext : (d.script ++ extra.map Edit.addOption).filterMap Edit.text? = [d.description] := by
    simp [script, Edit.text?, List.filterMap_map, Function.comp_def]
  have happend : (d.script ++ extra.map Edit.addOption).filterMap Edit.append? = d.slots.pairs := by
    simp [script, Edit.append?, List.filterMap_cons, List.filterMap_map, Function.comp_def]
  have hassign : (d.script ++ extra.map Edit.addOption).filterMap Edit.assignment? =
      d.options ++ extra := by
    simp [script, Edit.assignment?, List.filterMap_cons, List.filterMap_map, Function.comp_def]
  rw [withAssignments, editAll_of_not_frozen rfl, applyAll_eq, htext, happend, hassign]
  show Except.ok (Definition.mk d.name d.description (Slots.appendAll [] d.slots.pairs) _ false) = _
  rw [Slots.appendAll_pairs h]
  rfl

end Definition

/-! ### Binding to a configuration -/

/-- The configuration after assignments have been bound to its objects, slot by slot. -/
def Configuration.bindAll (c : Configuration) (log : List Assignment) :
    Except ConfigurationError Configuration :=
  match ObjectAssembly.bindAll log (c.toList.map (·.2)) with
  | ⟨_, _, .error e⟩ => .error (.ofBind e)
  | ⟨bound, _, .ok ()⟩ => .ok { c with slots := c.slots.refill bound }

/-! ### Factories that answer the same -/

/-- In two runs that instantiate these identifiers after different calls, the factories answer the
same. -/
def AnswerAlike (resolve : Resolver) : Calls → Calls → List (String × String) → Prop
  | _, _, [] => True
  | calls, calls', (_, id) :: rest =>
    ∀ t, resolve id = some t → t.instantiate calls = t.instantiate calls' ∧
      ∀ o, t.instantiate calls = .ok o →
        AnswerAlike resolve (t.record calls) (t.record calls') rest

/-- If the factories answer the same, the same objects are made or the same problem is met. -/
theorem AnswerAlike.outcome {resolve : Resolver} : ∀ {pairs : List (String × String)}
    {calls calls' : Calls}, AnswerAlike resolve calls calls' pairs →
    (instantiateAll resolve calls pairs).outcome = (instantiateAll resolve calls' pairs).outcome
  | [], _, _, _ => rfl
  | (slot, id) :: rest, calls, calls', h => by
    cases hr : resolve id with
    | none => rw [instantiateAll_cons_of_none hr, instantiateAll_cons_of_none hr]
    | some t =>
      obtain ⟨hsame, hrest⟩ := h t hr
      cases hi : t.instantiate calls with
      | error cause =>
        rw [hi] at hsame
        rw [instantiateAll_cons_of_error hr hi, instantiateAll_cons_of_error hr hsame.symm]
      | ok o =>
        have ih := (hrest o hi).outcome
        rw [hi] at hsame
        simp only [instantiateAll, hr, hi, ← hsame, ih]

/-! ### Materializing the copy -/

section Materialize

variable {d : Definition} {resolve : Resolver} {calls calls' : Calls}

/-- What a materialization makes of the fresh objects. -/
theorem Definition.materialize_outcome (d : Definition) (resolve : Resolver) (calls : Calls) :
    (d.materialize resolve calls).outcome =
      match (instantiateAll resolve calls d.slots.pairs).outcome with
      | .error e => .error e
      | .ok fresh =>
        match ObjectAssembly.bindAll d.options fresh with
        | ⟨_, _, .error e⟩ => .error (.ofBind e)
        | ⟨bound, _, .ok ()⟩ => .ok ⟨d.name, d.slots.refill bound⟩ := by
  cases hmade : (instantiateAll resolve calls d.slots.pairs).outcome with
  | error e => simp only [materialize, hmade]
  | ok fresh =>
    rcases hbound : ObjectAssembly.bindAll d.options fresh with ⟨bound, log, e | ⟨⟩⟩ <;>
      simp only [materialize, hmade, hbound]

/-- Further assignments in the log are bound to the objects of the configuration. -/
theorem materialize_of_more_options (extra : List Assignment) (frozen : Bool)
    (h : AnswerAlike resolve calls calls' d.slots.pairs) :
    (({ d with options := d.options ++ extra, frozen := frozen } : Definition).materialize resolve
        calls').outcome =
      (d.materialize resolve calls).outcome.bind fun c => c.bindAll extra := by
  rw [Definition.materialize_outcome, Definition.materialize_outcome, ← h.outcome]
  cases hmade : (instantiateAll resolve calls d.slots.pairs).outcome with
  | error e => rfl
  | ok fresh =>
    dsimp only
    rw [bindAll_append]
    rcases hbound : bindAll d.options fresh with ⟨bound, entries, e | ⟨⟩⟩
    · rfl
    · have hsize : bound.length = d.slots.size := by
        have hreplayed := (bindAll_ok_iff.mp hbound).1
        rw [← hreplayed.length_eq, (instantiates_of_instantiateAll hmade).length_eq,
          Slots.length_pairs]
      have hobjects : (Configuration.mk d.name (d.slots.refill bound)).toList.map (·.2) = bound :=
        Slots.members_refill d.slots bound hsize
      have hshape : (d.slots.refill bound).shape = d.slots.shape :=
        Slots.shape_refill d.slots bound hsize
      simp only [Except.bind, Configuration.bindAll, hobjects]
      rcases bindAll extra bound with ⟨last, entries', e | ⟨⟩⟩
      · rfl
      · simp only [Slots.refill_congr hshape]

/-- **A copy binds its assignments last.**  Whatever a definition has been through, it can be copied,
and the copy is not frozen and has its name, description and slots, and the further assignments at the
end of its log.  If the factories answer the same, materializing the copy is materializing the
definition and then binding the further assignments to the objects of the configuration.  Copying twice
is copying once with both lists of assignments. -/
theorem copy_binds_last (name : String) (ops : List Operation) (extra : List Assignment) :
    let d := (Definition.new name).after ops
    let copy : Definition := { d with options := d.options ++ extra, frozen := false }
    d.withAssignments extra = .ok copy ∧
      (∀ resolve calls calls', AnswerAlike resolve calls calls' d.slots.pairs →
        (copy.materialize resolve calls').outcome =
          (d.materialize resolve calls).outcome.bind fun c => c.bindAll extra) ∧
      ∀ more, copy.withAssignments more = d.withAssignments (extra ++ more) := by
  intro d copy
  have hgrouped : d.slots.Grouped := Definition.grouped_after_new name ops
  refine ⟨Definition.withAssignments_eq hgrouped extra, ?_, ?_⟩
  · intro resolve calls calls' h
    exact materialize_of_more_options extra false h
  · intro more
    have hcopy : copy.slots.Grouped := hgrouped
    rw [Definition.withAssignments_eq hcopy, Definition.withAssignments_eq hgrouped,
      ← List.append_assoc]

end Materialize

end ObjectAssembly
