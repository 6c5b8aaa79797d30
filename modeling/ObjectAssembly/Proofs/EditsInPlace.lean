import ObjectAssembly.Proofs.Copying
import ObjectAssembly.Proofs.FailedBinding

/-!
# EditsInPlace — an edit of a configuration reaches the object that the lookup finds

The lookup of an object and the search of an edit go through a slot on their own ways, and they meet at
the same object: the first one of the type.  So an edit changes this object and no other, and however
many edits a configuration has been through, its name, its slots, their sizes and the classes of their
members are what they were.
-/

namespace ObjectAssembly

/-! ### Tables of slots -/

namespace Slots

variable {α : Type} {s : Slots α} {slot other : String} {f : List α → List α}

theorem members_cons (p : String × List α) (rest : Slots α) (slot : String) :
    members (p :: rest) slot = if p.1 = slot then p.2 else members rest slot := by
  unfold members
  by_cases hp : p.1 = slot <;> simp [hp]

/-- The changed slot has the changed members. -/
theorem members_modify_self (hf : f [] = []) :
    (s.modify slot f).members slot = f (s.members slot) := by
  induction s with
  | nil => exact hf.symm
  | cons p rest ih =>
    rw [modify, members_cons]
    by_cases hp : p.1 = slot
    · rw [if_pos hp, if_pos hp, members_cons, if_pos hp]
    · rw [if_neg hp, if_neg hp, members_cons, if_neg hp, ih]

/-- The other slots have the members that they had. -/
theorem members_modify_of_ne (h : other ≠ slot) :
    (s.modify slot f).members other = s.members other := by
  induction s with
  | nil => rfl
  | cons p rest ih =>
    rw [modify, members_cons]
    by_cases hp : p.1 = slot
    · have hother : ¬ p.1 = other := fun heq => h (heq.symm.trans hp)
      rw [if_pos hp, members_cons, if_neg hother, if_neg hother]
    · rw [if_neg hp, members_cons, ih]

theorem modify_eq_self (h : f (s.members slot) = s.members slot) : s.modify slot f = s := by
  induction s with
  | nil => rfl
  | cons p rest ih =>
    rw [members_cons] at h
    rw [modify]
    by_cases hp : p.1 = slot
    · rw [if_pos hp] at h ⊢
      rw [h]
    · rw [if_neg hp] at h ⊢
      rw [ih h]

/-- What can be told of the members of a slot alone is the same if it is the same of all members. -/
theorem map_modify {β : Type} (g : List α → β) (h : ∀ xs, g (f xs) = g xs) :
    ((s.modify slot f).map fun p => (p.1, g p.2)) = s.map fun p => (p.1, g p.2) := by
  induction s with
  | nil => rfl
  | cons p rest ih =>
    rw [modify]
    split
    · simp only [List.map_cons, h]
    · simp only [List.map_cons, ih]

/-- What stands under a name are its members, if the name is there once. -/
theorem members_of_mem (h : s.names.Nodup) {p : String × List α} (hp : p ∈ s) :
    s.members p.1 = p.2 := by
  have hn : (s.map (·.1)).Nodup := h
  rw [members, find?_of_nodup hn hp]
  rfl

/-- The names and their members are all there is in a table. -/
theorem map_names_members (h : s.names.Nodup) :
    (s.names.map fun slot => (slot, s.members slot)) = s := by
  rw [names, List.map_map]
  refine (List.map_congr_left fun p hp => ?_).trans (List.map_id s)
  show (p.1, s.members p.1) = p
  rw [members_of_mem h hp]

/-- Going through all members is going through those of each name. -/
theorem pairs_eq_flatMap (h : s.names.Nodup) :
    s.pairs = s.names.flatMap fun slot => (s.members slot).map (slot, ·) := by
  have hmembers := map_names_members h
  calc s.pairs
      = pairs (s.names.map fun slot => (slot, s.members slot)) := by rw [hmembers]
    _ = s.names.flatMap fun slot => (s.members slot).map (slot, ·) := List.flatMap_map ..

end Slots

/-! ### The first object of a type -/

namespace Configuration

variable {c : Configuration} {slot other typeName : String} {f : Object → Object} {o : Object}
  {objects front back : List Object}

theorem modifyFirst_append (hfront : ∀ x ∈ front, x.typeName ≠ typeName) (ho : o.typeName = typeName) :
    modifyFirst typeName f (front ++ o :: back) = front ++ f o :: back := by
  induction front with
  | nil => rw [List.nil_append, modifyFirst, if_pos ho, List.nil_append]
  | cons x front ih =>
    obtain ⟨hx, hfront⟩ := List.forall_mem_cons.mp hfront
    rw [List.cons_append, modifyFirst, if_neg hx, ih hfront, List.cons_append]

theorem modifyFirst_of_forall_ne (h : ∀ x ∈ objects, x.typeName ≠ typeName) :
    modifyFirst typeName f objects = objects := by
  induction objects with
  | nil => rfl
  | cons x rest ih =>
    obtain ⟨hx, hrest⟩ := List.forall_mem_cons.mp h
    rw [modifyFirst, if_neg hx, ih hrest]

theorem map_cls_modifyFirst (hf : ∀ x, (f x).cls = x.cls) (objects : List Object) :
    (modifyFirst typeName f objects).map (·.cls) = objects.map (·.cls) := by
  induction objects with
  | nil => rfl
  | cons x rest ih =>
    rw [modifyFirst]
    split
    · rw [List.map_cons, List.map_cons, hf]
    · rw [List.map_cons, List.map_cons, ih]

theorem get?_eq_none_iff :
    c.get? slot typeName = none ↔ ∀ x ∈ c.objects slot, x.typeName ≠ typeName := by
  simp [get?]

theorem get?_eq_some_iff :
    c.get? slot typeName = some o ↔ ∃ front back, c.objects slot = front ++ o :: back ∧
      (∀ x ∈ front, x.typeName ≠ typeName) ∧ o.typeName = typeName := by
  rw [get?, List.find?_eq_some_iff_append, beq_iff_eq]
  constructor
  · rintro ⟨ho, front, back, hsplit, hfront⟩
    exact ⟨front, back, hsplit, fun x hx => by simpa using hfront x hx, ho⟩
  · rintro ⟨front, back, hsplit, hfront, ho⟩
    exact ⟨ho, front, back, hsplit, fun x hx => by simpa using hfront x hx⟩

end Configuration

/-! ### One edit -/

namespace Configuration

variable {c : Configuration} {slot other typeName name raw : String} {f : Object → Object}

/-- The configuration with the first object of a type in a slot changed. -/
def modify (c : Configuration) (slot typeName : String) (f : Object → Object) : Configuration :=
  { c with slots := c.slots.modify slot (modifyFirst typeName f) }

/-- The names of the slots, with the classes of their members in order. -/
def layout (c : Configuration) : List (String × List ObjectClass) :=
  c.slots.map fun p => (p.1, p.2.map (·.cls))

/-- The second configuration is the first one with `f` done to the object that the lookup finds, which
is the first one of the type, and with nothing else changed. -/
structure ChangesFound (c c' : Configuration) (slot typeName : String) (f : Object → Object) :
    Prop where
  absent : c.get? slot typeName = none → c' = c
  found : ∀ o, c.get? slot typeName = some o → ∃ front back, c.objects slot = front ++ o :: back ∧
    (∀ x ∈ front, x.typeName ≠ typeName) ∧ o.typeName = typeName ∧
    c'.objects slot = front ++ f o :: back
  others : ∀ other, other ≠ slot → c'.objects other = c.objects other

theorem modify_of_get?_eq_none (h : c.get? slot typeName = none) : c.modify slot typeName f = c := by
  have hsame : modifyFirst typeName f (c.slots.members slot) = c.slots.members slot :=
    modifyFirst_of_forall_ne (get?_eq_none_iff.mp h)
  rw [modify, Slots.modify_eq_self hsame]

/-- The search for a change and the lookup find the same object. -/
theorem modify_changesFound (c : Configuration) (slot typeName : String) (f : Object → Object) :
    ChangesFound c (c.modify slot typeName f) slot typeName f where
  absent := modify_of_get?_eq_none
  found o h := by
    obtain ⟨front, back, hsplit, hfront, ho⟩ := get?_eq_some_iff.mp h
    refine ⟨front, back, hsplit, hfront, ho, ?_⟩
    have hself : (c.modify slot typeName f).objects slot = modifyFirst typeName f (c.objects slot) :=
      Slots.members_modify_self rfl
    rw [hself, hsplit, modifyFirst_append hfront ho]
  others other h := Slots.members_modify_of_ne h

/-- Assigning to an option is a change of the first object of the type, if there is one. -/
theorem setOption_eq (c : Configuration) (slot typeName name raw : String) :
    c.setOption slot typeName name raw =
      (c.modify slot typeName fun o => (o.setOption name raw).1,
        (c.get? slot typeName).map fun o => (o.setOption name raw).2) := by
  unfold setOption
  cases h : c.get? slot typeName with
  | none =>
    rw [modify_of_get?_eq_none h]
    rfl
  | some o => rfl

/-- A change that keeps the classes of objects keeps the layout. -/
theorem layout_modify (hf : ∀ x, (f x).cls = x.cls) : (c.modify slot typeName f).layout = c.layout :=
  Slots.map_modify (List.map Object.cls) (map_cls_modifyFirst hf)

end Configuration

/-! ### Edits in a row -/

/-- An edit: where the object is looked up, and the assignment to it. -/
structure InPlaceEdit where
  slot : String
  typeName : String
  assignment : Assignment

namespace InPlaceEdit

/-- What the edit does to the object that it reaches. -/
def change (e : InPlaceEdit) (o : Object) : Object :=
  (o.setOption e.assignment.name e.assignment.value).1

/-- How that object answers. -/
def answer (e : InPlaceEdit) (o : Object) : Except String Bool :=
  (o.setOption e.assignment.name e.assignment.value).2

end InPlaceEdit

namespace Configuration

/-- The configuration after an edit, and the answer to it. -/
def edit (c : Configuration) (e : InPlaceEdit) : Configuration × Option (Except String Bool) :=
  c.setOption e.slot e.typeName e.assignment.name e.assignment.value

/-- The configuration after edits, whatever the answers to them. -/
def afterEdits (c : Configuration) (edits : List InPlaceEdit) : Configuration :=
  edits.foldl (fun c e => (c.edit e).1) c

variable {c : Configuration}

theorem edit_eq (c : Configuration) (e : InPlaceEdit) :
    c.edit e = (c.modify e.slot e.typeName e.change, (c.get? e.slot e.typeName).map e.answer) :=
  setOption_eq ..

theorem edit_keeps (c : Configuration) (e : InPlaceEdit) :
    (c.edit e).1.name = c.name ∧ (c.edit e).1.layout = c.layout := by
  rw [edit_eq]
  exact ⟨rfl, layout_modify fun o => o.setOption_cls _ _⟩

theorem afterEdits_keeps (c : Configuration) (edits : List InPlaceEdit) :
    (c.afterEdits edits).name = c.name ∧ (c.afterEdits edits).layout = c.layout := by
  induction edits generalizing c with
  | nil => exact ⟨rfl, rfl⟩
  | cons e edits ih =>
    obtain ⟨hname, hlayout⟩ := ih (c.edit e).1
    exact ⟨hname.trans (c.edit_keeps e).1, hlayout.trans (c.edit_keeps e).2⟩

/-- The layout tells the names of the slots. -/
theorem names_eq_of_layout {c c' : Configuration} (h : c'.layout = c.layout) :
    c'.slots.names = c.slots.names := by
  have hnames : c'.layout.map (·.1) = c.layout.map (·.1) := by rw [h]
  simpa [layout, Slots.names, Function.comp_def] using hnames

end Configuration

/-- Whatever its definition has been through, a configuration has each slot once. -/
theorem nodup_names_of_materialize {name : String} {ops : List Operation} {resolve : Resolver}
    {calls : Calls} {c : Configuration}
    (h : (((Definition.new name).after ops).materialize resolve calls).outcome = .ok c) :
    c.slots.names.Nodup := by
  obtain ⟨-, hshape, -⟩ := replayed_of_materialize h
  have hnames : ∀ {α : Type} (s : Slots α), s.names = s.shape.map (·.1) := fun s => by
    simp [Slots.names, Slots.shape, Function.comp_def]
  rw [hnames, hshape, ← hnames]
  exact (Definition.grouped_after_new name ops).nodup

/-- **An edit reaches the object that the lookup finds.**  However many options of its objects have
been assigned to, a configuration has its name, its slots, their sizes and the classes of all objects.
The lookup finds the first of the objects of a type in a slot; a change of the first one is a change of
the object that is found and of no other, and so is an edit, which that object answers.  The objects,
one after another or by slots, are those that each slot shows. -/
theorem edits_reach_found {c : Configuration} (hc : c.slots.names.Nodup) (edits : List InPlaceEdit) :
    let c' := c.afterEdits edits
    (c'.name = c.name ∧ c'.layout = c.layout) ∧
    (∀ slot typeName,
      c'.getAll slot typeName = (c'.objects slot).filter (·.typeName == typeName) ∧
      c'.get? slot typeName = (c'.getAll slot typeName).head? ∧
      ∀ f, c'.ChangesFound (c'.modify slot typeName f) slot typeName f) ∧
    (∀ e, c'.ChangesFound (c'.edit e).1 e.slot e.typeName e.change ∧
      (c'.edit e).2 = (c'.get? e.slot e.typeName).map e.answer) ∧
    (c'.toList = c'.slots.names.flatMap (fun slot => (c'.objects slot).map (slot, ·)) ∧
      c'.toList.length = c'.size) ∧
    c'.slots = c'.slots.names.map fun slot => (slot, c'.objects slot) := by
  intro c'
  obtain ⟨hname, hlayout⟩ := c.afterEdits_keeps edits
  have hnodup : c'.slots.names.Nodup := by rwa [Configuration.names_eq_of_layout hlayout]
  refine ⟨⟨hname, hlayout⟩, fun slot typeName => ⟨rfl, ?_, fun f => ?_⟩, fun e => ?_, ⟨?_, ?_⟩, ?_⟩
  · exact (List.head?_filter ..).symm
  · exact c'.modify_changesFound slot typeName f
  · rw [c'.edit_eq e]
    exact ⟨c'.modify_changesFound e.slot e.typeName e.change, rfl⟩
  · exact Slots.pairs_eq_flatMap hnodup
  · exact Slots.length_pairs c'.slots
  · exact (Slots.map_names_members hnodup).symm

section Sample

/-- Additions to two slots, with several identifiers of one type in the first. -/
def crowdAdditions : List Operation :=
  [("left", "Hasty"), ("left", "Recorder"), ("right", "Recorder"), ("left", "Recorder")].map
    fun p => .edit (.addObject p.1 p.2)

/-- The types of the crowd. -/
def crowdTypes : ObjectRegistry := ⟨[.ofClass "Hasty" hasty, .ofClass "Recorder" recorder]⟩

def crowd : Configuration :=
  ⟨"crowd", [("left", [hasty.create, recorder.create, recorder.create]),
    ("right", [recorder.create])]⟩

/-- Edits that are accepted, refused, passed over, and without an object. -/
def crowdEdits : List InPlaceEdit :=
  [⟨"left", "Recorder", ⟨"level", "high"⟩⟩, ⟨"left", "Hasty", ⟨"level", "low"⟩⟩,
    ⟨"right", "Recorder", ⟨"color", "red"⟩⟩, ⟨"right", "Hasty", ⟨"level", "low"⟩⟩]

theorem edits_reach_found_crowd :
    (((Definition.new "crowd").after crowdAdditions).materialize crowdTypes.get? []).outcome =
        .ok crowd ∧
      crowd.slots.names.Nodup ∧
      (crowd.afterEdits crowdEdits).layout =
        [("left", [hasty, recorder, recorder]), ("right", [recorder])] ∧
      (crowd.afterEdits crowdEdits).slots =
        [("left", [⟨hasty, [("seen", .single (.text "low"))]⟩,
          ⟨recorder, [("level", .single (.text "high")), ("tags", .many [])]⟩, recorder.create]),
        ("right", [recorder.create])] ∧
      ∀ e, (crowd.afterEdits crowdEdits).ChangesFound ((crowd.afterEdits crowdEdits).edit e).1
        e.slot e.typeName e.change := by
  have hmade : (((Definition.new "crowd").after crowdAdditions).materialize crowdTypes.get?
      []).outcome = .ok crowd := by rfl
  have hnodup : crowd.slots.names.Nodup := nodup_names_of_materialize hmade
  obtain ⟨⟨-, hlayout⟩, -, hedit, -, -⟩ := edits_reach_found hnodup crowdEdits
  exact ⟨hmade, hnodup, hlayout, rfl, fun e => (hedit e).1⟩

end Sample

end ObjectAssembly
