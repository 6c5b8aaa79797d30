import ObjectAssembly.Demo
import ObjectAssembly.Proofs.EditsInPlace
import ObjectAssembly.Proofs.Lines

/-!
# Description — one line for each object, whatever the values

A value is shown between quotes, and each character of it by `quotedChar`, which has no line feed for
any character.  So neither a scalar nor a field nor a whole object can end the line on which it is
shown.  What is left to the author of a definition are its name and the names of its slots: if these
are lines, the description of what is materialized from it has a heading and one line for each object,
however the options of the objects are assigned to, before and after.
-/

namespace ObjectAssembly

open Text

/-! ### Shown values -/

section Digits

variable {base : Nat}

theorem digitChar_ne_lineFeed {n : Nat} (h : n < 16) : Nat.digitChar n ≠ '\n' := by
  have hall : ∀ k : Fin 16, Nat.digitChar k ≠ '\n' := by decide
  exact hall ⟨n, h⟩

/-- No number is written with a line feed. -/
theorem lineFeed_notMem_toDigits (hone : 1 < base) (hbase : base ≤ 16) (n : Nat) :
    '\n' ∉ Nat.toDigits base n := by
  induction n using Nat.strongRecOn with
  | ind n ih =>
    rw [Nat.toDigits_eq_if hone]
    by_cases hn : n < base
    · rw [if_pos hn, List.mem_singleton]
      exact (digitChar_ne_lineFeed (by omega)).symm
    · have hmod : n % base < base := Nat.mod_lt n (by omega)
      have hrest : '\n' ∉ Nat.toDigits base (n / base) := ih _ (Nat.div_lt_self (by omega) hone)
      rw [if_neg hn, List.mem_append, List.mem_singleton, not_or]
      exact ⟨hrest, (digitChar_ne_lineFeed (by omega)).symm⟩

theorem isLine_toString_nat (n : Nat) : IsLine (toString n) := by
  rw [IsLine, Nat.toString_eq_ofList_toDigits, String.toList_ofList]
  exact lineFeed_notMem_toDigits (by decide) (by decide) n

theorem isLine_toString_int (n : Int) : IsLine (toString n) := by
  cases n with
  | ofNat n => exact isLine_toString_nat n
  | negSucc n =>
    have hminus : IsLine "-" := by decide
    exact isLine_append.mpr ⟨hminus, isLine_toString_nat (n + 1)⟩

end Digits

/-- No character is shown with a line feed: the line feed itself is escaped, and what is shown as
itself is another character. -/
theorem lineFeed_notMem_quotedChar (c : Char) : '\n' ∉ quotedChar c := by
  unfold quotedChar
  split_ifs with hquote hslash hfeed
  · decide
  · decide
  · decide
  · decide
  · decide
  · decide
  · have hdigits : '\n' ∉ Nat.toDigits 16 c.toNat := lineFeed_notMem_toDigits (by decide) (by decide) _
    simp [hdigits]
  · rw [List.mem_singleton]
    exact Ne.symm hfeed

/-- A quoted text is a line, whatever the text. -/
theorem isLine_quoted (s : String) : IsLine (quoted s) := by
  have hshown : '\n' ∉ s.toList.flatMap quotedChar := by
    rw [List.mem_flatMap]
    rintro ⟨c, -, hc⟩
    exact lineFeed_notMem_quotedChar c hc
  simp [IsLine, quoted, hshown]

example : quoted "a\n\"" = "\"a\\n\\\"\"" := by decide +kernel

theorem isLine_scalar (v : Scalar) : IsLine v.render := by
  cases v with
  | text s => exact isLine_quoted s
  | path s => exact isLine_quoted s
  | char c => simp [IsLine, Scalar.render, lineFeed_notMem_quotedChar]
  | bool b => cases b <;> decide
  | level l => cases l <;> decide
  | int n => exact isLine_toString_int n
  | float f bits =>
    have hmark : IsLine "0x" := by decide
    refine isLine_append.mpr ⟨hmark, ?_⟩
    rw [IsLine, String.toList_ofList]
    exact lineFeed_notMem_toDigits (by decide) (by decide) bits

/-- A field is shown on a line, whatever it holds. -/
theorem isLine_fieldValue (v : FieldValue) : IsLine v.render := by
  have hcomma : IsLine ", " := by decide
  cases v with
  | single s => exact isLine_scalar s
  | optional o =>
    cases o with
    | none => decide
    | some s =>
      have hopen : IsLine "Some(" := by decide
      have hclose : IsLine ")" := by decide
      simp only [FieldValue.render, isLine_append]
      exact ⟨⟨hopen, isLine_scalar s⟩, hclose⟩
  | many vs =>
    have hopen : IsLine "[" := by decide
    have hclose : IsLine "]" := by decide
    simp only [FieldValue.render, isLine_append, isLine_intercalate_iff hcomma]
    refine ⟨⟨hopen, fun l hl => ?_⟩, hclose⟩
    obtain ⟨s, -, rfl⟩ := List.mem_map.mp hl
    exact isLine_scalar s

/-- A record is shown on a line, if the names of its type and of its fields are lines. -/
theorem isLine_record {name : String} {r : Record} (hname : IsLine name)
    (hfields : ∀ f ∈ r, IsLine f.1) : IsLine (r.render name) := by
  have hcomma : IsLine ", " := by decide
  have hcolon : IsLine ": " := by decide
  have hopen : IsLine " \x7b " := by decide
  have hclose : IsLine " \x7d" := by decide
  unfold Record.render
  split_ifs
  · exact hname
  · simp only [isLine_append, isLine_intercalate_iff hcomma]
    refine ⟨⟨⟨hname, hopen⟩, fun l hl => ?_⟩, hclose⟩
    obtain ⟨f, hf, rfl⟩ := List.mem_map.mp hl
    exact isLine_append.mpr ⟨isLine_append.mpr ⟨hfields f hf, hcolon⟩, isLine_fieldValue f.2⟩

/-! ### What an edit keeps of all objects -/

section Every

variable {P : Object → Prop} {f : Object → Object} {c : Configuration} {typeName : String}

theorem Slots.forall_mem_pairs {α : Type} {P : α → Prop} {s : Slots α} :
    (∀ p ∈ s.pairs, P p.2) ↔ ∀ group ∈ s, ∀ x ∈ group.2, P x := by
  constructor
  · intro h group hgroup x hx
    exact h (group.1, x) (List.mem_flatMap.mpr ⟨group, hgroup, List.mem_map_of_mem hx⟩)
  · intro h p hp
    obtain ⟨group, hgroup, hmem⟩ := List.mem_flatMap.mp hp
    obtain ⟨x, hx, rfl⟩ := List.mem_map.mp hmem
    exact h group hgroup x hx

theorem Slots.forall_mem_modify {α : Type} {P : List α → Prop} {s : Slots α}
    {f : List α → List α} (hf : ∀ xs, P xs → P (f xs)) (h : ∀ group ∈ s, P group.2) :
    ∀ group ∈ s.modify slot f, P group.2 := by
  induction s with
  | nil => simp [Slots.modify]
  | cons group rest ih =>
    obtain ⟨hfirst, hrest⟩ := List.forall_mem_cons.mp h
    rw [Slots.modify]
    split
    · exact List.forall_mem_cons.mpr ⟨hf _ hfirst, hrest⟩
    · exact List.forall_mem_cons.mpr ⟨hfirst, ih hrest⟩

theorem Configuration.forall_mem_modifyFirst {objects : List Object} (hf : ∀ o, P o → P (f o))
    (h : ∀ o ∈ objects, P o) : ∀ o ∈ modifyFirst typeName f objects, P o := by
  induction objects with
  | nil => simp [modifyFirst]
  | cons o rest ih =>
    obtain ⟨ho, hrest⟩ := List.forall_mem_cons.mp h
    rw [modifyFirst]
    split
    · exact List.forall_mem_cons.mpr ⟨hf o ho, hrest⟩
    · exact List.forall_mem_cons.mpr ⟨ho, ih hrest⟩

/-- What every assignment to an option keeps of an object, an edit keeps of all objects. -/
theorem Configuration.forall_mem_edit (e : InPlaceEdit)
    (hset : ∀ o name raw, P o → P (o.setOption name raw).1) (h : ∀ p ∈ c.toList, P p.2) :
    ∀ p ∈ (c.edit e).1.toList, P p.2 := by
  have hgroups : ∀ group ∈ c.slots, ∀ o ∈ group.2, P o := Slots.forall_mem_pairs.mp h
  have hmembers : ∀ objects : List Object, (∀ o ∈ objects, P o) →
      ∀ o ∈ modifyFirst e.typeName e.change objects, P o := fun objects =>
    forall_mem_modifyFirst fun o ho => hset o _ _ ho
  rw [edit_eq]
  exact Slots.forall_mem_pairs.mpr (Slots.forall_mem_modify hmembers hgroups)

theorem Configuration.forall_mem_afterEdits (edits : List InPlaceEdit)
    (hset : ∀ o name raw, P o → P (o.setOption name raw).1) (h : ∀ p ∈ c.toList, P p.2) :
    ∀ p ∈ (c.afterEdits edits).toList, P p.2 := by
  induction edits generalizing c with
  | nil => exact h
  | cons e edits ih =>
    have hedit : ∀ p ∈ (c.edit e).1.toList, P p.2 := forall_mem_edit e hset h
    exact ih hedit

end Every

/-! ### Objects of the demo classes -/

/-- The setter of a field changes no field's name. -/
theorem FieldType.names_setter (t : FieldType) (ident : String) (r : Record) (raw : String) :
    (t.setter ident r raw).fields.map (·.1) = r.map (·.1) := by
  unfold FieldType.setter
  split
  · rfl
  · split
    · exact Record.map_fst_set ..
    · rfl

namespace Demo

section Classes

variable (name : String) (fields : List (FieldDecl FieldType)) (initial : Record)

@[simp] theorem classOf_name : (classOf name fields initial).name = name := by
  unfold classOf ObjectClass.derive
  cases collectOptions [] fields <;> rfl

@[simp] theorem classOf_initial : (classOf name fields initial).initial = initial := by
  unfold classOf
  split <;> rfl

/-- The options of a class that is made of declared fields assign to fields. -/
theorem setter_of_mem_classOf {spec : OptionSpec} (h : spec ∈ (classOf name fields initial).options) :
    ∃ t : FieldType, ∃ ident, spec.setter = t.setter ident := by
  unfold classOf ObjectClass.derive at h
  cases hc : collectOptions [] fields with
  | error e =>
    rw [hc] at h
    cases h
  | ok options =>
    rw [hc] at h
    obtain ⟨o, -, rfl⟩ := List.mem_map.mp h
    exact ⟨o.type, o.field, rfl⟩

end Classes

/-- The classes of the demo types. -/
def classes : List ObjectClass := types.map (·.cls)

theorem eq_classOf_of_mem_classes {cls : ObjectClass} (h : cls ∈ classes) :
    ∃ name fields initial, cls = classOf name fields initial ∧ IsLine name ∧
      ∀ f ∈ initial, IsLine f.1 := by
  have hcls : cls = fileLogger ∨ cls = consoleLogger ∨ cls = memoryStore ∨ cls = httpServer ∨
      cls = systemClock ∨ cls = auditSink := by
    simpa [classes, types, ObjectType.ofClass, ObjectType.ofAbstract] using h
  rcases hcls with rfl | rfl | rfl | rfl | rfl | rfl <;>
    exact ⟨_, _, _, rfl, by decide, by decide⟩

/-- An object of a demo class, with the fields of its class and any values in them. -/
structure IsDemo (o : Object) : Prop where
  cls : o.cls ∈ classes
  fields : o.fields.map (·.1) = o.cls.initial.map (·.1)

variable {o o' : Object}

theorem isLine_shortName {typeName : String} (h : IsLine typeName) : IsLine (shortName typeName) := by
  rw [IsLine, shortName, String.toList_ofList, List.mem_reverse]
  intro hmem
  exact h (List.mem_reverse.mp (List.takeWhile_subset _ hmem))

/-- A demo object is described on a line. -/
theorem IsDemo.isLine_describeObject (h : IsDemo o) : IsLine (describeObject o) := by
  obtain ⟨name, fields, initial, hcls, hname, hidents⟩ := eq_classOf_of_mem_classes h.cls
  have htype : o.typeName = name := by rw [Object.typeName, hcls, classOf_name]
  have hfields : ∀ f ∈ o.fields, IsLine f.1 := by
    intro f hf
    have hmem : f.1 ∈ initial.map (·.1) := by
      have hnames := h.fields
      rw [hcls, classOf_initial] at hnames
      rw [← hnames]
      exact List.mem_map_of_mem hf
    obtain ⟨g, hg, heq⟩ := List.mem_map.mp hmem
    exact heq ▸ hidents g hg
  unfold describeObject renderFields
  rw [htype]
  split_ifs
  · exact isLine_record (isLine_shortName hname) hfields
  · exact hname

/-- A demo object remains one, whatever is assigned to its options. -/
theorem IsDemo.setOption (h : IsDemo o) (name raw : String) : IsDemo (o.setOption name raw).1 where
  cls := by
    rw [Object.setOption_cls]
    exact h.cls
  fields := by
    rw [Object.setOption_cls]
    unfold Object.setOption
    split
    · exact h.fields
    · next spec hfind =>
      obtain ⟨_, _, _, hcls, -⟩ := eq_classOf_of_mem_classes h.cls
      have hmem : spec ∈ o.cls.options := List.mem_of_find?_eq_some hfind
      rw [hcls] at hmem
      obtain ⟨t, ident, hsetter⟩ := setter_of_mem_classOf _ _ _ hmem
      dsimp only
      rw [hsetter, t.names_setter]
      exact h.fields

theorem IsDemo.replay {log : List Assignment} (h : IsDemo o) (hr : o.replay log = .ok o') :
    IsDemo o' := by
  induction log generalizing o with
  | nil =>
    cases hr
    exact h
  | cons a log ih =>
    obtain ⟨next, ⟨accepted, htake⟩, hrest⟩ := Object.replay_cons_ok_iff.mp hr
    have hnext := h.setOption a.name a.value
    rw [htake] at hnext
    exact ih hnext hrest

/-! ### Configurations of demo objects -/

/-- All objects that come from the type are demo objects. -/
def MakesDemo (t : ObjectType) : Prop := ∀ calls o, t.instantiate calls = .ok o → IsDemo o

/-- The demo types make demo objects. -/
theorem makesDemo_of_mem_types {t : ObjectType} (h : t ∈ types) : MakesDemo t := by
  intro calls o hi
  have hcls : o.cls = t.cls := ObjectType.cls_of_instantiate hi
  refine ⟨hcls ▸ List.mem_map_of_mem h, ?_⟩
  -- a demo type has no factory, or the one that hands out fresh objects
  have hfactory : t.factory = none ∨ ∃ cls, t = .ofClass t.id cls := by
    simp only [types, List.mem_cons, List.not_mem_nil, or_false] at h
    rcases h with rfl | rfl | rfl | rfl | rfl | rfl
    · exact .inr ⟨_, rfl⟩
    · exact .inr ⟨_, rfl⟩
    · exact .inr ⟨_, rfl⟩
    · exact .inr ⟨_, rfl⟩
    · exact .inr ⟨_, rfl⟩
    · exact .inl rfl
  rcases hfactory with hnone | ⟨cls, heq⟩
  · simp [ObjectType.instantiate, hnone] at hi
  · rw [heq] at hi
    cases hi
    rfl

theorem isDemo_of_instantiates {resolve : Resolver} {calls called : Calls}
    {pairs : List (String × String)} {objects : List Object}
    (h : Instantiates resolve calls pairs objects called)
    (hdemo : ∀ p ∈ pairs, ∀ t, resolve p.2 = some t → MakesDemo t) : ∀ o ∈ objects, IsDemo o := by
  induction h with
  | nil => simp
  | cons hr hi _ ih =>
    obtain ⟨hfirst, hrest⟩ := List.forall_mem_cons.mp hdemo
    exact List.forall_mem_cons.mpr ⟨hfirst _ hr _ _ hi, ih hrest⟩

/-- What is materialized from demo types are demo objects, whatever is bound to them. -/
theorem isDemo_of_materialize {d : Definition} {resolve : Resolver} {calls : Calls}
    {c : Configuration} (hdemo : ∀ p ∈ d.slots.pairs, ∀ t, resolve p.2 = some t → MakesDemo t)
    (h : (d.materialize resolve calls).outcome = .ok c) : ∀ p ∈ c.toList, IsDemo p.2 := by
  obtain ⟨-, -, fresh, called, hi, -, hreplay⟩ := replayed_of_materialize h
  have hfresh : ∀ o ∈ fresh, IsDemo o := isDemo_of_instantiates hi hdemo
  intro p hp
  obtain ⟨o, ho, hbound⟩ := exists_rel_of_mem (.flip hreplay) (List.mem_map_of_mem hp)
  exact (hfresh o ho).replay hbound

/-! ### The description -/

variable {c : Configuration}

theorem isLine_descriptionHeading (hname : IsLine c.name) : IsLine (descriptionHeading c) := by
  have hquote : IsLine "'" := by decide
  have hwith : IsLine "' materialized with " := by decide
  have hobjects : IsLine " object(s):" := by decide
  have hsize : IsLine (toString c.size) := isLine_toString_nat c.size
  show IsLine ("'" ++ c.name ++ "' materialized with " ++ toString c.size ++ " object(s):")
  simp only [isLine_append]
  exact ⟨⟨⟨⟨hquote, hname⟩, hwith⟩, hsize⟩, hobjects⟩

theorem isLine_descriptionLine {p : String × Object} (hslot : IsLine p.1) (ho : IsDemo p.2) :
    IsLine (descriptionLine p) := by
  have hindent : IsLine "  " := by decide
  have hcolon : IsLine ": " := by decide
  simp only [descriptionLine, isLine_append]
  exact ⟨⟨⟨hindent, hslot⟩, hcolon⟩, ho.isLine_describeObject⟩

/-- The lines of a description are those that it is put together from. -/
theorem lines_describe (hname : IsLine c.name) (hslots : ∀ slot ∈ c.slots.names, IsLine slot)
    (hdemo : ∀ p ∈ c.toList, IsDemo p.2) :
    lines (describe c) = descriptionHeading c :: c.toList.map descriptionLine := by
  refine lines_unlines (List.forall_mem_cons.mpr ⟨isLine_descriptionHeading hname, ?_⟩)
  intro l hl
  obtain ⟨p, hp, rfl⟩ := List.mem_map.mp hl
  exact isLine_descriptionLine (hslots p.1 (Slots.mem_names_of_mem_pairs hp)) (hdemo p hp)

/-- The description of a configuration has a first line with the name and the number of objects, and
behind it one line for each object, in order, which starts with the slot of the object. -/
structure LinePerObject (c : Configuration) : Prop where
  count : (lines (describe c)).length = 1 + c.size
  heading : (lines (describe c))[0]? =
    some ("'" ++ c.name ++ "' materialized with " ++ toString c.size ++ " object(s):")
  object : ∀ i slot o, c.toList[i]? = some (slot, o) →
    ∃ shown, (lines (describe c))[i + 1]? = some ("  " ++ slot ++ ":" ++ shown)

theorem linePerObject_of_isDemo (hname : IsLine c.name) (hslots : ∀ slot ∈ c.slots.names, IsLine slot)
    (hdemo : ∀ p ∈ c.toList, IsDemo p.2) : LinePerObject c := by
  have hlines := lines_describe hname hslots hdemo
  constructor
  · have hsize : c.toList.length = c.size := Slots.length_pairs c.slots
    rw [hlines, List.length_cons, List.length_map, hsize, Nat.add_comm]
  · rw [hlines]
    rfl
  · intro i slot o hi
    refine ⟨" " ++ describeObject o, ?_⟩
    have hline : descriptionLine (slot, o) = "  " ++ slot ++ ":" ++ (" " ++ describeObject o) := by
      have hcolon : ": " = ":" ++ " " := by decide
      simp only [descriptionLine, hcolon, String.append_assoc]
    rw [hlines, List.getElem?_cons_succ, List.getElem?_map, hi, Option.map_some, hline]

/-- **No value breaks a line of the description.**  If the name and the slot names of a configuration
of demo objects are lines, its description has a line with its name and the number of its objects, and
behind it a line for each object, which starts with its slot: whatever texts the definition binds to the
objects, and whatever is assigned to their options afterwards. -/
theorem description_has_line_each {d : Definition} {resolve : Resolver} {calls : Calls}
    (hdemo : ∀ p ∈ d.slots.pairs, ∀ t, resolve p.2 = some t → MakesDemo t)
    (h : (d.materialize resolve calls).outcome = .ok c) (hname : IsLine c.name)
    (hslots : ∀ slot ∈ c.slots.names, IsLine slot) (edits : List InPlaceEdit) :
    LinePerObject (c.afterEdits edits) := by
  obtain ⟨hkept, hlayout⟩ := c.afterEdits_keeps edits
  refine linePerObject_of_isDemo ?_ ?_ ?_
  · rwa [hkept]
  · rwa [Configuration.names_eq_of_layout hlayout]
  · refine c.forall_mem_afterEdits edits (fun o name raw ho => ho.setOption name raw) ?_
    exact isDemo_of_materialize hdemo h

section Sample

/-- A logger and a server whose texts have line feeds, quotes, backslashes and control characters. -/
def unruly : Definition :=
  definition "unruly" "" [("logger", "pkg.FileLogger"), ("http", "net.HttpServer")]
    [("tag", "a\nb"), ("path", "\"\\\n"), ("bind", "\r\n"), ("tag", "\x00\t"),
      ("allow-origin", "'\n'")]

def unrulyConfiguration : Configuration :=
  ⟨"unruly",
    [("logger", [⟨fileLogger, [("log_level", .single (.level .info)),
      ("path", .optional (some (.path "\"\\\n"))),
      ("tags", .many [.text "a\nb", .text "\x00\t"])]⟩]),
    ("http", [⟨httpServer, [("bind", .single (.text "\r\n")), ("port", .single (.int 8080)),
      ("allowed_origins", .many [.text "'\n'"])]⟩])]⟩

def unrulyEdits : List InPlaceEdit :=
  [⟨"http", "example::objects::HttpServer", ⟨"allow-origin", "\x1b\n"⟩⟩]

theorem description_has_line_each_unruly :
    (unruly.materialize (ObjectRegistry.mk types).get? []).outcome = .ok unrulyConfiguration ∧
      (unrulyConfiguration.afterEdits unrulyEdits).objects "http" =
        [⟨httpServer, [("bind", .single (.text "\r\n")), ("port", .single (.int 8080)),
          ("allowed_origins", .many [.text "'\n'", .text "\x1b\n"])]⟩] ∧
      (lines (describe (unrulyConfiguration.afterEdits unrulyEdits))).length = 3 ∧
      ∃ shown, (lines (describe (unrulyConfiguration.afterEdits unrulyEdits)))[2]? =
        some ("  http:" ++ shown) := by
  have hmade : (unruly.materialize (ObjectRegistry.mk types).get? []).outcome =
      .ok unrulyConfiguration := by rfl
  have hdemo : ∀ p ∈ unruly.slots.pairs, ∀ t, (ObjectRegistry.mk types).get? p.2 = some t →
      MakesDemo t := fun _ _ _ ht => makesDemo_of_mem_types (List.mem_of_find?_eq_some ht)
  have hname : IsLine unrulyConfiguration.name := by decide
  have hslots : ∀ slot ∈ unrulyConfiguration.slots.names, IsLine slot := by decide
  obtain ⟨hcount, -, hobject⟩ := description_has_line_each hdemo hmade hname hslots unrulyEdits
  refine ⟨hmade, rfl, hcount, ?_⟩
  exact hobject 1 "http" _ rfl

end Sample

end Demo

end ObjectAssembly
