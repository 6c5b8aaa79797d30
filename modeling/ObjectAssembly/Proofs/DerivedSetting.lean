import ObjectAssembly.Proofs.FieldReplay

/-!
# DerivedSetting — one option of a derived type is set at once or not at all

The setter of a derived option reads the text before it writes the field, and the names of a
declaration's options are distinct.  So a call of `setOption` that is not answered `true` leaves the
object as it was, and one that is answered `true` reaches the field of the one option of that name.
Along any mix of calls, the object is what the accepted calls alone make of it.
-/

namespace ObjectAssembly

/-! ### Values -/

/-- A scalar is assigned: it replaces what a scalar or optional field held, and ends a list. -/
inductive FieldValue.Gains (s : Scalar) : FieldValue → FieldValue → Prop
  | single (old : Scalar) : Gains s (.single old) (.single s)
  | optional (old : Option Scalar) : Gains s (.optional old) (.optional (some s))
  | many (vs : List Scalar) : Gains s (.many vs) (.many (vs ++ [s]))

theorem FieldValue.gains_assign (v : FieldValue) (s : Scalar) : v.Gains s (v.assign s) := by
  cases v with
  | single old => exact .single old
  | optional old => exact .optional old
  | many vs => exact .many vs

theorem Record.map_fst_set (r : Record) (ident : String) (v : FieldValue) :
    (r.set ident v).map (·.1) = r.map (·.1) := by
  induction r with
  | nil => rfl
  | cons f r ih =>
    rw [set_cons]
    split
    · rfl
    · rw [List.map_cons, List.map_cons, ih]

theorem Record.exists_get?_of_mem {r : Record} {ident : String} (h : ident ∈ r.map (·.1)) :
    ∃ v, r.get? ident = some v := by
  induction r with
  | nil => cases h
  | cons f r ih =>
    rw [get?_cons]
    by_cases hf : f.1 = ident
    · exact ⟨f.2, if_pos hf⟩
    · rw [if_neg hf]
      rcases List.mem_cons.mp h with heq | h
      · exact absurd heq.symm hf
      · exact ih h

/-! ### Options of a declaration -/

section Options

variable {τ : Type} {fields : List (FieldDecl τ)} {options : List (OptionDecl τ)}

/-- A field declares one option at most. -/
theorem FieldDecl.Declares.unique {f : FieldDecl τ} {opt opt' : OptionDecl τ} (h : f.Declares opt)
    (h' : f.Declares opt') : opt = opt' := by
  obtain ⟨mark, args, hm, ha, rfl⟩ := h
  obtain ⟨mark', args', hm', ha', rfl⟩ := h'
  cases hm.symm.trans hm'
  cases ha.symm.trans ha'
  rfl

/-- The options of a declaration are what its fields declare. -/
theorem mem_iff_of_collectOptions (h : collectOptions [] fields = .ok options)
    {opt : OptionDecl τ} : opt ∈ options ↔ ∃ f ∈ fields, f.Declares opt := by
  have hopts := forall₂_declares_of_collectOptions h
  constructor
  · intro ho
    have hback : List.Forall₂ (flip FieldDecl.Declares) options (fields.filter (·.mark?.isSome)) :=
      .flip hopts
    obtain ⟨f, hf, hd⟩ := exists_rel_of_mem hback ho
    exact ⟨f, (List.mem_filter.mp hf).1, hd⟩
  · rintro ⟨f, hf, hd⟩
    have hm : f.mark?.isSome := by
      obtain ⟨mark, -, hm, -⟩ := hd
      rw [hm]
      rfl
    obtain ⟨opt', ho, hd'⟩ := exists_rel_of_mem hopts (List.mem_filter.mpr ⟨hf, hm⟩)
    rwa [hd.unique hd']

/-- An option name belongs to one field. -/
theorem eq_of_declares_name (hd : (fields.map (·.ident)).Nodup)
    (h : collectOptions [] fields = .ok options) {f g : FieldDecl τ} {opt opt' : OptionDecl τ}
    (hf : f ∈ fields) (hg : g ∈ fields) (ho : f.Declares opt) (ho' : g.Declares opt')
    (hname : opt'.name = opt.name) : g = f := by
  have hmem : opt ∈ options := (mem_iff_of_collectOptions h).mpr ⟨f, hf, ho⟩
  have hmem' : opt' ∈ options := (mem_iff_of_collectOptions h).mpr ⟨g, hg, ho'⟩
  have heq : opt' = opt := List.inj_on_of_nodup_map (nodup_of_collectOptions h).1 hmem' hmem hname
  refine List.inj_on_of_nodup_map hd hg hf ?_
  rw [← ho.field, ← ho'.field, heq]

end Options

/-! ### One call -/

section Call

variable {τ : Type} {parse : τ → String → Except String Scalar} {d : StructDecl τ}
  {options : List (OptionDecl τ)} {o : Object} {a : Assignment}

/-- The object is of a type that the declaration `d` derives with these options. -/
structure Object.IsDerived (o : Object) (parse : τ → String → Except String Scalar)
    (d : StructDecl τ) (options : List (OptionDecl τ)) : Prop where
  derived : d.options = .ok options
  distinct : (d.fields.map (·.ident)).Nodup
  cls : o.cls.Derives parse options
  record : o.fields.map (·.1) = d.fields.map (·.ident)

theorem collectOptions_of_options (h : d.options = .ok options) :
    collectOptions [] d.fields = .ok options := by
  unfold StructDecl.options at h
  split at h
  · cases h
  · exact h

/-- The three ways in which an object of a derived type answers. -/
theorem Object.IsDerived.setOption_cases (h : o.IsDerived parse d options) (a : Assignment) :
    ((∀ f ∈ d.fields, ∀ opt, f.Declares opt → opt.name ≠ a.name) ∧
      o.setOption a.name a.value = (o, .ok false)) ∨
    ∃ f ∈ d.fields, ∃ opt v, f.Declares opt ∧ opt.name = a.name ∧ o.fields.get? f.ident = some v ∧
      ((∃ s, parse f.type a.value = .ok s ∧ o.setOption a.name a.value =
          ({ o with fields := o.fields.set f.ident (v.assign s) }, .ok true)) ∨
        ∃ reason, parse f.type a.value = .error reason ∧
          o.setOption a.name a.value = (o, .error reason)) := by
  have hset := setOption_of_derives h.cls a.name a.value
  have hmem : ∀ opt, opt ∈ options ↔ ∃ f ∈ d.fields, f.Declares opt := fun opt =>
    mem_iff_of_collectOptions (collectOptions_of_options h.derived)
  cases hfind : options.find? (·.name == a.name) with
  | none =>
    rw [hfind] at hset
    refine .inl ⟨fun f hf opt hd => ?_, hset⟩
    simpa using List.find?_eq_none.mp hfind opt ((hmem opt).mpr ⟨f, hf, hd⟩)
  | some opt =>
    have hname : opt.name = a.name := by simpa using List.find?_some hfind
    obtain ⟨f, hf, hd⟩ := (hmem opt).mp (List.mem_of_find?_eq_some hfind)
    obtain ⟨v, hv⟩ : ∃ v, o.fields.get? f.ident = some v :=
      Record.exists_get?_of_mem (h.record ▸ List.mem_map_of_mem hf)
    simp only [hfind, hd.field, hv, hd.type] at hset
    refine .inr ⟨f, hf, opt, v, hd, hname, hv, ?_⟩
    cases hp : parse f.type a.value with
    | ok s =>
      rw [hp] at hset
      exact .inl ⟨s, rfl, hset⟩
    | error reason =>
      rw [hp] at hset
      exact .inr ⟨reason, rfl, hset⟩

/-- An object of a derived type stays as it is unless it accepts. -/
theorem Object.IsDerived.kept (h : o.IsDerived parse d options)
    (hn : (o.setOption a.name a.value).2 ≠ .ok true) : (o.setOption a.name a.value).1 = o := by
  rcases h.setOption_cases a with ⟨-, heq⟩ | ⟨f, -, opt, v, -, -, -, ⟨s, -, heq⟩ | ⟨reason, -, heq⟩⟩
  · rw [heq]
  · rw [heq] at hn
    exact absurd rfl hn
  · rw [heq]

/-- An object of a derived type remains one. -/
theorem Object.IsDerived.setOption (h : o.IsDerived parse d options) (a : Assignment) :
    (o.setOption a.name a.value).1.IsDerived parse d options where
  derived := h.derived
  distinct := h.distinct
  cls := by
    rw [setOption_cls]
    exact h.cls
  record := by
    rcases h.setOption_cases a with ⟨-, heq⟩ | ⟨f, -, opt, v, -, -, -, ⟨s, -, heq⟩ | ⟨reason, -, heq⟩⟩
    · rw [heq]
      exact h.record
    · rw [heq]
      exact (Record.map_fst_set _ _ _).trans h.record
    · rw [heq]
      exact h.record

/-- What one call does to an object of a type that the declaration `d` derives: it passes over a name
that is not declared, it refuses a text that the type of the named field does not read, and else it
assigns to that field.  Unless it answers `true`, nothing changes. -/
structure SetsOneField (parse : τ → String → Except String Scalar) (d : StructDecl τ) (o : Object)
    (a : Assignment) : Prop where
  undeclared : (o.setOption a.name a.value).2 = .ok false ↔ o.declares a.name = false
  refused : ∀ reason, (o.setOption a.name a.value).2 = .error reason ↔
    ∃ f ∈ d.fields, ∃ opt, f.Declares opt ∧ opt.name = a.name ∧ parse f.type a.value = .error reason
  kept : (o.setOption a.name a.value).2 ≠ .ok true → (o.setOption a.name a.value).1 = o
  accepted : ∀ o', o.setOption a.name a.value = (o', .ok true) →
    ∃ f ∈ d.fields, ∃ opt, f.Declares opt ∧ opt.name = a.name ∧
      (∀ g ∈ d.fields, ∀ opt', g.Declares opt' → opt'.name = a.name → g = f) ∧
      (∃ s v v', parse f.type a.value = .ok s ∧ o.fields.get? f.ident = some v ∧ v.Gains s v' ∧
        o'.fields.get? f.ident = some v') ∧
      (∀ ident, ident ≠ f.ident → o'.fields.get? ident = o.fields.get? ident) ∧
      o'.fields.map (·.1) = o.fields.map (·.1) ∧ o'.cls = o.cls

/-- The field that a name belongs to is the only one. -/
theorem Object.IsDerived.field_unique (h : o.IsDerived parse d options) {f g : FieldDecl τ}
    {opt opt' : OptionDecl τ} (hf : f ∈ d.fields) (hd : f.Declares opt) (hname : opt.name = a.name)
    (hg : g ∈ d.fields) (hd' : g.Declares opt') (hname' : opt'.name = a.name) : g = f :=
  eq_of_declares_name h.distinct (collectOptions_of_options h.derived) hf hg hd hd'
    (hname'.trans hname.symm)

/-- Any object answers `false` to what it does not declare, and to nothing else. -/
theorem Object.answer_false_iff {name raw : String} :
    (o.setOption name raw).2 = .ok false ↔ o.declares name = false := by
  constructor
  · intro h
    exact (accepted_eq (Prod.ext rfl h)).symm
  · intro h
    rw [setOption_of_not_declares h]

/-- What an object of a derived type refuses is a text that the type of the named field does not
read. -/
theorem Object.IsDerived.refused_iff (h : o.IsDerived parse d options) {reason : String} :
    (o.setOption a.name a.value).2 = .error reason ↔
      ∃ f ∈ d.fields, ∃ opt, f.Declares opt ∧ opt.name = a.name ∧
        parse f.type a.value = .error reason := by
  rcases h.setOption_cases a with ⟨hnone, heq⟩ | ⟨f, hf, opt, v, hd, hname, -, hread⟩
  · rw [heq]
    refine ⟨fun h' => (by cases h'), ?_⟩
    rintro ⟨f, hf, opt, hd, hname, -⟩
    exact absurd hname (hnone f hf opt hd)
  · -- the named field decides, and there is no other
    have hfield : (∃ g ∈ d.fields, ∃ opt', g.Declares opt' ∧ opt'.name = a.name ∧
        parse g.type a.value = .error reason) ↔ parse f.type a.value = .error reason := by
      constructor
      · rintro ⟨g, hg, opt', hd', hname', hp⟩
        rwa [h.field_unique hf hd hname hg hd' hname'] at hp
      · exact fun hp => ⟨f, hf, opt, hd, hname, hp⟩
    rw [hfield]
    rcases hread with ⟨s, hp, heq⟩ | ⟨reason', hp, heq⟩
    · simp only [heq, hp, reduceCtorEq]
    · simp only [heq, hp, Except.error.injEq]

/-- What an object of a derived type accepts reaches the named field. -/
theorem Object.IsDerived.accepted {o' : Object} (h : o.IsDerived parse d options)
    (heq : o.setOption a.name a.value = (o', .ok true)) :
    ∃ f ∈ d.fields, ∃ opt s v, f.Declares opt ∧ opt.name = a.name ∧ parse f.type a.value = .ok s ∧
      o.fields.get? f.ident = some v ∧
      o' = { o with fields := o.fields.set f.ident (v.assign s) } := by
  rcases h.setOption_cases a with
    ⟨-, heq'⟩ | ⟨f, hf, opt, v, hd, hname, hv, ⟨s, hp, heq'⟩ | ⟨reason, -, heq'⟩⟩
  · cases heq.symm.trans heq'
  · exact ⟨f, hf, opt, s, v, hd, hname, hp, hv, (Prod.mk.inj (heq.symm.trans heq')).1⟩
  · cases heq.symm.trans heq'

theorem Object.IsDerived.setsOneField (h : o.IsDerived parse d options) (a : Assignment) :
    SetsOneField parse d o a where
  undeclared := answer_false_iff
  refused _ := h.refused_iff
  kept := h.kept
  accepted o' heq := by
    obtain ⟨f, hf, opt, s, v, hd, hname, hp, hv, rfl⟩ := h.accepted heq
    refine ⟨f, hf, opt, hd, hname, ?_, ⟨s, v, _, hp, hv, v.gains_assign s, ?_⟩, ?_, ?_, rfl⟩
    · exact fun g hg opt' hd' hname' => h.field_unique hf hd hname hg hd' hname'
    · exact Record.get?_set_self hv
    · exact fun ident hne => Record.get?_set_of_ne hne.symm
    · exact Record.map_fst_set _ _ _

end Call

/-! ### Many calls -/

namespace Object

/-- The object after calls, whatever it answers to them. -/
def afterCalls (o : Object) : List Assignment → Object
  | [] => o
  | a :: rest => (o.setOption a.name a.value).1.afterCalls rest

/-- The calls that the object accepts, each in the state that the calls before it leave. -/
def acceptedCalls (o : Object) : List Assignment → List Assignment
  | [] => []
  | a :: rest =>
    match o.setOption a.name a.value with
    | (o', .ok true) => a :: o'.acceptedCalls rest
    | (o', _) => o'.acceptedCalls rest

section Calls

variable {τ : Type} {parse : τ → String → Except String Scalar} {d : StructDecl τ}
  {options : List (OptionDecl τ)} {o : Object}

theorem IsDerived.afterCalls (h : o.IsDerived parse d options) (calls : List Assignment) :
    (o.afterCalls calls).IsDerived parse d options := by
  induction calls generalizing o with
  | nil => exact h
  | cons a rest ih => exact ih (h.setOption a)

/-- Replaying the accepted calls alone meets no refusal and leaves the same object. -/
theorem IsDerived.replay_acceptedCalls (h : o.IsDerived parse d options)
    (calls : List Assignment) : o.replay (o.acceptedCalls calls) = .ok (o.afterCalls calls) := by
  induction calls generalizing o with
  | nil => rfl
  | cons a rest ih =>
    have hrest := ih (h.setOption a)
    have hkept := h.kept (a := a)
    rw [Object.afterCalls, Object.acceptedCalls]
    split
    · next o' heq =>
      rw [heq] at hrest
      exact replay_cons_ok_iff.mpr ⟨o', ⟨true, heq⟩, hrest.trans (by rw [heq])⟩
    · next o' answer hne heq =>
      have hsame : o' = o := by
        rw [heq] at hkept
        exact hkept fun htrue => hne (htrue ▸ rfl)
      rw [heq] at hrest ⊢
      rw [hsame] at hrest ⊢
      exact hrest

end Calls

end Object

/-- **An option is set at once or not at all.**  Whatever calls an object of a derived type has been
through, and however it answered them, a call to a name that it does not declare is answered `false`, a
call with a text that the type of the named field does not read is answered with the reason, and
neither changes anything; any other call assigns one scalar to the one field of that name.  So the
object is what the accepted calls alone make of it. -/
theorem setOption_atomic {τ : Type} {parse : τ → String → Except String Scalar} {d : StructDecl τ}
    {options : List (OptionDecl τ)} {o : Object} (h : o.IsDerived parse d options)
    (calls : List Assignment) :
    (∀ a, SetsOneField parse d (o.afterCalls calls) a) ∧
      o.replay (o.acceptedCalls calls) = .ok (o.afterCalls calls) :=
  ⟨(h.afterCalls calls).setsOneField, h.replay_acceptedCalls calls⟩

section Sample

open Demo

/-- An object with a list, an optional field, a scalar, and a field that is not an option. -/
def sampleObject : Object := (classOf "Logger" sampleFields (FieldDecl.initial sampleFields)).create

/-- Calls that are accepted, refused and passed over. -/
def sampleCalls : List Assignment :=
  [⟨"tag", "a"⟩, ⟨"level", "loud"⟩, ⟨"lines", "x"⟩, ⟨"path", "/tmp/a"⟩, ⟨"tag", "b"⟩]

theorem setOption_atomic_sample :
    ∃ options, sampleObject.IsDerived FieldType.read ⟨.named, sampleFields⟩ options ∧
      (∀ a, SetsOneField FieldType.read ⟨.named, sampleFields⟩
        (sampleObject.afterCalls sampleCalls) a) ∧
      sampleObject.replay [⟨"tag", "a"⟩, ⟨"path", "/tmp/a"⟩, ⟨"tag", "b"⟩] =
        .ok (sampleObject.afterCalls sampleCalls) ∧
      (sampleObject.afterCalls sampleCalls).fields =
        [("tags", .many [.text "a", .text "b"]), ("path", .optional (some (.path "/tmp/a"))),
          ("level", .single (.level .info)), ("lines", .many [])] := by
  obtain ⟨options, hc, hcls⟩ :=
    @ObjectClass.derives_of_derive "Logger" sampleFields _ rfl
  have hderived : sampleObject.IsDerived FieldType.read ⟨.named, sampleFields⟩ options :=
    ⟨hc, by decide, hcls, rfl⟩
  obtain ⟨hone, hreplay⟩ := setOption_atomic hderived sampleCalls
  exact ⟨options, hderived, hone, hreplay, rfl⟩

end Sample

end ObjectAssembly
