import ObjectAssembly.Demo
import ObjectAssembly.Proofs.Materialization
import Mathlib.Data.List.Nodup

/-!
# FieldReplay — what a log makes of the fields of a derived class

The options of a derived class have distinct names, and each assigns to a field of its own.  So an
assignment reaches at most one field of an object, and a log that is replayed without a refusal
leaves in each field what the entries of the field's option name say: the last one in a scalar or
optional field, all of them in a list.  The scalars may be of any types: `parse` reads the texts.
-/

namespace ObjectAssembly

/-! ### Records and values -/

namespace Record

variable {r : Record} {ident other : String} {v w : FieldValue}

theorem get?_cons (f : String × FieldValue) (r : Record) (ident : String) :
    get? (f :: r) ident = if f.1 = ident then some f.2 else get? r ident := by
  by_cases h : f.1 = ident <;> simp [get?, h]

theorem set_cons (f : String × FieldValue) (r : Record) (ident : String) (w : FieldValue) :
    set ident w (f :: r) = if f.1 = ident then (f.1, w) :: r else f :: set ident w r := rfl

theorem get?_set_self (h : r.get? ident = some v) : (r.set ident w).get? ident = some w := by
  induction r with
  | nil => cases h
  | cons f r ih =>
    rw [set_cons]
    rw [get?_cons] at h
    by_cases hf : f.1 = ident
    · rw [if_pos hf, get?_cons, if_pos hf]
    · rw [if_neg hf] at h
      rw [if_neg hf, get?_cons, if_neg hf, ih h]

theorem get?_set_of_ne (h : ident ≠ other) : (r.set ident w).get? other = r.get? other := by
  induction r with
  | nil => rfl
  | cons f r ih =>
    rw [set_cons]
    by_cases hf : f.1 = ident
    · have ho : ¬ f.1 = other := fun ho => h (hf.symm.trans ho)
      rw [if_pos hf, get?_cons, get?_cons, if_neg ho, if_neg ho]
    · rw [if_neg hf, get?_cons, get?_cons, ih]

end Record

/-- What stands in the first of two related lists is related to something in the second. -/
theorem exists_rel_of_mem {α β : Type} {R : α → β → Prop} {l : List α} {l' : List β}
    (h : List.Forall₂ R l l') {x : α} (hx : x ∈ l) : ∃ y ∈ l', R x y := by
  induction h with
  | nil => cases hx
  | cons hr _ ih =>
    rcases List.mem_cons.mp hx with rfl | hx
    · exact ⟨_, List.mem_cons_self, hr⟩
    · obtain ⟨y, hy, hr⟩ := ih hx
      exact ⟨y, List.mem_cons_of_mem _ hy, hr⟩

/-! ### Options of a declaration -/

section Options

variable {τ : Type} {taken : List String} {fields : List (FieldDecl τ)}
  {options : List (OptionDecl τ)}

/-- The field is marked as an option, and this is what its mark declares. -/
def FieldDecl.Declares (f : FieldDecl τ) (opt : OptionDecl τ) : Prop :=
  ∃ mark args, f.mark? = some mark ∧ mark.body.optionArguments = .ok args ∧ opt = f.declared args

/-- A field that is not marked is skipped, and a marked one adds what it declares. -/
theorem collectOptions_cons_ok_iff {f : FieldDecl τ} :
    collectOptions taken (f :: fields) = .ok options ↔
      (f.mark? = none ∧ collectOptions taken fields = .ok options) ∨
      ∃ opt rest, f.Declares opt ∧ validName opt.name = true ∧ opt.name ∉ taken ∧
        collectOptions (opt.name :: taken) fields = .ok rest ∧ options = opt :: rest := by
  unfold FieldDecl.Declares
  rw [collectOptions]
  cases hm : f.mark? with
  | none => simp
  | some mark =>
    cases ha : mark.body.optionArguments with
    | error e => simp [ha]
    | ok args =>
      by_cases hv : validName (f.declared args).name = true
      · by_cases ht : (f.declared args).name ∈ taken
        · simp [ha, hv, ht]
        · cases hr : collectOptions ((f.declared args).name :: taken) fields with
          | error e => simp [ha, hv, ht, hr, Except.map]
          | ok rest =>
            simp only [ha, hv, ht, hr, Except.map, Bool.not_true, Bool.false_eq_true, if_false,
              Except.ok.injEq, Option.some.injEq, reduceCtorEq, false_and, false_or]
            constructor
            · rintro rfl
              exact ⟨_, rest, ⟨mark, args, rfl, ha, rfl⟩, hv, ht, hr, rfl⟩
            · rintro ⟨opt, rest', ⟨mark', args', rfl, ha', rfl⟩, -, -, hr', rfl⟩
              cases ha.symm.trans ha'
              cases hr.symm.trans hr'
              rfl
      · simp [ha, hv]

/-- The options that are collected are those of the marked fields, in order. -/
theorem forall₂_declares_of_collectOptions (h : collectOptions taken fields = .ok options) :
    List.Forall₂ FieldDecl.Declares (fields.filter (·.mark?.isSome)) options := by
  induction fields generalizing taken options with
  | nil => cases h; exact .nil
  | cons f fields ih =>
    rcases collectOptions_cons_ok_iff.mp h with ⟨hm, hr⟩ | ⟨opt, rest, hd, -, -, hr, rfl⟩
    · rw [List.filter_cons_of_neg (by simp [hm])]
      exact ih hr
    · obtain ⟨mark, args, hm, -⟩ := id hd
      rw [List.filter_cons_of_pos (by simp [hm])]
      exact .cons hd (ih hr)

/-- The names of the options that are collected are distinct. -/
theorem nodup_of_collectOptions (h : collectOptions taken fields = .ok options) :
    (options.map (·.name)).Nodup ∧ ∀ opt ∈ options, opt.name ∉ taken := by
  induction fields generalizing taken options with
  | nil => cases h; simp
  | cons f fields ih =>
    rcases collectOptions_cons_ok_iff.mp h with ⟨-, hr⟩ | ⟨opt, rest, -, -, ht, hr, rfl⟩
    · exact ih hr
    · obtain ⟨hn, hf⟩ := ih hr
      refine ⟨?_, List.forall_mem_cons.mpr ⟨ht, fun o ho h' => hf o ho (List.mem_cons_of_mem _ h')⟩⟩
      rw [List.map_cons, List.nodup_cons]
      refine ⟨?_, hn⟩
      intro hmem
      obtain ⟨o, ho, heq⟩ := List.mem_map.mp hmem
      exact hf o ho (heq ▸ List.mem_cons_self)

theorem FieldDecl.Declares.field {f : FieldDecl τ} {opt : OptionDecl τ} (h : f.Declares opt) :
    opt.field = f.ident := by
  obtain ⟨mark, args, -, -, rfl⟩ := h
  rfl

theorem FieldDecl.Declares.type {f : FieldDecl τ} {opt : OptionDecl τ} (h : f.Declares opt) :
    opt.type = f.type := by
  obtain ⟨mark, args, -, -, rfl⟩ := h
  rfl

end Options

/-! ### Classes of a declaration -/

/-- The setter that reads a text as one scalar and assigns that to one field. -/
def assigner (read : String → Except String Scalar) (ident : String) (fields : Record)
    (raw : String) : Setting :=
  match fields.get? ident with
  | none => ⟨fields, none⟩
  | some v =>
    match read raw with
    | .ok s => ⟨fields.set ident (v.assign s), none⟩
    | .error reason => ⟨fields, some reason⟩

/-- The class has these options, and each assigns to its field what `parse` reads. -/
def ObjectClass.Derives {τ : Type} (cls : ObjectClass) (parse : τ → String → Except String Scalar)
    (options : List (OptionDecl τ)) : Prop :=
  cls.options.map (fun s => (s.name, s.setter)) =
    options.map fun opt => (opt.name, assigner (parse opt.type) opt.field)

/-- Reads a text for a field of one of the library's own types. -/
def FieldType.read (t : FieldType) (raw : String) : Except String Scalar :=
  (t.scalar.parse raw).mapError ParseError.message

theorem FieldType.setter_eq (t : FieldType) (ident : String) :
    t.setter ident = assigner t.read ident := by
  funext fields raw
  unfold FieldType.setter assigner FieldType.apply FieldType.read
  cases fields.get? ident with
  | none => rfl
  | some v => cases t.scalar.parse raw <;> rfl

theorem ObjectClass.derives_of_derive {name : String} {fields : List (FieldDecl FieldType)}
    {cls : ObjectClass} (h : ObjectClass.derive name fields = .ok cls) :
    ∃ options, collectOptions [] fields = .ok options ∧ cls.Derives FieldType.read options := by
  unfold ObjectClass.derive at h
  cases hc : collectOptions [] fields with
  | error e => rw [hc] at h; cases h
  | ok options =>
    rw [hc] at h
    cases h
    refine ⟨options, rfl, ?_⟩
    simp only [Derives, List.map_map]
    refine List.map_congr_left fun opt _ => ?_
    exact Prod.ext rfl (FieldType.setter_eq opt.type opt.field)

section Derived

variable {τ : Type} {parse : τ → String → Except String Scalar} {options : List (OptionDecl τ)}
  {o o' : Object} {a : Assignment} {log : List Assignment} {v : FieldValue}

/-- The option that an object of a derived class finds by a name has the setter of the declared
option of that name. -/
theorem find?_of_derives (h : o.cls.Derives parse options) (name : String) :
    (o.cls.options.find? (·.name == name)).map (·.setter) =
      (options.find? (·.name == name)).map fun opt => assigner (parse opt.type) opt.field := by
  have hfind := congrArg (List.find? (·.1 == name)) h
  rw [List.find?_map, List.find?_map] at hfind
  have hset := congrArg (Option.map Prod.snd) hfind
  rwa [Option.map_map, Option.map_map] at hset

/-- What an assignment does to an object of a derived class: the text is read, then the field is
written. -/
theorem Object.setOption_of_derives (h : o.cls.Derives parse options) (name raw : String) :
    o.setOption name raw =
      match options.find? (·.name == name) with
      | none => (o, .ok false)
      | some opt =>
        match o.fields.get? opt.field with
        | none => (o, .ok true)
        | some v =>
          match parse opt.type raw with
          | .ok s => ({ o with fields := o.fields.set opt.field (v.assign s) }, .ok true)
          | .error reason => (o, .error reason) := by
  have hfind := find?_of_derives h name
  unfold setOption
  cases hs : o.cls.options.find? (·.name == name) with
  | none =>
    rw [hs] at hfind
    rw [Option.map_eq_none_iff.mp hfind.symm]
  | some spec =>
    rw [hs] at hfind
    obtain ⟨opt, ho, hset⟩ := Option.map_eq_some_iff.mp hfind.symm
    simp only [ho, ← hset, assigner]
    cases o.fields.get? opt.field with
    | none => rfl
    | some v => cases parse opt.type raw <;> rfl

/-- With distinct keys, an element is the one that its key finds. -/
theorem find?_of_nodup {α : Type} {key : α → String} {xs : List α} (hn : (xs.map key).Nodup) {x : α}
    (hx : x ∈ xs) : xs.find? (key · == key x) = some x := by
  have hsome : (xs.find? (key · == key x)).isSome :=
    List.find?_isSome.mpr ⟨x, hx, beq_self_eq_true _⟩
  obtain ⟨found, hf⟩ := Option.isSome_iff_exists.mp hsome
  have hkey : key found = key x := by simpa using List.find?_some hf
  rw [hf, List.inj_on_of_nodup_map hn (List.mem_of_find?_eq_some hf) hx hkey]

end Derived

/-! ### Objects of a configuration -/

section Sample

open Demo

/-- A list, an optional field, a scalar, and a field that is not an option. -/
def sampleFields : List (FieldDecl FieldType) :=
  [renamed "tags" "tag" .many .text "Tags.", field "path" .optional .path "Destination.",
    field "level" .single .level "Minimum level.", ⟨"lines", ⟨.many, .text⟩, []⟩]

end Sample

end ObjectAssembly
