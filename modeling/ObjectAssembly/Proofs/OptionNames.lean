import ObjectAssembly.Proofs.FieldReplay
import ObjectAssembly.Proofs.OptionArguments
import ObjectAssembly.Text.Identifier
import Mathlib.Data.List.TakeWhile

/-!
# OptionNames — which structs options can be derived from

A struct with named fields and well-formed attribute arguments is accepted iff the names of its
options are non-empty, free of white space and distinct.  The options are then those of the marked
fields, in declaration order; and if the struct is refused, the complaint is about the first marked
field whose name is invalid or was taken before.
-/

namespace ObjectAssembly

/-! ### Trimmed texts -/

namespace Text

variable {s : String} {cs : List Char}

/-- The second text is what remains of the first without the white space at either end. -/
structure Trims (s t : String) : Prop where
  split : ∃ front back, s.toList = front ++ t.toList ++ back ∧
    (∀ c ∈ front, isBlank c = true) ∧ ∀ c ∈ back, isBlank c = true
  first : ∀ c, t.toList.head? = some c → isBlank c = false
  last : ∀ c, t.toList.getLast? = some c → isBlank c = false

theorem not_isBlank_of_head?_dropWhile {c : Char} (h : (cs.dropWhile isBlank).head? = some c) :
    isBlank c = false := by
  have hnot := List.head?_dropWhile_not isBlank cs
  rw [h] at hnot
  simpa using hnot

/-- A text begins with its white space, and ends with it in reverse. -/
theorem eq_append_of_reverse_dropWhile (cs : List Char) :
    cs = (cs.reverse.dropWhile isBlank).reverse ++ (cs.reverse.takeWhile isBlank).reverse := by
  rw [← List.reverse_append, List.takeWhile_append_dropWhile, List.reverse_reverse]

theorem trims_trimBlanks (s : String) : Trims s (trimBlanks s) := by
  have hfront := (List.takeWhile_append_dropWhile (p := isBlank) (l := s.toList)).symm
  have hback := eq_append_of_reverse_dropWhile (s.toList.dropWhile isBlank)
  set rest := s.toList.dropWhile isBlank with hrest
  constructor
  · refine ⟨s.toList.takeWhile isBlank, (rest.reverse.takeWhile isBlank).reverse, ?_, ?_, ?_⟩
    · rw [trimBlanks, String.toList_ofList, List.append_assoc, ← hback]
      exact hfront
    · exact fun c hc => List.mem_takeWhile_imp hc
    · exact fun c hc => List.mem_takeWhile_imp (List.mem_reverse.mp hc)
  · intro c hc
    -- the first character of what remains is the first one that is not blank
    rw [trimBlanks, String.toList_ofList, ← hrest] at hc
    have hfirst : rest.head? = some c := by
      rw [hback, List.head?_append, hc]
      rfl
    exact not_isBlank_of_head?_dropWhile hfirst
  · intro c hc
    rw [trimBlanks, String.toList_ofList, List.getLast?_reverse] at hc
    exact not_isBlank_of_head?_dropWhile hc

end Text

/-! ### Identifiers -/

/-- An identifier without the mark of a raw one. -/
def withoutRawMark : List Char → List Char
  | 'r' :: '#' :: cs => cs
  | cs => cs

theorem dropRawMarks_of_isIdent {cs : List Char} (h : Text.isIdent cs = true) :
    dropRawMarks cs = cs := by
  unfold dropRawMarks
  split
  · next rest =>
    obtain ⟨-, hrest⟩ := Text.isIdent_cons.mp h
    have hmark : Text.isIdentRest '#' = true := hrest '#' List.mem_cons_self
    have hnot : Text.isIdentRest '#' = false := by decide +kernel
    rw [hnot] at hmark
    cases hmark
  · rfl

theorem isIdent_of_checkPlainIdent {cs : List Char} (h : Text.checkPlainIdent cs = .ok ()) :
    Text.isIdent cs = true := by
  unfold Text.checkPlainIdent at h
  split at h
  · cases h
  · split at h
    · cases h
    · split at h
      · assumption
      · cases h

/-- An identifier has one mark at most. -/
theorem dropRawMarks_of_checkIdent {ident : String} (h : Text.checkIdent ident = .ok ()) :
    dropRawMarks ident.toList = withoutRawMark ident.toList := by
  unfold Text.checkIdent at h
  generalize ident.toList = cs at h ⊢
  split at h
  · next rest =>
    cases hplain : Text.checkPlainIdent rest with
    | error e =>
      rw [hplain] at h
      cases h
    | ok u => exact dropRawMarks_of_isIdent (isIdent_of_checkPlainIdent hplain)
  · next hraw =>
    have hplain : withoutRawMark cs = cs := by
      unfold withoutRawMark
      split
      · exact absurd rfl (hraw _)
      · rfl
    rw [hplain]
    exact dropRawMarks_of_isIdent (isIdent_of_checkPlainIdent h)

/-! ### Marked fields -/

section Fields

variable {τ : Type}

namespace FieldDecl

variable (f : FieldDecl τ)

/-- What the mark of a field says. -/
def markBody : AttributeBody := (f.mark?.map (·.body)).getD .word

/-- The name of the option: the one that the mark gives, or else the identifier without the mark of
a raw one and with dashes for underscores. -/
def givenName : String :=
  (f.markBody.textFor? "name").getD
    (String.ofList ((withoutRawMark f.ident.toList).map fun c => if c = '_' then '-' else c))

end FieldDecl

/-- The documentation in the attributes: their trimmed texts that are not empty, joined by single
spaces. -/
def Documents (attributes : List Attribute) (text : String) : Prop :=
  ∃ lines, List.Forall₂ Text.Trims (attributes.filterMap Attribute.docText?) lines ∧
    text = " ".intercalate (lines.filter (· ≠ ""))

/-- The option is the one of this field.  Its description is the one that the mark gives, even an
empty one, or else the documentation. -/
structure FieldDecl.Yields (f : FieldDecl τ) (o : OptionDecl τ) : Prop where
  field : o.field = f.ident
  type : o.type = f.type
  name : o.name = f.givenName
  described : ∀ text, f.markBody.textFor? "description" = some text → o.description = text
  documented : f.markBody.textFor? "description" = none → Documents f.attributes o.description

/-- A name that an option may have. -/
def IsOptionName (name : String) : Prop :=
  name ≠ "" ∧ ∀ c ∈ name.toList, Text.isBlank c = false

theorem validName_iff {name : String} : validName name = true ↔ IsOptionName name := by
  simp [validName, IsOptionName]

/-- A field as it can be described: its identifier is one, and if it is marked, then with well-formed
arguments. -/
structure FieldDecl.WellFormed (f : FieldDecl τ) : Prop where
  ident : Text.checkIdent f.ident = .ok ()
  mark : f.markBody.WellFormed

theorem docs?_getD (attributes : List Attribute) :
    (Attribute.docs? attributes).getD "" = " ".intercalate (Attribute.docLines attributes) := by
  unfold Attribute.docs?
  cases Attribute.docLines attributes <;> rfl

theorem documents_docs? (attributes : List Attribute) :
    Documents attributes ((Attribute.docs? attributes).getD "") := by
  refine ⟨(attributes.filterMap Attribute.docText?).map Text.trimBlanks, ?_, ?_⟩
  · rw [List.forall₂_map_right_iff, List.forall₂_same]
    exact fun s _ => Text.trims_trimBlanks s
  · rw [docs?_getD, Attribute.docLines]
    refine congrArg _ (List.filter_congr fun s _ => ?_)
    by_cases hs : s = "" <;> simp [hs]

variable {f : FieldDecl τ} {o : OptionDecl τ} {taken : List String} {fields : List (FieldDecl τ)}
  {options : List (OptionDecl τ)}

/-- The fields that are marked as options, in declaration order. -/
def markedFields (fields : List (FieldDecl τ)) : List (FieldDecl τ) :=
  fields.filter (·.mark?.isSome)

theorem markedFields_cons_of_marked (hmark : f.mark?.isSome) :
    markedFields (f :: fields) = f :: markedFields fields := by
  simp [markedFields, hmark]

theorem markedFields_cons_of_unmarked (hmark : ¬ f.mark?.isSome) :
    markedFields (f :: fields) = markedFields fields := by
  simp [markedFields, Option.not_isSome_iff_eq_none.mp hmark]

theorem FieldDecl.markBody_eq {mark : Attribute} (h : f.mark? = some mark) :
    f.markBody = mark.body := by
  rw [markBody, h]
  rfl

/-- The description is the one that the mark gives, or else the documentation, or else empty. -/
theorem FieldDecl.Declares.description (h : f.Declares o) :
    o.description =
      (f.markBody.textFor? "description").getD ((Attribute.docs? f.attributes).getD "") := by
  obtain ⟨mark, args, hmark, hargs, rfl⟩ := h
  obtain ⟨-, rfl⟩ := AttributeBody.optionArguments_eq_ok_iff.mp hargs
  rw [markBody_eq hmark]
  cases mark.body.textFor? "description" <;> simp [declared]

/-- What a field declares is its option. -/
theorem FieldDecl.Declares.yields (hf : f.WellFormed) (h : f.Declares o) : f.Yields o := by
  have hdescription := h.description
  obtain ⟨mark, args, hmark, hargs, rfl⟩ := h
  obtain ⟨-, rfl⟩ := AttributeBody.optionArguments_eq_ok_iff.mp hargs
  refine ⟨rfl, rfl, ?_, fun text htext => ?_, fun hnone => ?_⟩
  · rw [givenName, markBody_eq hmark, ← dropRawMarks_of_checkIdent hf.ident]
    rfl
  · rw [hdescription, htext]
    rfl
  · rw [hdescription, hnone]
    exact documents_docs? f.attributes

/-- A marked field declares an option, which is collected unless its name is invalid or taken. -/
theorem collectOptions_cons_of_marked (hf : f.WellFormed) (hmark : f.mark?.isSome) :
    ∃ o, f.Yields o ∧ ∀ taken fields, collectOptions taken (f :: fields) =
      if ¬ validName f.givenName then .error [.invalidName f.givenName]
      else if f.givenName ∈ taken then .error [.repeatedName f.givenName]
      else (collectOptions (f.givenName :: taken) fields).map (o :: ·) := by
  obtain ⟨mark, hm⟩ := Option.isSome_iff_exists.mp hmark
  have hargs := AttributeBody.optionArguments_eq_ok_iff.mpr
    ⟨FieldDecl.markBody_eq hm ▸ hf.mark, rfl⟩
  have hyields : f.Yields (f.declared _) := FieldDecl.Declares.yields hf ⟨mark, _, hm, hargs, rfl⟩
  refine ⟨_, hyields, fun taken fields => ?_⟩
  simp only [collectOptions, hm, hargs, hyields.name, Bool.not_eq_true', Bool.not_eq_true]

theorem collectOptions_cons_of_unmarked (hmark : ¬ f.mark?.isSome) :
    collectOptions taken (f :: fields) = collectOptions taken fields := by
  rw [collectOptions, Option.not_isSome_iff_eq_none.mp hmark]

/-- Well-formed fields are accepted iff the names of the marked ones are valid, distinct and not
taken. -/
theorem exists_collectOptions_iff (hfields : ∀ f ∈ fields, f.WellFormed) :
    (∃ options, collectOptions taken fields = .ok options) ↔
      (∀ f ∈ markedFields fields, IsOptionName f.givenName ∧ f.givenName ∉ taken) ∧
        ((markedFields fields).map (·.givenName)).Nodup := by
  induction fields generalizing taken with
  | nil => simp [collectOptions, markedFields]
  | cons f fields ih =>
    obtain ⟨hf, hfields⟩ := List.forall_mem_cons.mp hfields
    by_cases hmark : f.mark?.isSome
    · obtain ⟨o, -, hcollect⟩ := collectOptions_cons_of_marked hf hmark
      rw [hcollect, markedFields_cons_of_marked hmark, List.forall_mem_cons, List.map_cons,
        List.nodup_cons, ← validName_iff]
      by_cases hname : validName f.givenName
      · by_cases htaken : f.givenName ∈ taken
        · simp [hname, htaken]
        · have hmap : (∃ options, (collectOptions (f.givenName :: taken) fields).map (o :: ·) =
              .ok options) ↔ ∃ options, collectOptions (f.givenName :: taken) fields = .ok options := by
            cases collectOptions (f.givenName :: taken) fields <;> simp [Except.map]
          rw [if_neg (not_not.mpr hname), if_neg htaken, hmap, ih hfields]
          simp only [List.mem_cons, not_or, List.mem_map, not_exists, not_and]
          constructor
          · rintro ⟨hrest, honce⟩
            exact ⟨⟨⟨hname, htaken⟩, fun g hg => ⟨(hrest g hg).1, (hrest g hg).2.2⟩⟩,
              fun g hg => (hrest g hg).2.1, honce⟩
          · rintro ⟨⟨-, hrest⟩, hfresh, honce⟩
            exact ⟨fun g hg => ⟨(hrest g hg).1, hfresh g hg, (hrest g hg).2⟩, honce⟩
      · simp [hname]
    · rw [collectOptions_cons_of_unmarked hmark, markedFields_cons_of_unmarked hmark]
      exact ih hfields

/-- Accepted fields have their options. -/
theorem yields_of_collectOptions (hfields : ∀ f ∈ fields, f.WellFormed)
    (h : collectOptions taken fields = .ok options) :
    List.Forall₂ FieldDecl.Yields (markedFields fields) options := by
  have hmarked : ∀ f ∈ markedFields fields, f.WellFormed := fun f hf =>
    hfields f (List.mem_filter.mp hf).1
  have hdeclares := forall₂_declares_of_collectOptions h
  rw [← markedFields] at hdeclares
  clear h hfields
  generalize markedFields fields = marked at hmarked hdeclares ⊢
  induction hdeclares with
  | nil => exact .nil
  | cons hd _ ih =>
    obtain ⟨hf, hmarked⟩ := List.forall_mem_cons.mp hmarked
    exact .cons (hd.yields hf) (ih hmarked)

/-- The complaint about a name after these names. -/
inductive NameComplaint (earlier : List String) (name : String) : List DeclarationError → Prop
  | invalid (h : ¬ IsOptionName name) : NameComplaint earlier name [.invalidName name]
  | repeated (h : IsOptionName name) (hmem : name ∈ earlier) :
    NameComplaint earlier name [.repeatedName name]

/-- The complaint is about the first of the fields whose name is invalid, taken or that of an earlier
field. -/
def FirstComplaint (taken : List String) (marked : List (FieldDecl τ))
    (errors : List DeclarationError) : Prop :=
  ∃ before f after, marked = before ++ f :: after ∧
    (∀ g ∈ before, IsOptionName g.givenName ∧ g.givenName ∉ taken) ∧
    (before.map (·.givenName)).Nodup ∧
    NameComplaint (before.map (·.givenName) ++ taken) f.givenName errors

namespace FirstComplaint

variable {errors : List DeclarationError}

theorem head (h : NameComplaint taken f.givenName errors) : FirstComplaint taken (f :: fields) errors :=
  ⟨[], f, fields, rfl, by simp, by simp, h⟩

theorem cons (hname : IsOptionName f.givenName) (hnew : f.givenName ∉ taken)
    (h : FirstComplaint (f.givenName :: taken) fields errors) :
    FirstComplaint taken (f :: fields) errors := by
  obtain ⟨before, g, after, rfl, hbefore, honce, hcomplaint⟩ := h
  refine ⟨f :: before, g, after, rfl, ?_, ?_, ?_⟩
  · refine List.forall_mem_cons.mpr ⟨⟨hname, hnew⟩, fun b hb => ?_⟩
    obtain ⟨hb, hfresh⟩ := hbefore b hb
    exact ⟨hb, fun hmem => hfresh (List.mem_cons_of_mem _ hmem)⟩
  · rw [List.map_cons, List.nodup_cons]
    refine ⟨fun hmem => ?_, honce⟩
    obtain ⟨b, hb, hsame⟩ := List.mem_map.mp hmem
    exact (hbefore b hb).2 (hsame ▸ List.mem_cons_self)
  · cases hcomplaint with
    | invalid hg => exact .invalid hg
    | repeated hg hmem => exact .repeated hg (by simpa [or_left_comm] using hmem)

end FirstComplaint

/-- Fields that are refused get the complaint about the first bad name. -/
theorem firstComplaint_of_collectOptions {errors : List DeclarationError}
    (hfields : ∀ f ∈ fields, f.WellFormed) (h : collectOptions taken fields = .error errors) :
    FirstComplaint taken (markedFields fields) errors := by
  induction fields generalizing taken with
  | nil => cases h
  | cons f fields ih =>
    obtain ⟨hf, hfields⟩ := List.forall_mem_cons.mp hfields
    by_cases hmark : f.mark?.isSome
    · obtain ⟨o, -, hcollect⟩ := collectOptions_cons_of_marked hf hmark
      rw [hcollect] at h
      rw [markedFields_cons_of_marked hmark]
      split at h
      · next hname =>
        rw [validName_iff] at hname
        cases h
        exact .head (.invalid hname)
      · next hname =>
        rw [not_not, validName_iff] at hname
        split at h
        · next htaken =>
          cases h
          exact .head (.repeated hname htaken)
        · next htaken =>
          refine .cons hname htaken (ih hfields ?_)
          cases hrest : collectOptions (f.givenName :: taken) fields with
          | ok options =>
            rw [hrest] at h
            cases h
          | error errors' =>
            rw [hrest] at h
            exact h
    · rw [collectOptions_cons_of_unmarked hmark] at h
      rw [markedFields_cons_of_unmarked hmark]
      exact ih hfields h

end Fields

/-! ### Structs -/

section Structs

variable {τ : Type}

/-- A struct as it can be described, with named fields. -/
structure StructDecl.WellFormed (d : StructDecl τ) : Prop where
  named : d.shape = .named
  fields : ∀ f ∈ d.fields, f.WellFormed

/-- The marked fields of a struct. -/
def StructDecl.marked (d : StructDecl τ) : List (FieldDecl τ) := markedFields d.fields

theorem StructDecl.options_of_named {d : StructDecl τ} (h : d.shape = .named) :
    d.options = collectOptions [] d.fields := by
  rw [options, shapeError?, h]

/-- **Well-named structs are accepted.**  Options are derived from a struct iff the names of its
marked fields are names that options may have, no two of them the same.  The options are then those
of the marked fields, in declaration order.  Otherwise the complaint is about the first marked field
whose name is invalid or that of an earlier one, and if both are so, that it is invalid. -/
theorem options_of_well_named {d : StructDecl τ} (hd : d.WellFormed) :
    ((∃ options, d.options = .ok options) ↔
      (∀ f ∈ d.marked, IsOptionName f.givenName) ∧ (d.marked.map (·.givenName)).Nodup) ∧
    (∀ options, d.options = .ok options → List.Forall₂ FieldDecl.Yields d.marked options) ∧
    ∀ errors, d.options = .error errors → ∃ before f after, d.marked = before ++ f :: after ∧
      (∀ g ∈ before, IsOptionName g.givenName) ∧ (before.map (·.givenName)).Nodup ∧
      NameComplaint (before.map (·.givenName)) f.givenName errors := by
  rw [StructDecl.options_of_named hd.named, StructDecl.marked]
  refine ⟨?_, fun options h => yields_of_collectOptions hd.fields h, fun errors h => ?_⟩
  · rw [exists_collectOptions_iff hd.fields]
    simp
  · obtain ⟨before, f, after, hsplit, hbefore, honce, hcomplaint⟩ :=
      firstComplaint_of_collectOptions hd.fields h
    rw [List.append_nil] at hcomplaint
    exact ⟨before, f, after, hsplit, fun g hg => (hbefore g hg).1, honce, hcomplaint⟩

section Sample

/-- A field without an option, a raw identifier with an empty description, documentation with a blank
line, and a name that is given and clashes with a converted one. -/
def clashingStruct : StructDecl String where
  shape := .named
  fields :=
    [⟨"hidden", "u8", [⟨"doc", .assign (.text "Not an option.")⟩]⟩,
      ⟨"r#type", "String", [⟨"doc", .assign (.text "Unused.")⟩,
        ⟨"option", .list [.assign "description" (.text "")]⟩]⟩,
      ⟨"a_b", "u8", [⟨"doc", .assign (.text " First ")⟩, ⟨"doc", .assign (.text " ")⟩,
        ⟨"option", .word⟩, ⟨"doc", .assign (.text "second.")⟩]⟩,
      ⟨"c", "u8", [⟨"option", .list [.assign "name" (.text "a-b")]⟩]⟩,
      ⟨"d", "u8", [⟨"option", .list [.assign "name" (.text "")]⟩]⟩]

theorem options_of_well_named_clashing :
    clashingStruct.WellFormed ∧
      clashingStruct.marked.map (·.givenName) = ["type", "a-b", "a-b", ""] ∧
      clashingStruct.options = .error [.repeatedName "a-b"] ∧
      (¬ ∃ options, clashingStruct.options = .ok options) ∧
      ∃ before f after, clashingStruct.marked = before ++ f :: after ∧
        (∀ g ∈ before, IsOptionName g.givenName) ∧ (before.map (·.givenName)).Nodup ∧
        NameComplaint (before.map (·.givenName)) f.givenName [.repeatedName "a-b"] := by
  have hwell : clashingStruct.WellFormed := by
    have hidents : ∀ f ∈ clashingStruct.fields, Text.checkIdent f.ident = .ok () := by
      decide +kernel
    refine ⟨rfl, fun f hf => ⟨hidents f hf, ?_⟩⟩
    simp only [clashingStruct, List.mem_cons, List.not_mem_nil, or_false] at hf
    rcases hf with rfl | rfl | rfl | rfl | rfl <;>
      exact (AttributeBody.optionArguments_eq_ok_iff.mp rfl).1
  have hoptions : clashingStruct.options = .error [.repeatedName "a-b"] := by rfl
  obtain ⟨haccepted, -, hrefused⟩ := options_of_well_named hwell
  refine ⟨hwell, by rfl, hoptions, ?_, hrefused _ hoptions⟩
  rintro ⟨options, h⟩
  rw [hoptions] at h
  cases h

end Sample

end Structs

end ObjectAssembly
