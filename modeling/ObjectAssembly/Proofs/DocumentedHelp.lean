import ObjectAssembly.Proofs.DerivedSetting
import ObjectAssembly.Proofs.HelpLayout
import ObjectAssembly.Proofs.OptionNames

/-!
# DocumentedHelp — the help lines of documented options

Documentation is trimmed and joined by spaces, but a line feed inside a single attribute, as a block
comment has them, stays where it is.  So the options of a struct get one line each iff no text of
their documentation has a line feed between characters that are not blank, and each further line feed
makes one line more.
-/

namespace ObjectAssembly

open Text

/-! ### Line feeds inside texts -/

namespace Text

variable {s t : String}

/-- A line feed stands between two characters that are not blank. -/
def InnerBreak (s : String) : Prop :=
  ∃ before after, s.toList = before ++ '\n' :: after ∧ (∃ c ∈ before, isBlank c = false) ∧
    ∃ c ∈ after, isBlank c = false

theorem isBlank_lineFeed : isBlank '\n' = true := by decide

theorem Trims.innerBreak (h : Trims s t) (hmem : '\n' ∈ t.toList) : InnerBreak s := by
  obtain ⟨front, back, hs, -, -⟩ := h.split
  obtain ⟨before, after, ht⟩ := List.append_of_mem hmem
  have hfirst : ∃ c ∈ before, isBlank c = false := by
    cases before with
    | nil =>
      have hblank := h.first '\n' (by rw [ht]; rfl)
      rw [isBlank_lineFeed] at hblank
      cases hblank
    | cons c before => exact ⟨c, List.mem_cons_self, h.first c (by rw [ht]; rfl)⟩
  have hlast : ∃ c ∈ after, isBlank c = false := by
    rcases List.eq_nil_or_concat after with rfl | ⟨init, c, rfl⟩
    · have hblank := h.last '\n' (by simp [ht])
      rw [isBlank_lineFeed] at hblank
      cases hblank
    · exact ⟨c, by simp, h.last c (by simp [ht, List.getLast?_cons])⟩
  obtain ⟨c, hc, hcblank⟩ := hfirst
  obtain ⟨c', hc', hcblank'⟩ := hlast
  refine ⟨front ++ before, after ++ back, by simp [hs, ht], ?_, ?_⟩
  · exact ⟨c, List.mem_append_right _ hc, hcblank⟩
  · exact ⟨c', List.mem_append_left _ hc', hcblank'⟩

theorem Trims.mem_of_innerBreak (h : Trims s t) (hbreak : InnerBreak s) : '\n' ∈ t.toList := by
  obtain ⟨front, back, hs, hfront, hback⟩ := h.split
  obtain ⟨before, after, hs', ⟨c, hc, hcblank⟩, c', hc', hcblank'⟩ := hbreak
  rw [hs', List.append_assoc] at hs
  -- the line feed is neither in the blank front nor in the blank back
  rcases List.append_eq_append_iff.mp hs with ⟨more, hsplit, -⟩ | ⟨more, -, hrest⟩
  · have hblank := hfront c (by rw [hsplit]; exact List.mem_append_left _ hc)
    rw [hcblank] at hblank
    cases hblank
  · rcases List.append_eq_append_iff.mp hrest with ⟨inner, -, htail⟩ | ⟨inner, ht, htail⟩
    · have hblank := hback c' (by rw [htail]; simp [hc'])
      rw [hcblank'] at hblank
      cases hblank
    · cases inner with
      | nil =>
        have hblank := hback c' (by rw [List.nil_append] at htail; rw [← htail]; simp [hc'])
        rw [hcblank'] at hblank
        cases hblank
      | cons d inner =>
        obtain ⟨rfl, -⟩ := List.cons_eq_cons.mp htail
        rw [ht]
        simp

/-- Trimming removes all line feeds but those inside. -/
theorem isLine_trimBlanks_iff : IsLine (trimBlanks s) ↔ ¬ InnerBreak s :=
  not_congr ⟨(trims_trimBlanks s).innerBreak, (trims_trimBlanks s).mem_of_innerBreak⟩

end Text

/-- Documentation is a line iff none of its texts has a line feed inside. -/
theorem isLine_docs?_iff {attributes : List Attribute} :
    IsLine ((Attribute.docs? attributes).getD "") ↔
      ∀ s ∈ attributes.filterMap Attribute.docText?, ¬ InnerBreak s := by
  rw [docs?_getD, isLine_intercalate_iff (by decide)]
  unfold Attribute.docLines
  constructor
  · intro h s hs
    rw [← isLine_trimBlanks_iff]
    by_cases hempty : trimBlanks s = ""
    · rw [hempty]
      decide
    · exact h _ (List.mem_filter.mpr ⟨List.mem_map_of_mem hs, by simpa using hempty⟩)
  · intro h l hl
    obtain ⟨s, hs, rfl⟩ := List.mem_map.mp (List.mem_filter.mp hl).1
    exact isLine_trimBlanks_iff.mpr (h s hs)

/-! ### Derived options -/

section Derived

variable {d : StructDecl FieldType} {options : List (OptionDecl FieldType)}
  {o : OptionDecl FieldType}

/-- What is told about derived options. -/
def derivedInfos (options : List (OptionDecl FieldType)) : List OptionInfo :=
  options.map (·.spec.toOptionInfo)

/-- Each option is described on one line and has one line of the help text, in declaration order. -/
structure OneLineEach (options : List (OptionDecl FieldType)) : Prop where
  description : ∀ o ∈ options, IsLine o.description
  line : ∃ column, List.Forall₂ (HelpLine column) (derivedInfos options)
    (Text.lines (optionHelp (derivedInfos options)))

theorem validName_of_collectOptions {τ : Type} {taken : List String} {fields : List (FieldDecl τ)}
    {options : List (OptionDecl τ)} (h : collectOptions taken fields = .ok options) :
    ∀ o ∈ options, validName o.name = true := by
  induction fields generalizing taken options with
  | nil =>
    cases h
    simp
  | cons f fields ih =>
    rcases collectOptions_cons_ok_iff.mp h with ⟨-, hr⟩ | ⟨o, rest, -, hname, -, hr, rfl⟩
    · exact ih hr
    · exact List.forall_mem_cons.mpr ⟨hname, ih hr⟩

theorem isLine_label (t : FieldType) : IsLine t.label := by
  unfold FieldType.label ScalarType.label
  split <;> decide

/-- Apart from its description, what is told about a derived option has no line feeds. -/
theorem isLine_name_of_options (h : d.options = .ok options) (ho : o ∈ options) : IsLine o.name := by
  have hname := validName_iff.mp (validName_of_collectOptions (collectOptions_of_options h) o ho)
  intro hmem
  have hblank := hname.2 '\n' hmem
  rw [isBlank_lineFeed] at hblank
  cases hblank

theorem oneLineEach_iff (h : d.options = .ok options) :
    OneLineEach options ↔ ∀ o ∈ options, IsLine o.description := by
  refine ⟨fun heach => heach.description, fun hlines =>
    ⟨hlines, headWidth (derivedInfos options) + 2, ?_⟩⟩
  rw [lines_optionHelp]
  · exact forall₂_helpLine _
  · intro i hi
    obtain ⟨o, ho, rfl⟩ := List.mem_map.mp hi
    exact ⟨isLine_name_of_options h ho, isLine_label o.type, hlines o ho⟩

/-- The description of an option is a line iff it is given or no text of the documentation has a line
feed inside. -/
theorem isLine_description_iff {f : FieldDecl FieldType} (hd : f.Declares o)
    (hgiven : ∀ text, f.markBody.textFor? "description" = some text → IsLine text) :
    IsLine o.description ↔ (f.markBody.textFor? "description" = none →
      ∀ s ∈ f.attributes.filterMap Attribute.docText?, ¬ InnerBreak s) := by
  rw [hd.description]
  cases hdescription : f.markBody.textFor? "description" with
  | none => simpa using isLine_docs?_iff
  | some text => simpa using hgiven text hdescription

/-- The line of an option has the line feeds of its description. -/
theorem count_line {i : OptionInfo} (hname : IsLine i.name) (hlabel : IsLine i.typeLabel)
    (width : Nat) : (i.line width).toList.count '\n' = i.description.toList.count '\n' := by
  have hhead : IsLine i.head := OptionInfo.isLine_head hname hlabel
  by_cases hd : i.description = ""
  · rw [line_of_bare hd, hd]
    exact List.count_eq_zero_of_not_mem hhead
  · obtain ⟨blanks, hline, hspaces, -⟩ := line_of_described hd width
    have hblanks : '\n' ∉ blanks.toList := fun hmem => absurd (hspaces _ hmem) (by decide)
    simp only [hline, String.toList_append, List.count_append, List.count_eq_zero_of_not_mem hhead,
      List.count_eq_zero_of_not_mem hblanks, Nat.zero_add]

/-- Each line feed in a description makes one line more. -/
theorem length_lines_of_options (h : d.options = .ok options) :
    (Text.lines (optionHelp (derivedInfos options))).length =
      options.length + (options.map (·.description.toList.count '\n')).sum := by
  have hcounts : (helpLines (derivedInfos options)).map (·.toList.count '\n') =
      options.map (·.description.toList.count '\n') := by
    simp only [helpLines, derivedInfos, List.map_map]
    refine List.map_congr_left fun o ho => ?_
    exact count_line (i := o.spec.toOptionInfo) (isLine_name_of_options h ho) (isLine_label o.type) _
  rw [optionHelp, length_lines_unlines, hcounts, helpLines, List.length_map, derivedInfos,
    List.length_map]

/-- **One help line per option, if no documentation breaks.**  Where options are derived and the
descriptions that are given have no line feeds, each option is described on one line and has one line
of the help text iff no documentation that is used has a text with a line feed between characters that
are not blank.  Each line feed in a description makes one line more. -/
theorem help_line_each_iff (h : d.options = .ok options)
    (hgiven : ∀ f ∈ d.marked, ∀ text, f.markBody.textFor? "description" = some text → IsLine text) :
    (OneLineEach options ↔ ∀ f ∈ d.marked, f.markBody.textFor? "description" = none →
      ∀ s ∈ f.attributes.filterMap Attribute.docText?, ¬ InnerBreak s) ∧
    (Text.lines (optionHelp (derivedInfos options))).length =
      options.length + (options.map (·.description.toList.count '\n')).sum := by
  have hdeclares : List.Forall₂ FieldDecl.Declares d.marked options :=
    forall₂_declares_of_collectOptions (collectOptions_of_options h)
  have hback : List.Forall₂ (flip FieldDecl.Declares) options d.marked := hdeclares.flip
  refine ⟨?_, length_lines_of_options h⟩
  rw [oneLineEach_iff h]
  constructor
  · intro hlines f hf
    obtain ⟨o, ho, hd⟩ := exists_rel_of_mem hdeclares hf
    exact (isLine_description_iff hd (hgiven f hf)).mp (hlines o ho)
  · intro hdocs o ho
    obtain ⟨f, hf, hd⟩ := exists_rel_of_mem hback ho
    exact (isLine_description_iff hd (hgiven f hf)).mpr (hdocs f hf)

section Sample

/-- A documentation text with a line feed inside, one with line feeds at its ends, and one that is not
used. -/
def blockDocumented : StructDecl FieldType where
  shape := .named
  fields :=
    [⟨"port", ⟨.single, .int .u16⟩,
        [⟨"doc", .assign (.text " Port to listen on.\n Defaults to 80. ")⟩, ⟨"option", .word⟩]⟩,
      ⟨"bind", ⟨.single, .text⟩, [⟨"doc", .assign (.text "\nAddress.\n")⟩, ⟨"option", .word⟩]⟩,
      ⟨"color", ⟨.single, .bool⟩, [⟨"doc", .assign (.text "Not\nused.")⟩,
        ⟨"option", .list [.assign "description" (.text "Colorize.")]⟩]⟩]

theorem help_line_each_iff_block :
    ∃ options, blockDocumented.options = .ok options ∧
      (∀ f ∈ blockDocumented.marked, ∀ text, f.markBody.textFor? "description" = some text →
        IsLine text) ∧
      (OneLineEach options ↔ ∀ f ∈ blockDocumented.marked,
        f.markBody.textFor? "description" = none →
          ∀ s ∈ f.attributes.filterMap Attribute.docText?, ¬ InnerBreak s) ∧
      (Text.lines (optionHelp (derivedInfos options))).length =
        options.length + (options.map (·.description.toList.count '\n')).sum ∧
      (Text.lines (optionHelp (derivedInfos options))).length = 4 := by
  have hoptions : blockDocumented.options = .ok _ := rfl
  have hall : ∀ f ∈ blockDocumented.marked,
      ((f.markBody.textFor? "description").all fun text => decide (IsLine text)) = true := by
    decide
  have hgiven : ∀ f ∈ blockDocumented.marked, ∀ text,
      f.markBody.textFor? "description" = some text → IsLine text := by
    intro f hf text htext
    have hline := hall f hf
    rw [htext] at hline
    exact of_decide_eq_true hline
  obtain ⟨hiff, hlength⟩ := help_line_each_iff hoptions hgiven
  exact ⟨_, hoptions, hgiven, hiff, hlength, by decide +kernel⟩

/-- The documentation of one attribute makes two lines of help. -/
theorem help_breaks_documented_line :
    ∃ o, StructDecl.options ⟨.named, [⟨"port", ⟨.single, .int .u16⟩,
        [⟨"doc", .assign (.text "Port to listen on.\nDefaults to 80.")⟩, ⟨"option", .word⟩]⟩]⟩ =
          .ok [o] ∧
      ¬ IsLine o.description ∧
      Text.lines (optionHelp (derivedInfos [o])) =
        ["    --port integer  Port to listen on.", "Defaults to 80."] := by
  refine ⟨_, rfl, by decide +kernel, by decide +kernel⟩

end Sample

end Derived

end ObjectAssembly
