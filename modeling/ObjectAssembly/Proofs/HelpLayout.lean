import ObjectAssembly.Proofs.Lines
import Mathlib.Data.List.Forall2

/-!
# HelpLayout — the columns of a help text

Options whose names, labels and descriptions have no line feeds get one line each, in their order.
The descriptions start in one column, two past the longest head of the list.
-/

namespace ObjectAssembly

open Text

/-! ### The longest head -/

section Width

variable {infos : List OptionInfo} {i : OptionInfo}

theorem headWidth_eq (infos : List OptionInfo) :
    headWidth infos = (infos.map (·.head.length)).max?.getD 0 := by
  rw [headWidth, List.foldl_max, Nat.zero_max]

theorem length_head_le (h : i ∈ infos) : i.head.length ≤ headWidth infos := by
  rw [headWidth_eq]
  exact List.le_max?_getD_of_mem (List.mem_map_of_mem h)

/-- The longest head is that of an option. -/
theorem exists_head_length (h : infos ≠ []) : ∃ i ∈ infos, i.head.length = headWidth infos := by
  have hsome : (infos.map (·.head.length)).max?.isSome := by simpa using h
  obtain ⟨m, hm⟩ := Option.isSome_iff_exists.mp hsome
  obtain ⟨i, hi, hlength⟩ := List.mem_map.mp (List.max?_mem hm)
  exact ⟨i, hi, by rw [hlength, headWidth_eq, hm, Option.getD_some]⟩

end Width

/-! ### Lines -/

/-- A line for an option: it starts with four spaces, two dashes, the name, a space and the label,
with dots behind the label of a collection.  Without a description nothing follows, else spaces up to
the column of the descriptions, and the description. -/
structure HelpLine (column : Nat) (i : OptionInfo) (line : String) : Prop where
  head : ∃ rest, line =
    "    --" ++ i.name ++ " " ++ i.typeLabel ++ (if i.collection then "..." else "") ++ rest
  bare : i.description = "" → line = i.head
  described : i.description ≠ "" → ∃ blanks, line = i.head ++ blanks ++ i.description ∧
    (∀ c ∈ blanks.toList, c = ' ') ∧ (i.head ++ blanks).length = column

/-- The texts that are told about an option have no line feeds. -/
structure OptionInfo.IsPlain (i : OptionInfo) : Prop where
  name : IsLine i.name
  typeLabel : IsLine i.typeLabel
  description : IsLine i.description

section Lines

variable {i : OptionInfo} {width : Nat} {infos : List OptionInfo}

theorem line_of_bare (h : i.description = "") (width : Nat) : i.line width = i.head :=
  if_pos (String.isEmpty_iff.mpr h)

/-- Between a head and its description there are as many spaces as the head is shorter than the
longest one, and two more. -/
theorem line_of_described (h : i.description ≠ "") (width : Nat) :
    ∃ blanks, i.line width = i.head ++ blanks ++ i.description ∧ (∀ c ∈ blanks.toList, c = ' ') ∧
      blanks.length = width - i.head.length + 2 := by
  refine ⟨String.ofList (List.replicate (width - i.head.length) ' ') ++ "  ", ?_, ?_, ?_⟩
  · rw [OptionInfo.line, if_neg fun hempty => h (String.isEmpty_iff.mp hempty)]
    simp only [String.append_assoc]
  · intro c hc
    simp only [String.toList_append, String.toList_ofList, List.mem_append] at hc
    rcases hc with hc | hc
    · exact List.eq_of_mem_replicate hc
    · simpa using hc
  · rw [String.length_append, String.length_ofList, List.length_replicate]
    rfl

theorem helpLine_line (h : i.head.length ≤ width) : HelpLine (width + 2) i (i.line width) := by
  by_cases hd : i.description = ""
  · have hline := line_of_bare hd width
    refine ⟨⟨"", ?_⟩, fun _ => hline, fun hne => absurd hd hne⟩
    rw [hline, String.append_empty]
    rfl
  · obtain ⟨blanks, hline, hspaces, hlength⟩ := line_of_described hd width
    refine ⟨⟨blanks ++ i.description, ?_⟩, fun hbare => absurd hbare hd, fun _ =>
      ⟨blanks, hline, hspaces, ?_⟩⟩
    · simp only [hline, OptionInfo.head, String.append_assoc]
    · rw [String.length_append]
      omega

theorem OptionInfo.isLine_head (hname : IsLine i.name) (hlabel : IsLine i.typeLabel) :
    IsLine i.head := by
  have hdots : IsLine (if i.collection then "..." else "") := by
    split <;> decide
  simp only [head, isLine_append]
  exact ⟨⟨⟨⟨by decide, hname⟩, by decide⟩, hlabel⟩, hdots⟩

theorem OptionInfo.IsPlain.isLine_line (h : i.IsPlain) (width : Nat) : IsLine (i.line width) := by
  have hhead := isLine_head h.name h.typeLabel
  by_cases hd : i.description = ""
  · rwa [line_of_bare hd]
  · obtain ⟨blanks, hline, hspaces, -⟩ := line_of_described hd width
    have hblanks : IsLine blanks := fun hmem => absurd (hspaces _ hmem) (by decide)
    rw [hline, isLine_append, isLine_append]
    exact ⟨⟨hhead, hblanks⟩, h.description⟩

/-- Plain options get one line each. -/
theorem lines_optionHelp (h : ∀ i ∈ infos, i.IsPlain) :
    Text.lines (optionHelp infos) = helpLines infos := by
  refine lines_unlines fun line hline => ?_
  obtain ⟨i, hi, rfl⟩ := List.mem_map.mp hline
  exact (h i hi).isLine_line _

theorem forall₂_helpLine (infos : List OptionInfo) :
    List.Forall₂ (HelpLine (headWidth infos + 2)) infos (helpLines infos) := by
  rw [helpLines, List.forall₂_map_right_iff, List.forall₂_same]
  exact fun i hi => helpLine_line (length_head_le hi)

/-- **Help texts are aligned.**  Options whose texts have no line feeds get one line each, in their
order, and their descriptions start in one column, which is two past the longest head.  The text is
empty iff there are no options. -/
theorem help_aligned {infos : List OptionInfo} (h : ∀ i ∈ infos, i.IsPlain) :
    (∃ column, List.Forall₂ (HelpLine column) infos (Text.lines (optionHelp infos)) ∧
      (∀ i ∈ infos, i.head.length + 2 ≤ column) ∧
      (infos ≠ [] → ∃ i ∈ infos, i.head.length + 2 = column)) ∧
    (optionHelp infos = "" ↔ infos = []) := by
  refine ⟨⟨headWidth infos + 2, ?_, fun i hi => ?_, fun hne => ?_⟩, ?_⟩
  · rw [lines_optionHelp h]
    exact forall₂_helpLine infos
  · exact Nat.add_le_add_right (length_head_le hi) 2
  · obtain ⟨i, hi, hlength⟩ := exists_head_length hne
    exact ⟨i, hi, by rw [hlength]⟩
  · rw [optionHelp, unlines_eq_empty_iff, helpLines, List.map_eq_nil_iff]

section Sample

/-- A name beyond ASCII, a longest head without a description, and a collection. -/
def sampleInfos : List OptionInfo :=
  [⟨"größe", "Size.", "integer", false⟩, ⟨"max-connections", "", "integer", true⟩,
    ⟨"tag", "Tags, 説明.", "string", true⟩]

theorem help_aligned_sample :
    (∀ i ∈ sampleInfos, i.IsPlain) ∧
      Text.lines (optionHelp sampleInfos) =
        ["    --größe integer               Size.",
          "    --max-connections integer...",
          "    --tag string...               Tags, 説明."] ∧
      (∃ column, List.Forall₂ (HelpLine column) sampleInfos (Text.lines (optionHelp sampleInfos)) ∧
        (∀ i ∈ sampleInfos, i.head.length + 2 ≤ column) ∧
        (sampleInfos ≠ [] → ∃ i ∈ sampleInfos, i.head.length + 2 = column)) ∧
      (optionHelp sampleInfos = "" ↔ sampleInfos = []) := by
  have hplain : ∀ i ∈ sampleInfos, i.IsPlain := by
    simp only [sampleInfos, List.mem_cons, List.not_mem_nil, or_false]
    rintro i (rfl | rfl | rfl) <;> exact ⟨by decide, by decide, by decide⟩
  exact ⟨hplain, by decide +kernel, help_aligned hplain⟩

end Sample

end Lines

end ObjectAssembly
