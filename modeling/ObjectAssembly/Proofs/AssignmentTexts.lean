import ObjectAssembly.CommandLine.Program
import ObjectAssembly.Proofs.Copying
import ObjectAssembly.Proofs.DocumentedHelp

/-!
# AssignmentTexts — an assignment on a command line reaches the log

An option may have any name that is not empty and has no blanks, and a command line cuts an assignment
at its first equals sign.  So the text of an assignment is read as this assignment iff its name has no
equals sign.  Then it can be given in one word with the flag; and in a word of its own, unless this
looks like a flag itself.  The definition that is materialized has the assignments at the end of its
log, in the order of the line.
-/

namespace ObjectAssembly

/-- Some declared type has an option of this name. -/
def Declarable (name : String) : Prop :=
  ∃ (d : StructDecl FieldType) (options : List (OptionDecl FieldType)),
    d.options = .ok options ∧ ∃ o ∈ options, o.name = name

theorem declarable_iff {name : String} : Declarable name ↔ IsOptionName name := by
  constructor
  · rintro ⟨d, options, h, o, ho, rfl⟩
    exact validName_iff.mp (validName_of_collectOptions (collectOptions_of_options h) o ho)
  · intro hname
    let mark : Attribute := ⟨"option", .list [.assign "name" (.text name)]⟩
    let f : FieldDecl FieldType := ⟨"field", ⟨.single, .text⟩, [mark]⟩
    let args : OptionArguments := ⟨some name, none⟩
    have hdeclares : f.Declares (f.declared args) := ⟨mark, args, rfl, rfl, rfl⟩
    refine ⟨⟨.named, [f]⟩, [f.declared args], ?_, _, List.mem_singleton.mpr rfl, rfl⟩
    exact collectOptions_cons_ok_iff.mpr
      (.inr ⟨_, [], hdeclares, validName_iff.mpr hname, List.not_mem_nil, rfl, rfl⟩)

namespace CommandLine

/-! ### Texts -/

/-- The text of an assignment. -/
def assignmentText (a : Assignment) : String := a.name ++ "=" ++ a.value

theorem toList_assignmentText (a : Assignment) :
    (assignmentText a).toList = a.name.toList ++ '=' :: a.value.toList := by
  simp [assignmentText]

/-- An assignment is read from its text, if its name is not empty and has no equals sign, and from no
other text. -/
theorem parseAssignment_eq_ok_iff {raw : String} {a : Assignment} :
    parseAssignment raw = .ok a ↔
      raw = assignmentText a ∧ a.name ≠ "" ∧ '=' ∉ a.name.toList := by
  have hsplit : raw.toList.takeWhile (· ≠ '=') ++ raw.toList.dropWhile (· ≠ '=') = raw.toList :=
    List.takeWhile_append_dropWhile
  have hname : '=' ∉ raw.toList.takeWhile (· ≠ '=') := fun h => by
    simpa using List.mem_takeWhile_imp h
  unfold parseAssignment
  constructor
  · intro h
    cases hdrop : raw.toList.dropWhile (· ≠ '=') with
    | nil =>
      simp only [hdrop] at h
      cases h
    | cons c value =>
      have hc : c = '=' := by
        have hhead := List.head?_dropWhile_not (· ≠ '=') raw.toList
        rw [hdrop] at hhead
        simpa using hhead
      rw [hdrop, hc] at hsplit
      simp only [hdrop] at h
      split at h
      · cases h
      · next hempty =>
        cases h
        refine ⟨?_, ?_, ?_⟩
        · rw [← String.toList_inj, toList_assignmentText, String.toList_ofList,
            String.toList_ofList, hsplit]
        · simpa using hempty
        · rwa [String.toList_ofList]
  · rintro ⟨rfl, hne, hfree⟩
    have hall : ∀ c ∈ a.name.toList, decide (c ≠ '=') = true := fun c hc =>
      decide_eq_true fun heq => hfree (heq ▸ hc)
    rw [toList_assignmentText, List.takeWhile_append_of_pos hall, List.dropWhile_append_of_pos hall]
    simp [hne]

/-- A text is read as the assignment that it spells out iff the name has no equals sign. -/
theorem parseAssignment_text_iff {a : Assignment} (h : Declarable a.name) :
    parseAssignment (assignmentText a) = .ok a ↔ '=' ∉ a.name.toList := by
  have hne := (declarable_iff.mp h).1
  rw [parseAssignment_eq_ok_iff]
  exact ⟨fun h => h.2.2, fun h => ⟨rfl, hne, h⟩⟩

/-! ### Words -/

/-- An assignment as a command line gives it: in one word with the flag, or in the word after it. -/
structure Given where
  assignment : Assignment
  joined : Bool

namespace Given

def words (g : Given) : List String :=
  if g.joined then ["--set=" ++ assignmentText g.assignment]
  else ["--set", assignmentText g.assignment]

/-- The words can be read: the text of the assignment is cut behind its name, and does not look like
a flag if it is a word of its own. -/
structure Legible (g : Given) : Prop where
  cut : '=' ∉ g.assignment.name.toList
  dashless : g.joined = false → g.assignment.name.toList.head? ≠ some '-'

end Given

theorem formOf_joined (text : String) : formOf ("--set=" ++ text) = .long "set" (some text) := by
  simp [formOf]

theorem formOf_eq_plain {arg : String} (h : arg.toList.head? ≠ some '-') : formOf arg = .plain := by
  unfold formOf
  split <;> simp_all

/-! ### Readings -/

namespace Reading

variable {r s : Reading}

/-- Once the value that is pending has been read, this is what has been read; and the next word is not
a value. -/
structure Holds (r s : Reading) : Prop where
  settle : r.settle = .ok s
  ready : r.expectsValue = none
  idle : s.pending = none
  name : r.name = s.name

theorem holds_self (h : r.pending = none) : r.Holds r where
  settle := by rw [Reading.settle, h]
  ready := by rw [expectsValue, h]
  idle := h
  name := rfl

theorem holds_start : start.Holds start := holds_self rfl

/-- A value that is pending will be stored. -/
theorem holds_pending {text : String} {s' : Reading} (hs : s.pending = none)
    (hstore : s.store .assignment text = .ok s') (hidle : s'.pending = none)
    (hname : s.name = s'.name) :
    Holds { s with pending := some (.assignment, some text) } s' := by
  refine ⟨?_, rfl, hidle, hname⟩
  have hsame : { s with pending := none } = s := by rw [← hs]
  simp only [Reading.settle, hsame, hstore]

end Reading

section Command

variable {r s : Reading} {g : Given} {given : List Given} {name : String} {rest : List String}

/-- A value in one word with the flag is stored at once. -/
theorem readCommand_joined {text : String} {s' : Reading} (h : r.Holds s)
    (hstore : s.store .assignment text = .ok s') (rest : List String) :
    readCommand .run false r (("--set=" ++ text) :: rest) = readCommand .run false s' rest := by
  have hflag : dashed .run r (.long "set" (some text)) = .ok s' := by
    show r.option .assignment (some text) = _
    rw [Reading.option, h.settle]
    exact hstore
  rw [readCommand, formOf_joined]
  simp only [hflag]

/-- A value in a word of its own is left pending. -/
theorem readCommand_spaced {text : String} (h : r.Holds s) (hplain : formOf text = .plain)
    (rest : List String) :
    readCommand .run false r ("--set" :: text :: rest) =
      readCommand .run false { s with pending := some (.assignment, some text) } rest := by
  have hflag : dashed .run r (.long "set" none) =
      .ok { s with pending := some (.assignment, none) } := by
    show r.option .assignment none = _
    rw [Reading.option, h.settle]
  rw [readCommand, show formOf "--set" = .long "set" none from rfl]
  simp only [hflag]
  rw [readCommand, hplain]
  rfl

/-- The words of an assignment add it to what has been read. -/
theorem readCommand_words (hdeclarable : Declarable g.assignment.name) (hg : g.Legible)
    (h : r.Holds s) (rest : List String) :
    ∃ r', readCommand .run false r (g.words ++ rest) = readCommand .run false r' rest ∧
      r'.Holds { s with assignments := s.assignments ++ [g.assignment] } := by
  have hstore : s.store .assignment (assignmentText g.assignment) =
      .ok { s with assignments := s.assignments ++ [g.assignment] } := by
    rw [Reading.store, (parseAssignment_text_iff hdeclarable).mpr hg.cut]
  cases hjoined : g.joined with
  | true =>
    rw [Given.words, if_pos hjoined]
    exact ⟨_, readCommand_joined h hstore rest, Reading.holds_self h.idle⟩
  | false =>
    have hplain : formOf (assignmentText g.assignment) = .plain := by
      refine formOf_eq_plain ?_
      rw [toList_assignmentText, List.head?_append_of_ne_nil]
      · exact hg.dashless hjoined
      · simpa using (declarable_iff.mp hdeclarable).1
    rw [Given.words, hjoined, if_neg Bool.false_ne_true]
    exact ⟨_, readCommand_spaced h hplain rest, Reading.holds_pending h.idle hstore h.idle rfl⟩

/-- The words of several assignments add them in order. -/
theorem readCommand_flatMap_words
    (hdeclarable : ∀ g ∈ given, Declarable g.assignment.name) (hg : ∀ g ∈ given, g.Legible)
    (h : r.Holds s) (rest : List String) :
    ∃ r', readCommand .run false r (given.flatMap Given.words ++ rest) =
        readCommand .run false r' rest ∧
      r'.Holds { s with assignments := s.assignments ++ given.map (·.assignment) } := by
  induction given generalizing r s with
  | nil => exact ⟨r, rfl, by simpa using h⟩
  | cons g given ih =>
    obtain ⟨hd, hdeclarable⟩ := List.forall_mem_cons.mp hdeclarable
    obtain ⟨hl, hg⟩ := List.forall_mem_cons.mp hg
    obtain ⟨mid, hmid, hmidHolds⟩ :=
      readCommand_words hd hl h (given.flatMap Given.words ++ rest)
    obtain ⟨r', hr', hholds⟩ := ih hdeclarable hg hmidHolds
    refine ⟨r', ?_, ?_⟩
    · rw [List.flatMap_cons, List.append_assoc, hmid, hr']
    · simpa using hholds

/-- The name of the command's configuration. -/
theorem positional_run (h : r.Holds s) (hs : s.name = none) (name : String) :
    positional .run r name = .ok { s with name := some name } := by
  unfold positional
  rw [h.name, hs, if_pos ⟨rfl, rfl⟩, h.settle]

theorem readCommand_name (h : r.Holds s) (hs : s.name = none) (hplain : formOf name = .plain) :
    readCommand .run false r (name :: rest) =
      readCommand .run false { s with name := some name } rest := by
  rw [readCommand, hplain]
  simp only [h.ready, positional_run h hs]

theorem readCommand_nil (plainOnly : Bool) (h : r.Holds s) (hs : s.name = some name) :
    readCommand .run plainOnly r [] = .ok s := by
  simp [readCommand, h.settle, hs]

/-- After the separator any word is the name. -/
theorem readCommand_separated (h : r.Holds s) (hs : s.name = none) (name : String) :
    readCommand .run false r ["--", name] = .ok { s with name := some name } := by
  have hnamed : Reading.Holds { s with name := some name } { s with name := some name } :=
    Reading.holds_self h.idle
  rw [readCommand, show formOf "--" = .separator from rfl]
  simp only
  rw [readCommand, positional_run h hs]
  exact readCommand_nil true hnamed rfl

/-- What is read behind the command's name is what the command is to do. -/
theorem read_run {inner : Reading} (h : readCommand .run false .start rest = .ok inner) :
    read ("run" :: rest) =
      .ok ⟨inner.level.getD .warn, inner.format.getD .standard, commandOf .run inner⟩ := by
  have hform : formOf "run" = .plain := rfl
  have hhelp : ¬ "run" = "help" := by decide
  rw [read, readTop, hform]
  simp only [Reading.expectsValue, Reading.start, hhelp, if_false, Scope.ofName?]
  rw [← Reading.start, h]
  simp only [Reading.holds_start.settle]
  cases inner.level <;> cases inner.format <;> rfl

/-- A command line gives all assignments that it spells out, wherever the name stands among them. -/
theorem read_words {before after : List Given}
    (hdeclarable : ∀ g ∈ before ++ after, Declarable g.assignment.name)
    (hg : ∀ g ∈ before ++ after, g.Legible) (hplain : formOf name = .plain) :
    read ("run" :: (before.flatMap Given.words ++ name :: after.flatMap Given.words)) =
      .ok ⟨.warn, .standard, .run name ((before ++ after).map (·.assignment))⟩ := by
  rw [List.forall_mem_append] at hdeclarable hg
  obtain ⟨mid, hmid, hmidHolds⟩ := readCommand_flatMap_words hdeclarable.1 hg.1
    Reading.holds_start (name :: after.flatMap Given.words)
  -- the name comes between the two parts of the line
  let named : Reading :=
    { Reading.start with assignments := before.map (·.assignment), name := some name }
  have hnamed : named.Holds named := Reading.holds_self rfl
  obtain ⟨last, hlast, hlastHolds⟩ := readCommand_flatMap_words hdeclarable.2 hg.2 hnamed []
  rw [List.append_nil] at hlast
  have hread : readCommand .run false .start
      (before.flatMap Given.words ++ name :: after.flatMap Given.words) =
        .ok { named with assignments := (before ++ after).map (·.assignment) } := by
    rw [hmid, readCommand_name hmidHolds rfl hplain, List.map_append]
    exact hlast.trans (readCommand_nil false hlastHolds rfl)
  exact read_run hread

theorem read_words_separated (hdeclarable : ∀ g ∈ given, Declarable g.assignment.name)
    (hg : ∀ g ∈ given, g.Legible) (name : String) :
    read ("run" :: (given.flatMap Given.words ++ ["--", name])) =
      .ok ⟨.warn, .standard, .run name (given.map (·.assignment))⟩ := by
  obtain ⟨last, hlast, hlastHolds⟩ := readCommand_flatMap_words hdeclarable hg
    Reading.holds_start ["--", name]
  exact read_run (hlast.trans (readCommand_separated hlastHolds rfl name))

end Command

/-- **An assignment on a command line reaches the log.**  The text of an assignment to an option of a
declared type is read as this assignment iff the name has no equals sign, whatever the value.  Then the
line gives the assignments in its order, those in one word with the flag and those in a word of their
own that does not begin with a dash; and what is materialized is a copy of the definition that has them
at the end of its log. -/
theorem given_assignments_reach_log {given : List Given}
    (hdeclarable : ∀ g ∈ given, Declarable g.assignment.name) :
    (∀ g ∈ given,
      parseAssignment (assignmentText g.assignment) = .ok g.assignment ↔
        '=' ∉ g.assignment.name.toList) ∧
    ((∀ g ∈ given, g.Legible) → ∀ name,
      let assignments := given.map (·.assignment)
      read ("run" :: (given.flatMap Given.words ++ ["--", name])) =
          .ok ⟨.warn, .standard, .run name assignments⟩ ∧
      (∀ before after, given = before ++ after → formOf name = .plain →
        read ("run" :: (before.flatMap Given.words ++ name :: after.flatMap Given.words)) =
          .ok ⟨.warn, .standard, .run name assignments⟩) ∧
      ∀ (catalog : Catalog) (registry : ObjectRegistry) (d : Definition),
        catalog.get? name = some d → d.slots.Grouped →
        let copy : Definition := { d with options := d.options ++ assignments, frozen := false }
        d.withAssignments assignments = .ok copy ∧
        execute catalog registry (.run name assignments) =
          ((copy.materialize registry.get? []).outcome.map Demo.describe).mapError
            .configuration) := by
  refine ⟨fun g hg => parseAssignment_text_iff (hdeclarable g hg), fun hlegible name => ?_⟩
  refine ⟨read_words_separated hdeclarable hlegible name, ?_, ?_⟩
  · rintro before after rfl hplain
    exact read_words hdeclarable hlegible hplain
  · intro catalog registry d hd hgrouped
    have hcopy := Definition.withAssignments_eq hgrouped (given.map (·.assignment))
    refine ⟨hcopy, ?_⟩
    simp only [execute, hd, Demo.run, hcopy]

section Sample

/-- Two assignments, one in words of its own and one in a word with the flag. -/
def portAndTag : List Given := [⟨⟨"port", "9000"⟩, false⟩, ⟨⟨"tag", "a=b"⟩, true⟩]

theorem given_assignments_reach_log_service :
    (∀ g ∈ portAndTag, Declarable g.assignment.name ∧ g.Legible) ∧
      Demo.catalog.get? "service" = some Demo.service ∧ Demo.service.slots.Grouped ∧
      read ["run", "--set", "port=9000", "service", "--set=tag=a=b"] =
        .ok ⟨.warn, .standard, .run "service" [⟨"port", "9000"⟩, ⟨"tag", "a=b"⟩]⟩ ∧
      Demo.service.withAssignments [⟨"port", "9000"⟩, ⟨"tag", "a=b"⟩] =
        .ok { Demo.service with
          options := Demo.service.options ++ [⟨"port", "9000"⟩, ⟨"tag", "a=b"⟩] } := by
  have hdeclarable : ∀ g ∈ portAndTag, Declarable g.assignment.name := by
    simp only [declarable_iff, ← validName_iff]
    decide
  have hlegible : ∀ g ∈ portAndTag, g.Legible := by
    have hcut : ∀ g ∈ portAndTag, '=' ∉ g.assignment.name.toList := by decide
    have hdashless : ∀ g ∈ portAndTag,
        g.joined = false → g.assignment.name.toList.head? ≠ some '-' := by decide
    exact fun g hg => ⟨hcut g hg, hdashless g hg⟩
  have hfound : Demo.catalog.get? "service" = some Demo.service := by rfl
  have hgrouped : Demo.service.slots.Grouped := ⟨by decide, by decide⟩
  obtain ⟨-, hline, hrun⟩ := (given_assignments_reach_log hdeclarable).2 hlegible "service"
  exact ⟨fun g hg => ⟨hdeclarable g hg, hlegible g hg⟩, hfound, hgrouped,
    hline [⟨⟨"port", "9000"⟩, false⟩] [⟨⟨"tag", "a=b"⟩, true⟩] rfl rfl,
    (hrun Demo.catalog ⟨Demo.types⟩ Demo.service hfound hgrouped).1⟩

/-- A declared type with an option whose name has an equals sign and one whose name begins with a
dash. -/
def pairedAndDashed : StructDecl FieldType :=
  ⟨.named, [⟨"pair", ⟨.single, .text⟩, [⟨"option", .list [.assign "name" (.text "a=b")]⟩]⟩,
    ⟨"_x", ⟨.single, .text⟩, [⟨"option", .word⟩]⟩]⟩

/-- The text of an assignment is cut inside such a name, and a word that begins with a dash is a
flag. -/
theorem assignment_cut_inside_name :
    pairedAndDashed.options =
        .ok [⟨"pair", ⟨.single, .text⟩, "a=b", ""⟩, ⟨"_x", ⟨.single, .text⟩, "-x", ""⟩] ∧
      parseAssignment ("a=b" ++ "=" ++ "c") = .ok ⟨"a", "b=c"⟩ ∧
      read ["run", "service", "--set", "a=b=c"] =
        .ok ⟨.warn, .standard, .run "service" [⟨"a", "b=c"⟩]⟩ ∧
      read ["run", "service", "--set", "-x=1"] = .error (.unexpectedArgument "-x") := by
  refine ⟨by rfl, by decide, by decide, by decide⟩

end Sample

end CommandLine

end ObjectAssembly
