import ObjectAssembly.Declaration.Attribute
import Mathlib.Data.List.Nodup

/-!
# OptionArguments — what the mark of an option says

The arguments of a mark are read one after another, with a complaint about each that is no text for
`name` or `description` or has been met before.  So they are read iff they are well-formed, and each
path has then the one text that is given for it.
-/

namespace ObjectAssembly

/-! ### Arguments of an option -/

/-- Arguments as an option takes them: each gives a text to `name` or to `description`, and neither
of them is given twice. -/
structure WellFormedArguments (arguments : List Argument) : Prop where
  texts : ∀ a ∈ arguments, ∃ path ∈ ["name", "description"], ∃ s, a = .assign path (.text s)
  once : (arguments.map Argument.path?).Nodup

/-- The text that an argument gives to a path. -/
def Argument.textFor? (path : String) : Argument → Option String
  | .assign p (.text s) => if p = path then some s else none
  | _ => none

/-- The mark of an option says nothing more, or it has well-formed arguments. -/
def AttributeBody.WellFormed : AttributeBody → Prop
  | .word => True
  | .list arguments => WellFormedArguments arguments
  | .assign _ | .malformed _ => False

/-- The text that the mark of an option gives to a path. -/
def AttributeBody.textFor? (path : String) : AttributeBody → Option String
  | .list arguments => arguments.findSome? (Argument.textFor? path)
  | _ => none

/-- The text that has been read for a path. -/
def OptionArguments.text? (args : OptionArguments) (path : String) : Option String :=
  if path = "name" then args.name else args.description

namespace ArgumentReading

variable {r : ArgumentReading} {a : Argument} {arguments : List Argument} {path s : String}

/-- A known argument with a text is read unless it has been met. -/
theorem step_of_new (hpath : path ∈ ["name", "description"]) (hnew : path ∉ r.met) :
    (r.step (.assign path (.text s))).errors = r.errors ∧
      (r.step (.assign path (.text s))).met = path :: r.met ∧
      ∀ p ∈ ["name", "description"], (r.step (.assign path (.text s))).read.text? p =
        if p = path then some s else r.read.text? p := by
  have hknown : path = "name" ∨ path = "description" := by simpa using hpath
  rcases hknown with rfl | rfl <;> simp [step, Argument.path?, Argument.string, hnew,
    OptionArguments.text?]

/-- Whatever else an argument is, it is complained about. -/
theorem new_of_step_errors (h : (r.step a).errors = []) :
    r.errors = [] ∧ ∃ path ∈ ["name", "description"], path ∉ r.met ∧
      ∃ s, a = .assign path (.text s) := by
  unfold step at h
  split at h
  · simp [complain] at h
  · next path hpath =>
    split at h
    · simp [complain] at h
    · next hknown =>
      split at h
      · simp [complain] at h
      · next hnew =>
        have hmem : path ∈ ["name", "description"] := by
          simp only [List.mem_cons, List.not_mem_nil, or_false]
          tauto
        cases a with
        | literal => cases hpath
        | word p => simp [Argument.string, complain] at h
        | list p fault => cases fault <;> simp [Argument.string, complain] at h
        | assign p value =>
          cases value with
          | other kind => simp [Argument.string, complain] at h
          | text s =>
            cases hpath
            refine ⟨?_, path, hmem, hnew, s, rfl⟩
            simp only [Argument.string] at h
            split at h <;> exact h

/-- Reading arguments meets no problem iff they are well-formed and new. -/
theorem foldl_step_errors_iff :
    (arguments.foldl step r).errors = [] ↔ r.errors = [] ∧
      (∀ a ∈ arguments, ∃ path ∈ ["name", "description"], path ∉ r.met ∧
        ∃ s, a = .assign path (.text s)) ∧
      (arguments.map Argument.path?).Nodup := by
  induction arguments generalizing r with
  | nil => simp
  | cons a rest ih =>
    rw [List.foldl_cons, ih, List.forall_mem_cons, List.map_cons, List.nodup_cons]
    constructor
    · rintro ⟨herrors, hrest, honce⟩
      obtain ⟨hr, path, hpath, hnew, s, rfl⟩ := new_of_step_errors herrors
      obtain ⟨-, hmet, -⟩ := step_of_new (s := s) hpath hnew
      rw [hmet] at hrest
      refine ⟨hr, ⟨⟨path, hpath, hnew, s, rfl⟩, fun b hb => ?_⟩, ?_, honce⟩
      · obtain ⟨p, hp, hpnew, t, rfl⟩ := hrest b hb
        exact ⟨p, hp, fun hmem => hpnew (List.mem_cons_of_mem _ hmem), t, rfl⟩
      · intro hmem
        obtain ⟨b, hb, hsame⟩ := List.mem_map.mp hmem
        obtain ⟨p, -, hpnew, t, rfl⟩ := hrest b hb
        cases hsame
        exact hpnew List.mem_cons_self
    · rintro ⟨hr, ⟨⟨path, hpath, hnew, s, rfl⟩, hrest⟩, hfresh, honce⟩
      obtain ⟨herrors, hmet, -⟩ := step_of_new (s := s) hpath hnew
      refine ⟨herrors.trans hr, fun b hb => ?_, honce⟩
      obtain ⟨p, hp, hpnew, t, rfl⟩ := hrest b hb
      refine ⟨p, hp, ?_, t, rfl⟩
      rw [hmet, List.mem_cons, not_or]
      refine ⟨?_, hpnew⟩
      rintro rfl
      exact hfresh (List.mem_map.mpr ⟨_, hb, rfl⟩)

/-- What is read of well-formed arguments is what they give. -/
theorem foldl_step_text? (h : (arguments.foldl step r).errors = []) {p : String}
    (hp : p ∈ ["name", "description"]) :
    (arguments.foldl step r).read.text? p =
      (arguments.findSome? (Argument.textFor? p)).or (r.read.text? p) := by
  induction arguments generalizing r with
  | nil => rfl
  | cons a rest ih =>
    rw [List.foldl_cons] at h ⊢
    obtain ⟨herrors, hnew, -⟩ := foldl_step_errors_iff.mp h
    obtain ⟨-, path, hpath, hfresh, s, rfl⟩ := new_of_step_errors herrors
    obtain ⟨-, hmet, hread⟩ := step_of_new (s := s) hpath hfresh
    rw [ih h, hread p hp, List.findSome?_cons, Argument.textFor?]
    by_cases hsame : path = p
    · -- the path is not given again
      have hnone : rest.findSome? (Argument.textFor? p) = none := by
        rw [List.findSome?_eq_none_iff]
        intro b hb
        obtain ⟨q, -, hq, t, rfl⟩ := hnew b hb
        rw [hmet, hsame, List.mem_cons, not_or] at hq
        exact if_neg hq.1
      rw [hnone, if_pos hsame.symm, if_pos hsame]
      rfl
    · rw [if_neg (Ne.symm hsame), if_neg hsame]

theorem errors_eq_nil_iff :
    (arguments.foldl step .start).errors = [] ↔ WellFormedArguments arguments := by
  rw [foldl_step_errors_iff]
  constructor
  · rintro ⟨-, htexts, honce⟩
    refine ⟨fun a ha => ?_, honce⟩
    obtain ⟨path, hpath, -, s, rfl⟩ := htexts a ha
    exact ⟨path, hpath, s, rfl⟩
  · rintro ⟨htexts, honce⟩
    refine ⟨rfl, fun a ha => ?_, honce⟩
    obtain ⟨path, hpath, s, rfl⟩ := htexts a ha
    exact ⟨path, hpath, List.not_mem_nil, s, rfl⟩

theorem read_eq (h : (arguments.foldl step .start).errors = []) :
    (arguments.foldl step .start).read =
      ⟨arguments.findSome? (Argument.textFor? "name"),
        arguments.findSome? (Argument.textFor? "description")⟩ := by
  have hname := foldl_step_text? h (p := "name") (by simp)
  have hdescription := foldl_step_text? h (p := "description") (by simp)
  simp only [OptionArguments.text?, start, if_true, Option.or_none, String.reduceEq, if_false]
    at hname hdescription
  rw [← hname, ← hdescription]
  rfl

end ArgumentReading

/-- **The arguments of an option** are read iff they are well-formed, and then for what they give. -/
theorem AttributeBody.optionArguments_eq_ok_iff {body : AttributeBody} {args : OptionArguments} :
    body.optionArguments = .ok args ↔
      body.WellFormed ∧ args = ⟨body.textFor? "name", body.textFor? "description"⟩ := by
  cases body with
  | word => simp [optionArguments, WellFormed, textFor?, eq_comm]
  | assign value => simp [optionArguments, WellFormed]
  | malformed fault => simp [optionArguments, WellFormed]
  | list arguments =>
    by_cases h : WellFormedArguments arguments
    · have herrors := ArgumentReading.errors_eq_nil_iff.mpr h
      simp only [optionArguments, herrors, List.isEmpty_nil, if_true, Except.ok.injEq,
        ArgumentReading.read_eq herrors, WellFormed, h, textFor?, true_and]
      exact eq_comm
    · have herrors := mt ArgumentReading.errors_eq_nil_iff.mp h
      simp [optionArguments, herrors, WellFormed, h]

end ObjectAssembly
