import ObjectAssembly.Proofs.DerivedSetting

/-!
# FailedBinding — what a failed binding leaves behind

Binding is not atomic.  A log that fails leaves on every target the effects of the entries before
the one that fails.  If no target declares that entry, it leaves nothing; if a target refuses it, the
targets before that one have received the value, the target itself is as its setter has left it, and
the targets after it have not been asked.  The entries after the one that fails do not matter.
-/

namespace ObjectAssembly

open Object

variable {a : Assignment} {o o' : Object} {targets targets' rest : List Object}

/-! ### One object -/

/-- An object that declares the option accepts the value, and any other one stays as it is. -/
def Object.Receives (a : Assignment) (o o' : Object) : Prop :=
  if o.declares a.name then o.setOption a.name a.value = (o', .ok true) else o' = o

theorem Object.takes_iff_receives : Takes a o o' ↔ Receives a o o' := by
  unfold Receives
  cases hd : o.declares a.name with
  | true =>
    rw [if_pos rfl]
    constructor
    · intro h
      rw [h.eq, hd]
    · exact fun h => ⟨true, h⟩
  | false =>
    rw [if_neg Bool.false_ne_true]
    have hsame : o.setOption a.name a.value = (o, .ok false) := setOption_of_not_declares hd
    constructor
    · rintro ⟨accepted, h⟩
      exact (Prod.mk.inj (h.symm.trans hsame)).1
    · rintro rfl
      exact ⟨false, hsame⟩

theorem forall₂_takes_iff :
    List.Forall₂ (Takes a) targets targets' ↔ List.Forall₂ (Receives a) targets targets' :=
  ⟨fun h => h.imp fun _ _ => takes_iff_receives.mp, fun h => h.imp fun _ _ => takes_iff_receives.mpr⟩

/-- An object of a derived class that refuses a value stays as it is. -/
theorem Object.Refuses.unchanged {τ : Type} {parse : τ → String → Except String Scalar}
    {options : List (OptionDecl τ)} {reason : String} (h : o.Refuses a reason)
    (hcls : o.cls.Derives parse options) : (o.setOption a.name a.value).1 = o := by
  unfold Refuses at h
  rw [setOption_of_derives hcls] at h ⊢
  split at h
  · cases h
  · split at h
    · cases h
    · split at h
      · cases h
      · rfl

/-! ### One assignment -/

/-- How an assignment that cannot be bound leaves the targets: untouched if no target declares it,
and otherwise half done, up to the target that refuses it. -/
inductive Fails (a : Assignment) : List Object → List Object → BindError → Prop
  | unknown {targets : List Object} (h : ∀ o ∈ targets, o.declares a.name = false) :
      Fails a targets targets (.unknownOption a.name)
  | invalid {before before' after : List Object} {o : Object} {reason : String}
      (hb : List.Forall₂ (Receives a) before before') (hr : o.Refuses a reason) :
      Fails a (before ++ o :: after) (before' ++ (o.setOption a.name a.value).1 :: after)
        (.invalidValue a.name a.value o.typeName reason)

/-- An offer that a first part of the targets takes goes on with the rest. -/
theorem offer_append_of_takes (h : List.Forall₂ (Takes a) targets targets') :
    offer a (targets ++ rest) = (targets' ++ (offer a rest).1,
      (offer a rest).2.map (· + targets.countP (·.declares a.name))) := by
  induction h with
  | nil =>
    rw [List.nil_append]
    rcases offer a rest with ⟨rest', e | n⟩ <;> rfl
  | @cons o o' targets targets' ht _ ih =>
    rw [List.cons_append, offer_cons_of_takes ht, ih, List.countP_cons]
    rcases offer a rest with ⟨rest', e | n⟩
    · rfl
    · simp [Except.map, Nat.add_assoc]

theorem bindOne_of_fails {e : BindError} (h : Fails a targets targets' e) :
    bindOne a targets = ⟨targets', [], .error e⟩ := by
  cases h with
  | unknown h =>
    have htakes : List.Forall₂ (Takes a) targets targets :=
      List.forall₂_same.mpr fun o ho => ⟨false, setOption_of_not_declares (h o ho)⟩
    have hcount : targets.countP (·.declares a.name) = 0 :=
      List.countP_eq_zero.mpr fun o ho => by simp [h o ho]
    rw [bindOne, offer_ok_iff.mpr ⟨htakes, hcount.symm⟩]
  | invalid hb hr =>
    rw [bindOne, offer_append_of_takes (forall₂_takes_iff.mpr hb), offer_cons_of_refuses hr]
    rfl

/-- Binding one assignment fails in one of the two ways. -/
theorem exists_fails {e : BindError} (h : (bindOne a targets).outcome = .error e) :
    ∃ targets', Fails a targets targets' e := by
  rcases bindOne_error_iff.mp h with ⟨before, o, after, reason, rfl, hb, hr, rfl⟩ | ⟨hnone, rfl⟩
  · have htakes : List.Forall₂ (Takes a) before
        (before.map fun x => (x.setOption a.name a.value).1) := by
      rw [List.forall₂_map_right_iff, List.forall₂_same]
      intro x hx
      obtain ⟨x', ht⟩ := hb x hx
      rw [ht.eq]
      exact ht
    exact ⟨_, .invalid (forall₂_takes_iff.mp htakes) hr⟩
  · exact ⟨targets, .unknown hnone⟩

/-- An option is unknown iff no target declares it. -/
theorem bindOne_unknown_iff :
    (bindOne a targets).outcome = .error (.unknownOption a.name) ↔
      ∀ o ∈ targets, o.declares a.name = false := by
  rw [bindOne_error_iff]
  constructor
  · rintro (⟨before, o, after, reason, -, -, -, he⟩ | ⟨hnone, -⟩)
    · cases he
    · exact hnone
  · exact fun hnone => .inr ⟨hnone, rfl⟩

/-- A success counts the targets that declare the option, and these have received the value. -/
theorem bindOne_eq_ok_iff {entries : List LogEntry} {n : Nat} :
    bindOne a targets = ⟨targets', entries, .ok n⟩ ↔
      List.Forall₂ (Receives a) targets targets' ∧ n = targets.countP (·.declares a.name) ∧ 0 < n ∧
        entries = [applied targets a] := by
  rw [bindOne_ok_iff, forall₂_takes_iff, ← List.countP_pos_iff]
  constructor
  · rintro ⟨hs, hpos, rfl, he⟩
    exact ⟨hs, rfl, hpos, he⟩
  · rintro ⟨hs, rfl, hpos, he⟩
    exact ⟨hs, hpos, rfl, he⟩

/-! ### A whole log -/

/-- A log fails at an entry after others have been bound to all targets. -/
theorem bindAll_of_fails {before after : List Assignment} {mid : List Object} {e : BindError}
    (hs : List.Forall₂ (fun o o' => o.replay before = .ok o') targets mid)
    (hd : ∀ b ∈ before, ∃ o ∈ targets, o.declares b.name) (hf : Fails a mid targets' e) :
    bindAll (before ++ a :: after) targets =
      ⟨targets', before.map (applied targets), .error e⟩ := by
  have hlast : bindAll (a :: after) mid = ⟨targets', [], .error e⟩ := by
    rw [bindAll, bindOne_of_fails hf]
  rw [bindAll_append, bindAll_ok_iff.mpr ⟨hs, hd, rfl⟩]
  simp only [hlast, List.append_nil]

/-- **What a failed binding leaves behind.**  If binding a log fails, it does so at an entry before
which every entry is declared by some target and replayed on each of them.  Of the entry that fails the
targets keep what `Fails` says, of the entries after it nothing, and a target of a derived class that
refuses the value is as it was.  An option is unknown iff no target declares it.  If an entry succeeds,
it is counted once for each target that declares it, and these targets, and no others, have received
the value. -/
theorem failed_binding_leaves (log : List Assignment) (targets : List Object) :
    (∀ targets' entries e, bindAll log targets = ⟨targets', entries, .error e⟩ ↔
      ∃ before a after mid, log = before ++ a :: after ∧
        List.Forall₂ (fun o o' => o.replay before = .ok o') targets mid ∧
        (∀ b ∈ before, ∃ o ∈ targets, o.declares b.name) ∧ Fails a mid targets' e ∧
        entries = before.map (applied targets)) ∧
    (∀ (τ : Type) (parse : τ → String → Except String Scalar) (options : List (OptionDecl τ))
      (a : Assignment) (o : Object) (reason : String), o.cls.Derives parse options →
      o.Refuses a reason → (o.setOption a.name a.value).1 = o) ∧
    (∀ a, (bindOne a targets).outcome = .error (.unknownOption a.name) ↔
      ∀ o ∈ targets, o.declares a.name = false) ∧
    ∀ a targets' entries n, bindOne a targets = ⟨targets', entries, .ok n⟩ ↔
      List.Forall₂ (Receives a) targets targets' ∧ n = targets.countP (·.declares a.name) ∧ 0 < n ∧
        entries = [applied targets a] := by
  refine ⟨fun targets' entries e => ⟨fun h => ?_, ?_⟩, ?_, ?_, ?_⟩
  · obtain ⟨before, a, after, mid, rfl, hs, hd, he⟩ :=
      bindAll_error_iff.mp (congrArg Bound.outcome h)
    obtain ⟨targets'', hf⟩ := exists_fails he
    cases h.symm.trans (bindAll_of_fails hs hd hf)
    exact ⟨before, a, after, mid, rfl, hs, hd, hf, rfl⟩
  · rintro ⟨before, a, after, mid, rfl, hs, hd, hf, rfl⟩
    exact bindAll_of_fails hs hd hf
  · exact fun τ parse options a o reason hcls hr => hr.unchanged hcls
  · exact fun a => bindOne_unknown_iff
  · exact fun a targets' entries n => bindOne_eq_ok_iff

section Sample

open Demo

/-- A class whose setter writes its field before it refuses the text. -/
def hasty : ObjectClass where
  name := "Hasty"
  options := [⟨⟨"level", "", "string", false⟩,
    fun fields raw => ⟨fields.set "seen" (.single (.text raw)), some "too hasty"⟩⟩]
  initial := [("seen", .single (.text ""))]

/-- A class whose setter writes its field and accepts. -/
def recorder : ObjectClass :=
  classOf "Recorder" [field "level" .single .text "Any text.", renamed "tags" "tag" .many .text "Tags."]
    [("level", .single (.text "")), ("tags", .many [])]

theorem failed_binding_leaves_sample :
    ∃ before a after mid,
      [⟨"tag", "a"⟩, ⟨"level", "high"⟩, ⟨"tag", "b"⟩] = before ++ a :: after ∧
        List.Forall₂ (fun o o' => o.replay before = .ok o')
          [recorder.create, hasty.create, recorder.create] mid ∧
        (∀ b ∈ before, ∃ o ∈ [recorder.create, hasty.create, recorder.create], o.declares b.name) ∧
        Fails a mid
          [⟨recorder, [("level", .single (.text "high")), ("tags", .many [.text "a"])]⟩,
            ⟨hasty, [("seen", .single (.text "high"))]⟩,
            ⟨recorder, [("level", .single (.text "")), ("tags", .many [.text "a"])]⟩]
          (.invalidValue "level" "high" "Hasty" "too hasty") ∧
        [LogEntry.optionApplied "tag" "a" 2] =
          before.map (applied [recorder.create, hasty.create, recorder.create]) :=
  ((failed_binding_leaves _ _).1 _ _ _).mp rfl

end Sample

end ObjectAssembly
