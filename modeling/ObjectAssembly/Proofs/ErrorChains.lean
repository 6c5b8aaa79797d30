import ObjectAssembly.CommandLine.Program
import ObjectAssembly.Proofs.Materialization

/-!
# Error chains — a report lists every error below an error once

An error may have a source, the error right below it; some errors only wrap another one and pass on its
text and its source.  `SourceChain` follows sources down to an error that has none.  A report has one
entry for the error itself and one for each error of its chain.  The chains of failed materializations
are short, apart from that of a failed factory, which goes on as the factory's own failure does.
-/

namespace ObjectAssembly.CommandLine

/-! ### Errors and their sources -/

/-- An error that can stand in a chain. -/
inductive AnyError
  | program (e : ProgramError)
  | configuration (e : ConfigurationError)
  | instantiation (e : InstantiateError)
  | binding (e : BindError)
  | io (e : IoError)
  | failure (f : Failure)

namespace AnyError

def message : AnyError → String
  | program e => e.message
  | configuration e => e.message
  | instantiation e => e.message
  | binding e => e.message
  | io e => e.message
  | failure f => f.message

/-- The failure right below a failure. -/
def ofCauses? : List String → Option AnyError
  | [] => none
  | message :: causes => some (failure ⟨message, causes⟩)

def ofConfiguration? : ConfigurationError → Option AnyError
  | .constructionFailed _ _ f => some (failure f)
  | .optionBinding _ e => some (binding e)
  | .io e => some (io e)
  | _ => none

/-- The error right below.  An error that only wraps another one passes on the source of that one. -/
def source? : AnyError → Option AnyError
  | program (.unknownConfiguration _) => none
  | program (.configuration e) => ofConfiguration? e
  | program (.io e) => some (io e)
  | configuration e => ofConfiguration? e
  | instantiation (.failed f) => ofCauses? f.causes
  | instantiation _ => none
  | binding _ => none
  | io (.relayed f) => ofCauses? f.causes
  | io _ => none
  | failure f => ofCauses? f.causes

end AnyError

/-- The errors below an error, outermost first: each one is the source of the error above it, and the
last one has no source. -/
inductive SourceChain : AnyError → List AnyError → Prop
  | last {e : AnyError} : e.source? = none → SourceChain e []
  | next {e s : AnyError} {rest : List AnyError} :
      e.source? = some s → SourceChain s rest → SourceChain e (s :: rest)

variable {e s : AnyError} {chain chain' : List AnyError}

theorem SourceChain.unique (h : SourceChain e chain) (h' : SourceChain e chain') : chain = chain' := by
  induction h generalizing chain' with
  | last hnone =>
    cases h' with
    | last _ => rfl
    | next hs _ => cases hnone.symm.trans hs
  | next hs _ ih =>
    cases h' with
    | last hnone => cases hnone.symm.trans hs
    | next hs' h' =>
      cases hs.symm.trans hs'
      rw [ih h']

/-- What an error has below it depends on its source only. -/
theorem SourceChain.congr (h : SourceChain e chain) (hs : s.source? = e.source?) :
    SourceChain s chain := by
  cases h with
  | last hnone => exact .last (hs.trans hnone)
  | next hsource hrest => exact .next (hs.trans hsource) hrest

theorem exists_chain_failure (f : Failure) :
    ∃ chain, SourceChain (.failure f) chain ∧ chain.map (·.message) = f.causes := by
  obtain ⟨message, causes⟩ := f
  induction causes generalizing message with
  | nil => exact ⟨[], .last rfl, rfl⟩
  | cons cause causes ih =>
    obtain ⟨chain, hchain, hmessages⟩ := ih cause
    exact ⟨_, .next rfl hchain, congrArg (cause :: ·) hmessages⟩

theorem exists_chain_io (e : IoError) :
    ∃ chain, SourceChain (.io e) chain ∧ chain.map (·.message) = e.causes := by
  cases e with
  | stalled | failed => exact ⟨[], .last rfl, rfl⟩
  | relayed f =>
    obtain ⟨chain, hchain, hmessages⟩ := exists_chain_failure f
    exact ⟨chain, hchain.congr rfl, hmessages⟩

theorem exists_chain_configuration (e : ConfigurationError) :
    ∃ chain, SourceChain (.configuration e) chain ∧ chain.map (·.message) = e.causes := by
  cases e with
  | constructionFailed slot id f =>
    obtain ⟨chain, hchain, hmessages⟩ := exists_chain_failure f
    exact ⟨_, .next rfl hchain, congrArg (f.message :: ·) hmessages⟩
  | optionBinding option e => exact ⟨_, .next rfl (.last rfl), rfl⟩
  | io e =>
    obtain ⟨chain, hchain, hmessages⟩ := exists_chain_io e
    exact ⟨_, .next rfl hchain, congrArg (e.message :: ·) hmessages⟩
  | typeNotFound | notConstructible | constructorInaccessible | frozen | duplicateDefinition =>
    exact ⟨[], .last rfl, rfl⟩

theorem exists_chain_program (e : ProgramError) :
    ∃ chain, SourceChain (.program e) chain ∧ chain.map (·.message) = e.causes := by
  cases e with
  | unknownConfiguration name => exact ⟨[], .last rfl, rfl⟩
  | configuration e =>
    obtain ⟨chain, hchain, hmessages⟩ := exists_chain_configuration e
    exact ⟨chain, hchain.congr rfl, hmessages⟩
  | io e =>
    obtain ⟨chain, hchain, hmessages⟩ := exists_chain_io e
    exact ⟨_, .next rfl hchain, congrArg (e.message :: ·) hmessages⟩

/-! ### Reports -/

/-- An entry for an error, and one for each error of a chain below it. -/
def reportOf (message : String) (chain : List AnyError) : String :=
  unlines (("error: " ++ message) :: chain.map fun e => "  caused by: " ++ e.message)

theorem report_eq_reportOf {e : ProgramError} (h : SourceChain (.program e) chain) :
    e.report = reportOf e.message chain := by
  obtain ⟨chain', h', hmessages⟩ := exists_chain_program e
  rw [h.unique h', ProgramError.report, ← hmessages, reportOf, List.map_map]
  rfl

/-- What is below the error of a failed materialization: the complaint about an option alone; or the
failure of the factory, and whatever is below that, with nothing of the instantiation that wraps it; or
nothing. -/
inductive MaterializationChain (resolve : Resolver) : ConfigurationError → List AnyError → Prop
  | typeNotFound (slot id : String) : MaterializationChain resolve (.typeNotFound slot id) []
  | notConstructible (slot id : String) : MaterializationChain resolve (.notConstructible slot id) []
  | constructorInaccessible (slot id : String) :
      MaterializationChain resolve (.constructorInaccessible slot id) []
  | optionBinding (option : String) (e : BindError) :
      MaterializationChain resolve (.optionBinding option e) [.binding e]
  | constructionFailed {slot id : String} {f : Failure} {t : ObjectType} {called : Calls}
      {chain : List AnyError} :
      resolve id = some t → t.instantiate called = .error (.failed f) →
      SourceChain (.failure f) chain → SourceChain (.instantiation (.failed f)) chain →
      chain.map (·.message) = f.causes →
      MaterializationChain resolve (.constructionFailed slot id f) (.failure f :: chain)

section Materialize

variable {d : Definition} {resolve : Resolver} {calls : Calls} {error : ConfigurationError}

theorem MaterializationChain.sourceChain (h : MaterializationChain resolve error chain) :
    SourceChain (.program (.configuration error)) chain := by
  cases h with
  | typeNotFound | notConstructible | constructorInaccessible => exact .last rfl
  | optionBinding => exact .next rfl (.last rfl)
  | constructionFailed _ _ hchain _ _ => exact .next rfl hchain

theorem exists_materializationChain (h : (d.materialize resolve calls).outcome = .error error) :
    ∃ chain, MaterializationChain resolve error chain := by
  obtain ⟨asked, called, hfirst⟩ := exists_firstFailure h
  cases hfirst with
  | lookup => exact ⟨_, .typeNotFound _ _⟩
  | notConstructible => exact ⟨_, .notConstructible _ _⟩
  | inaccessible => exact ⟨_, .constructorInaccessible _ _⟩
  | failed _ _ hresolve hfailed =>
    obtain ⟨chain, hchain, hmessages⟩ := exists_chain_failure _
    exact ⟨_, .constructionFailed hresolve hfailed hchain (hchain.congr rfl) hmessages⟩
  | refused => exact ⟨_, .optionBinding _ _⟩
  | undeclared => exact ⟨_, .optionBinding _ _⟩

end Materialize

/-- **A report lists every cause once.**  Every error of the program has one chain of errors below it, and
its report has an entry for the error and one for each error of the chain, outermost first.  Below the
error of a failed materialization there is nothing, or the complaint about an option, or the failure of
the factory with its own chain. -/
theorem report_lists_sources :
    (∀ e : ProgramError, ∃ chain, (∀ l, SourceChain (.program e) l ↔ l = chain) ∧
      e.report = reportOf e.message chain) ∧
    ∀ (d : Definition) (resolve : Resolver) (calls : Calls) (error : ConfigurationError),
      (d.materialize resolve calls).outcome = .error error →
        ∃ chain, MaterializationChain resolve error chain ∧
          SourceChain (.program (.configuration error)) chain ∧
          (ProgramError.configuration error).report = reportOf error.message chain := by
  refine ⟨fun e => ?_, fun d resolve calls error h => ?_⟩
  · obtain ⟨chain, hchain, -⟩ := exists_chain_program e
    refine ⟨chain, fun l => ⟨fun hl => hl.unique hchain, ?_⟩, report_eq_reportOf hchain⟩
    rintro rfl
    exact hchain
  · obtain ⟨chain, hchain⟩ := exists_materializationChain h
    exact ⟨chain, hchain, hchain.sourceChain, report_eq_reportOf hchain.sourceChain⟩

section Sample

/-- A pool whose factory fails for a reason that has reasons of its own. -/
def poolFailure : Failure := ⟨"connection refused", ["host unreachable", "no route"]⟩

def poolType : ObjectType := ⟨"pg.Pool", ⟨"Pool", [], []⟩, some fun _ => .error (.failed poolFailure)⟩

def poolDefinition : Definition := ⟨"service", "", [("db", ["pg.Pool"])], [], false⟩

theorem report_lists_sources_pool :
    (poolDefinition.materialize (fun _ => some poolType) []).outcome =
        .error (.constructionFailed "db" "pg.Pool" poolFailure) ∧
      SourceChain (.program (.configuration (.constructionFailed "db" "pg.Pool" poolFailure)))
        [.failure poolFailure, .failure ⟨"host unreachable", ["no route"]⟩,
          .failure ⟨"no route", []⟩] ∧
      (ProgramError.configuration (.constructionFailed "db" "pg.Pool" poolFailure)).report =
        "error: slot 'db': constructing 'pg.Pool' failed\n  caused by: connection refused\n" ++
          "  caused by: host unreachable\n  caused by: no route\n" := by
  have hfails : (poolDefinition.materialize (fun _ => some poolType) []).outcome =
      .error (.constructionFailed "db" "pg.Pool" poolFailure) := rfl
  have hchain : SourceChain
      (.program (.configuration (.constructionFailed "db" "pg.Pool" poolFailure)))
      [.failure poolFailure, .failure ⟨"host unreachable", ["no route"]⟩,
        .failure ⟨"no route", []⟩] :=
    .next rfl (.next rfl (.next rfl (.last rfl)))
  obtain ⟨chain, -, hbelow, hreport⟩ := report_lists_sources.2 _ _ _ _ hfails
  rw [hbelow.unique hchain] at hreport
  exact ⟨hfails, hchain, hreport.trans (by decide)⟩

end Sample

end ObjectAssembly.CommandLine
