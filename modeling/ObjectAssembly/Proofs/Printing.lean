import ObjectAssembly.Catalog
import ObjectAssembly.Usage
import Mathlib.Algebra.BigOperators.Group.Finset.Basic

/-!
# Printing — an output receives nothing, a part or the whole of a text

An output answers the writes it is offered one after the other.  Writing goes on while answers take
something or ask to be tried again, and ends with an error at the first answer that does neither.  So
the accepted bytes are those that the answers before it take, a prefix of the text, and the flush
follows exactly when they are the whole text.  An output that decides by what it is offered answers, on
any one text, like one whose answers are listed in advance (`Process.Writes.exists_replies`).
-/

namespace ObjectAssembly

/-! ### Answers -/

section Answers

/-- How many bytes the answer takes, if so many are offered. -/
def WriteReply.amount : WriteReply → Nat
  | .take atMost => atMost
  | _ => 0

/-- The error with which the answer ends the writing, if it does. -/
def WriteReply.error? : WriteReply → Option IoError
  | .take atMost => if atMost = 0 then some .stalled else none
  | .interrupted => none
  | .refuse => some .stalled
  | .fail message => some (.failed message)

/-- The answers of an output to writes, one after the other. -/
def answers (chunk : Nat) (replies : List WriteReply) (n : Nat) : WriteReply :=
  replies[n]?.getD (.take chunk)

/-- How many bytes the first `n` answers take, if so many are offered. -/
def takenBy (answer : Nat → WriteReply) (n : Nat) : Nat := ∑ k ∈ Finset.range n, (answer k).amount

/-- The answer of number `n` ends the writing of so many bytes with this error: the answers before it
go on and do not take them all. -/
structure EndsAt (answer : Nat → WriteReply) (size n : Nat) (cause : IoError) : Prop where
  before : ∀ k < n, (answer k).error? = none
  short : takenBy answer n < size
  error : (answer n).error? = some cause

/-- What writing makes of the bytes: all of them are taken, or those that the answers take before one
of them ends it. -/
inductive Written (answer : Nat → WriteReply) (bytes : List UInt8) :
    List (List UInt8) × Except IoError Unit → Prop
  | whole {writes : List (List UInt8)} :
      writes.flatten = bytes → Written answer bytes (writes, .ok ())
  | part {writes : List (List UInt8)} {n : Nat} {cause : IoError} :
      EndsAt answer bytes.length n cause → writes.flatten = bytes.take (takenBy answer n) →
      Written answer bytes (writes, .error cause)

variable {answer : Nat → WriteReply} {bytes : List UInt8} {writes more : List (List UInt8)}
  {outcome : Except IoError Unit} {size n : Nat} {cause : IoError}

theorem takenBy_zero (answer : Nat → WriteReply) : takenBy answer 0 = 0 := rfl

theorem takenBy_succ (answer : Nat → WriteReply) (n : Nat) :
    takenBy answer (n + 1) = (answer 0).amount + takenBy (fun k => answer (k + 1)) n := by
  unfold takenBy
  rw [Finset.sum_range_succ', Nat.add_comm]

/-- If the first answer goes on, the writing of what it leaves ends where the whole writing does. -/
theorem EndsAt.succ (h : EndsAt (fun k => answer (k + 1)) (size - (answer 0).amount) n cause)
    (h0 : (answer 0).error? = none) : EndsAt answer size (n + 1) cause where
  before k hk := by
    cases k with
    | zero => exact h0
    | succ k => exact h.before k (by omega)
  short := by
    have hshort := h.short
    rw [takenBy_succ]
    omega
  error := h.error

/-- The first answer ends the writing. -/
theorem Written.stop (h : (answer 0).error? = some cause) (hbytes : bytes ≠ [])
    (hwrites : writes.flatten = []) : Written answer bytes (writes, .error cause) := by
  have hends : EndsAt answer bytes.length 0 cause :=
    { before := fun k hk => absurd hk (Nat.not_lt_zero k)
      short := List.length_pos_iff.mpr hbytes
      error := h }
  exact .part hends (by rw [hwrites, takenBy_zero, List.take_zero])

/-- The first answer goes on, and the rest is written. -/
theorem Written.next (h0 : (answer 0).error? = none)
    (h : Written (fun k => answer (k + 1)) (bytes.drop (answer 0).amount) (more, outcome))
    (hwrites : writes.flatten = bytes.take (answer 0).amount ++ more.flatten) :
    Written answer bytes (writes, outcome) := by
  cases h with
  | whole hmore =>
    refine .whole ?_
    rw [hwrites, hmore, List.take_append_drop]
  | @part _ n _ hends hmore =>
    rw [List.length_drop] at hends
    refine .part (hends.succ h0) ?_
    rw [hwrites, hmore, takenBy_succ, List.take_add]

theorem writeChunks_written (chunk : Nat) (bytes : List UInt8) :
    Written (fun _ => .take chunk) bytes (writeChunks chunk bytes) := by
  fun_induction writeChunks chunk bytes with
  | case1 => exact .whole rfl
  | case2 bytes hbytes hchunk => exact .stop (if_pos hchunk) hbytes rfl
  | case3 bytes hbytes hchunk writes outcome hrest ih =>
    rw [hrest] at ih
    have hgoes : (WriteReply.take chunk).error? = none := if_neg hchunk
    exact .next hgoes ih (List.flatten_cons)

/-- Writing makes of the bytes what the answers of the output make of them. -/
theorem writeBytes_written (chunk : Nat) (replies : List WriteReply) (bytes : List UInt8) :
    Written (answers chunk replies) bytes (writeBytes chunk replies bytes) := by
  fun_induction writeBytes chunk replies bytes with
  | case1 => exact .whole rfl
  | case2 bytes => exact writeChunks_written chunk bytes
  | case3 replies bytes hbytes ih => exact .next rfl ih rfl
  | case4 replies bytes hbytes => exact .stop rfl hbytes rfl
  | case5 message replies bytes hbytes => exact .stop rfl hbytes rfl
  | case6 replies bytes hbytes => exact .stop rfl hbytes rfl
  | case7 atMost replies bytes hbytes htakes writes outcome hrest ih =>
    rw [hrest] at ih
    have hgoes : (WriteReply.take atMost).error? = none := if_neg htakes
    exact .next hgoes ih List.flatten_cons

end Answers

/-! ### Outputs that decide by what they are offered -/

/-- An output with a state: its answer to an offer of bytes, and its state after it. -/
abbrev Process (σ : Type) := σ → List UInt8 → WriteReply × σ

/-- A run of writing bytes to such an output: the accepted writes, and how it ends.  It offers what is
left until all is taken. -/
inductive Process.Writes {σ : Type} (p : Process σ) :
    σ → List UInt8 → List (List UInt8) × Except IoError Unit → Prop
  | done (s : σ) : Writes p s [] ([], .ok ())
  | take {s s' : σ} {bytes : List UInt8} {atMost : Nat} {writes : List (List UInt8)}
      {outcome : Except IoError Unit} :
      bytes ≠ [] → p s bytes = (.take atMost, s') → atMost ≠ 0 →
      Writes p s' (bytes.drop atMost) (writes, outcome) →
      Writes p s bytes (bytes.take atMost :: writes, outcome)
  | interrupted {s s' : σ} {bytes : List UInt8} {r : List (List UInt8) × Except IoError Unit} :
      bytes ≠ [] → p s bytes = (.interrupted, s') → Writes p s' bytes r → Writes p s bytes r
  | nothing {s s' : σ} {bytes : List UInt8} :
      bytes ≠ [] → p s bytes = (.take 0, s') → Writes p s bytes ([[]], .error .stalled)
  | refuse {s s' : σ} {bytes : List UInt8} :
      bytes ≠ [] → p s bytes = (.refuse, s') → Writes p s bytes ([], .error .stalled)
  | fail {s s' : σ} {bytes : List UInt8} {message : String} :
      bytes ≠ [] → p s bytes = (.fail message, s') →
      Writes p s bytes ([], .error (.failed message))

/-- On any one text, an output that decides by what it is offered is like one with these answers. -/
theorem Process.Writes.exists_replies {σ : Type} {p : Process σ} {s : σ} {bytes : List UInt8}
    {r : List (List UInt8) × Except IoError Unit} (h : p.Writes s bytes r) :
    ∃ replies, ∀ chunk, writeBytes chunk replies bytes = r := by
  induction h with
  | done => exact ⟨[], fun chunk => by rw [writeBytes]⟩
  | @take _ _ bytes atMost _ _ hbytes _ htakes _ ih =>
    obtain ⟨replies, hreplies⟩ := ih
    refine ⟨.take atMost :: replies, fun chunk => ?_⟩
    rw [writeBytes, if_neg htakes, hreplies]
    exact hbytes
  | interrupted hbytes _ _ ih =>
    obtain ⟨replies, hreplies⟩ := ih
    refine ⟨.interrupted :: replies, fun chunk => ?_⟩
    rw [writeBytes, hreplies]
    exact hbytes
  | nothing hbytes _ => exact ⟨[.take 0], fun chunk => by rw [writeBytes, if_pos rfl]; exact hbytes⟩
  | refuse hbytes _ => exact ⟨[.refuse], fun chunk => by rw [writeBytes]; exact hbytes⟩
  | fail hbytes _ => exact ⟨[.fail _], fun chunk => by rw [writeBytes]; exact hbytes⟩

/-! ### Printing a text -/

namespace Sink

/-- The answers of the output to writes. -/
def answer (out : Sink) : Nat → WriteReply := answers out.chunk out.replies

/-- What an output has received of a text, and how printing has ended.  The accepted bytes are a prefix
of the text after each write, and the flush follows when they are the whole text.  An error is that of
the flush, or of the answer at which the writing ends. -/
structure Delivers (out : Sink) (text : String)
    (r : Received × Except ConfigurationError Unit) : Prop where
  inOrder : ∀ earlier, earlier <+: r.1.writes → earlier.flatten <+: utf8 text
  flushes : r.1.flushes = if r.1.bytes = utf8 text then 1 else 0
  ok_iff : r.2 = .ok () ↔ r.1.bytes = utf8 text ∧ out.flushFailure = none
  error : ∀ e, r.2 = .error e → ∃ cause, e = .io cause ∧
    ((r.1.bytes = utf8 text ∧ ∃ message, out.flushFailure = some message ∧ cause = .failed message) ∨
      ∃ n, EndsAt out.answer (utf8 text).length n cause ∧
        r.1.bytes = (utf8 text).take (takenBy out.answer n))

variable {out : Sink} {text : String} {writes : List (List UInt8)}

/-- Once all bytes have been taken, the flush decides how printing ends. -/
theorem delivers_of_whole (h : out.writeAll (utf8 text) = (writes, .ok ()))
    (hwhole : writes.flatten = utf8 text) : out.Delivers text (out.print text) := by
  have hparts : ∀ earlier, earlier <+: writes → earlier.flatten <+: utf8 text := by
    intro earlier hearlier
    rw [← hwhole]
    exact hearlier.flatten
  unfold print
  rw [h]
  cases hflush : out.flushFailure with
  | none =>
    refine ⟨hparts, (if_pos hwhole).symm, ?_, ?_⟩
    · exact iff_of_true rfl ⟨hwhole, hflush⟩
    · intro e he
      cases he
  | some message =>
    refine ⟨hparts, (if_pos hwhole).symm, ?_, ?_⟩
    · refine iff_of_false (fun hok => by cases hok) fun hok => ?_
      rw [hflush] at hok
      cases hok.2
    · intro e he
      cases he
      exact ⟨.failed message, rfl, .inl ⟨hwhole, message, hflush, rfl⟩⟩

/-- If an answer ends the writing, printing ends with its error, and nothing is flushed. -/
theorem delivers_of_part {n : Nat} {cause : IoError}
    (h : out.writeAll (utf8 text) = (writes, .error cause))
    (hends : EndsAt out.answer (utf8 text).length n cause)
    (hpart : writes.flatten = (utf8 text).take (takenBy out.answer n)) :
    out.Delivers text (out.print text) := by
  have hparts : ∀ earlier, earlier <+: writes → earlier.flatten <+: utf8 text := by
    intro earlier hearlier
    have hpre : earlier.flatten <+: writes.flatten := hearlier.flatten
    rw [hpart] at hpre
    exact hpre.trans (List.take_prefix _ _)
  have hmissing : writes.flatten ≠ utf8 text := by
    intro hwhole
    have hlength := congrArg List.length (hpart.symm.trans hwhole)
    rw [List.length_take] at hlength
    have hshort := hends.short
    omega
  unfold print
  rw [h]
  refine ⟨hparts, (if_neg hmissing).symm, ?_, ?_⟩
  · exact iff_of_false (fun hok => by cases hok) fun hok => hmissing hok.1
  · intro e he
    cases he
    exact ⟨cause, rfl, .inr ⟨n, hends, hpart⟩⟩

theorem delivers_print (out : Sink) (text : String) : out.Delivers text (out.print text) := by
  have hwritten : Written out.answer (utf8 text) (out.writeAll (utf8 text)) :=
    writeBytes_written out.chunk out.replies (utf8 text)
  cases h : out.writeAll (utf8 text) with
  | mk writes outcome =>
    rw [h] at hwritten
    cases hwritten with
    | whole hwhole => exact delivers_of_whole h hwhole
    | part hends hpart => exact delivers_of_part h hends hpart

end Sink

/-- **Printing delivers nothing, a part or the whole.**  If some identifier does not resolve, the output
receives nothing.  Otherwise it receives a prefix of the usage text at every moment, and a flush when it
has all of it; printing succeeds iff it has all of it and the flush succeeds, and fails with the error
of the output.  The same holds of the summary of a catalog.  An output that decides by what it is
offered, and in the end whether the flush fails, does to a text what one of these outputs does. -/
theorem print_delivers (d : Definition) (resolve : Resolver) (c : Catalog) (out : Sink) :
    (∀ e, (d.usage resolve).outcome = .error e →
      d.printUsage resolve out = (d.usage resolve, .nothing, .error e)) ∧
    (∀ text, (d.usage resolve).outcome = .ok text →
      (d.printUsage resolve out).1 = d.usage resolve ∧
        out.Delivers text (d.printUsage resolve out).2) ∧
    out.Delivers c.summary (c.printSummary out) ∧
    ∀ (σ : Type) (p : Process σ) (s : σ) (text : String) r, p.Writes s (utf8 text) r →
      ∀ failure, ∃ out : Sink, out.flushFailure = failure ∧ out.writeAll (utf8 text) = r := by
  refine ⟨?_, ?_, out.delivers_print c.summary, ?_⟩
  · intro e he
    simp only [Definition.printUsage, he]
  · intro text htext
    simp only [Definition.printUsage, htext]
    exact ⟨trivial, out.delivers_print text⟩
  · intro σ p s text r hwrites failure
    obtain ⟨replies, hreplies⟩ := hwrites.exists_replies
    exact ⟨⟨replies, 1, failure⟩, rfl, hreplies 1⟩

end ObjectAssembly
