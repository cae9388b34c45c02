import TokenDesk.Proofs.Run.Effect
import TokenDesk.Chain.Token

/-!
# Journals of calls

A token whose state is the journal of its calls answers as any function of the calls so far. What a run
says to such a token is what it adds to the journal (`Says`); part after part of a run adds its own.
-/

set_option autoImplicit false

namespace TokenDesk

/-- A call of a token with its answer. -/
structure Answered where
  call : TokenCall
  answer : Ending String call.Answer

/-- The token that keeps a journal and answers from what stands in it. -/
def Token.ofJournal
    (answer : List Answered → (call : TokenCall) → Ending String call.Answer) :
    Token (List Answered) where
  ask call journal := (answer journal call, journal ++ [⟨call, answer journal call⟩])

/-- A call that changes nothing. -/
def TokenCall.reads : TokenCall → Bool
  | .transfer _ _ | .mint _ _ | .transferOwnership _ => false
  | _ => true

namespace Answered

/-- The operation that a call performs and its answer. -/
def gas? : Answered → Option (Action × Ending String UInt64)
  | ⟨.transfer _ _, answer⟩ => some (.transfer, answer)
  | ⟨.mint _ _, answer⟩ => some (.mint, answer)
  | ⟨.transferOwnership _, answer⟩ => some (.transferOwnership, answer)
  | _ => none

/-- A call that breaks off, or reads and fails. -/
def Stops (a : Answered) : Prop :=
  a.answer = .aborted ∨ a.gas? = none ∧ ∃ e, a.answer = .failed e

/-- No gas is told of where no call is a transaction. -/
theorem gas?_eq_nil {said : List Answered} {calls : List TokenCall}
    (made : said.map Answered.call = calls) (reads : calls.all TokenCall.reads = true) :
    said.filterMap gas? = [] := by
  subst made
  rw [List.all_map, List.all_eq_true] at reads
  refine List.filterMap_eq_nil_iff.mpr fun a member => ?_
  obtain ⟨call, answer⟩ := a
  have read := reads _ member
  cases call <;> first | rfl | cases read

/-- The journal of a script that a call cut: the first calls of it, up to one that stops. -/
structure Cut (script : List TokenCall) (said : List Answered) : Prop where
  first : said.map Answered.call <+: script
  stopped : ∃ last, said.getLast? = some last ∧ last.Stops

theorem Cut.longer {script : List TokenCall} {said : List Answered} (cut : Cut script said)
    (more : List TokenCall) : Cut (script ++ more) said :=
  ⟨cut.first.trans (List.prefix_append _ _), cut.stopped⟩

theorem Cut.later {before script : List TokenCall} {said later : List Answered}
    (made : said.map Answered.call = before) (cut : Cut script later) :
    Cut (before ++ script) (said ++ later) := by
  obtain ⟨last, final, stops⟩ := cut.stopped
  refine ⟨?_, last, ?_, stops⟩
  · rw [List.map_append, made]
    exact (List.prefix_append_right_inj before).mpr cut.first
  · rw [List.getLast?_append, final]
    rfl

end Answered

namespace Run

variable {ε δ α β : Type}

/-- What the run adds to the journal on a machine, and how it ends, have a property. -/
def Says (m : Machine) (run : Run (List Answered) ε α) (good : List Answered → Ending ε α → Prop) :
    Prop :=
  ∀ w, ∃ said, (run m w).2.chain = w.chain ++ said ∧ good said (run m w).1

variable {m : Machine} {good : List Answered → Ending ε α → Prop}

theorem Says.mono {run : Run (List Answered) ε α} {better : List Answered → Ending ε α → Prop}
    (adds : run.Says m good) (more : ∀ said ending, good said ending → better said ending) :
    run.Says m better := by
  intro w
  obtain ⟨said, added, holds⟩ := adds w
  exact ⟨said, added, more _ _ holds⟩

/-- A part that does not touch the chain adds nothing. -/
theorem Says.silent {run : Run (List Answered) ε α} (still : ∀ w, (run m w).2.chain = w.chain)
    (holds : ∀ w, good [] (run m w).1) : run.Says m good := by
  intro w
  exact ⟨[], by rw [still, List.append_nil], holds w⟩

theorem Says.pure {a : α} (holds : good [] (.ok a)) : Says m (Pure.pure a) good :=
  .silent (fun _ => rfl) fun _ => holds

theorem Says.ofEnding {ending : Ending ε α} (holds : good [] ending) :
    Says m (Run.ofEnding ending) good :=
  .silent (fun _ => rfl) fun _ => holds

theorem Says.mapError {run : Run (List Answered) δ α} {f : δ → ε}
    (adds : run.Says m fun said ending => good said (ending.mapError f)) :
    (run.mapError f).Says m good :=
  fun w => adds w

theorem Says.bind {run : Run (List Answered) ε β} {next : β → Run (List Answered) ε α}
    {part : List Answered → Ending ε β → Prop} (first : run.Says m part)
    (failed : ∀ said e, part said (.failed e) → good said (.failed e))
    (aborted : ∀ said, part said .aborted → good said .aborted)
    (rest : ∀ said b, part said (.ok b) →
      (next b).Says m fun more ending => good (said ++ more) ending) :
    (run >>= next).Says m good := by
  intro w
  obtain ⟨said, added, holds⟩ := first w
  rw [bind_apply]
  cases result : run m w with
  | mk ending after =>
    rw [result] at added holds
    cases ending with
    | ok b =>
      obtain ⟨more, later, whole⟩ := rest said b holds after
      exact ⟨said ++ more, by rw [later, added, List.append_assoc], whole⟩
    | failed e => exact ⟨said, added, failed said e holds⟩
    | aborted => exact ⟨said, added, aborted said holds⟩

/-- A part that does not touch the chain, before one that does. -/
theorem Says.after {run : Run (List Answered) ε β} {next : β → Run (List Answered) ε α}
    {part : β → Prop} (still : ∀ w, (run m w).2.chain = w.chain) (gives : run.Gives part)
    (stopped : ∀ ending : Ending ε α, (∀ a, ending ≠ .ok a) → good [] ending)
    (rest : ∀ b, part b → (next b).Says m good) : (run >>= next).Says m good := by
  have first : run.Says m fun said ending => said = [] ∧ ∀ b, ending = .ok b → part b :=
    .silent still fun w => ⟨rfl, fun b ends => gives m w b _ (Prod.ext ends rfl)⟩
  refine .bind first ?_ ?_ ?_
  · intro said e ⟨nothing, _⟩
    subst nothing
    exact stopped _ nofun
  · intro said ⟨nothing, _⟩
    subst nothing
    exact stopped _ nofun
  · intro said b ⟨nothing, holds⟩
    subst nothing
    exact rest b (holds b rfl)

/-- The ending of an attempt: a failure is a value. -/
def attempted : Ending ε α → Ending ε (Except ε α)
  | .ok a => .ok (.ok a)
  | .failed e => .ok (.error e)
  | .aborted => .aborted

theorem Says.attempt {run : Run (List Answered) ε α}
    {good : List Answered → Ending ε (Except ε α) → Prop}
    (adds : run.Says m fun said ending => good said (attempted ending)) :
    run.attempt.Says m good := by
  intro w
  obtain ⟨said, added, holds⟩ := adds w
  unfold Run.attempt
  cases result : run m w with
  | mk ending after =>
    rw [result] at added holds
    cases ending <;> exact ⟨said, added, holds⟩

/-! ## Parts of a script -/

/-- How a part that makes some calls may end: after all of them with a value that has a property, or
cut by one of them. -/
inductive Asked (calls : List TokenCall) (part : List Answered → α → Prop) :
    List Answered → Ending ε α → Prop
  | whole {said : List Answered} {a : α} (made : said.map Answered.call = calls)
      (holds : part said a) : Asked calls part said (.ok a)
  | cut {said : List Answered} {ending : Ending ε α} (cut : Answered.Cut calls said)
      (broken : ∀ a, ending ≠ .ok a) : Asked calls part said ending

/-- The run makes some calls on a machine, and what it gives after all of them has a property. -/
def Asks (m : Machine) (run : Run (List Answered) ε α) (calls : List TokenCall)
    (part : List Answered → α → Prop) : Prop :=
  run.Says m (Asked calls part)

variable {calls more : List TokenCall}

theorem Asks.pure {a : α} {part : List Answered → α → Prop} (holds : part [] a) :
    Asks m (Pure.pure a : Run (List Answered) ε α) [] part :=
  Says.pure (.whole rfl holds)

theorem Asks.status {a : α} {part : List Answered → α → Prop} (holds : part [] a) {quiet : Bool}
    (shows : m.Shows quiet) (line : String) :
    Asks m (Run.status quiet line >>= fun _ => (Pure.pure a : Run (List Answered) ε α)) [] part := by
  intro w
  obtain ⟨after, ends, -, chain⟩ := status_bind (ε := ε) shows line (fun _ => Pure.pure a) w
  rw [ends, pure_apply]
  exact ⟨[], by rw [chain, List.append_nil], .whole rfl holds⟩

/-- A part of a script, before what may not be one. -/
theorem Says.asks {run : Run (List Answered) ε β} {next : β → Run (List Answered) ε α}
    {part : List Answered → β → Prop} (first : run.Asks m calls part)
    (cut : ∀ said (ending : Ending ε α), Answered.Cut calls said → (∀ a, ending ≠ .ok a) →
      good said ending)
    (rest : ∀ said b, said.map Answered.call = calls → part said b →
      (next b).Says m fun later ending => good (said ++ later) ending) :
    (run >>= next).Says m good := by
  refine .bind first ?_ ?_ ?_
  · rintro said e (_ | ⟨stopped, -⟩)
    exact cut said _ stopped (by simp)
  · rintro said (_ | ⟨stopped, -⟩)
    exact cut said _ stopped (by simp)
  · rintro said b (⟨made, holds⟩ | ⟨-, broken⟩)
    case whole => exact rest said b made holds
    case cut => exact absurd rfl (broken b)

theorem Asks.bind {run : Run (List Answered) ε β} {next : β → Run (List Answered) ε α}
    {part : List Answered → β → Prop} {whole : List Answered → α → Prop} (first : run.Asks m calls part)
    (rest : ∀ said b, said.map Answered.call = calls → part said b →
      (next b).Asks m more fun later a => whole (said ++ later) a) :
    (run >>= next).Asks m (calls ++ more) whole := by
  refine Says.asks first (fun said ending cut => .cut (cut.longer more)) fun said b made holds => ?_
  refine (rest said b made holds).mono fun later ending asked => ?_
  cases asked with
  | whole then_ holds => exact .whole (by rw [List.map_append, made, then_]) holds
  | cut cut broken => exact .cut (cut.later made) broken

theorem Asks.mono {run : Run (List Answered) ε α} {part better : List Answered → α → Prop}
    (asks : run.Asks m calls part) (more : ∀ said a, part said a → better said a) :
    run.Asks m calls better := by
  refine Says.mono asks fun said ending asked => ?_
  cases asked with
  | whole made holds => exact .whole made (more _ _ holds)
  | cut cut broken => exact .cut cut broken

end Run

end TokenDesk
