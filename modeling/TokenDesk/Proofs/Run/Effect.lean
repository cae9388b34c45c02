import TokenDesk.Run.Effect

/-!
# What runs leave

Most parts of a run touch no file (`Keeps`), so that of a whole run only the part that appends to a log
matters for the files (`Appended`). What a run may give is told apart from that (`Gives`). A line that is
printed changes neither files nor chain, but the run goes on behind it only where the output takes the line
(`Machine.Shows`).
-/

set_option autoImplicit false

namespace TokenDesk

/-- The value that an ending gives. -/
def Ending.value? {ε α : Type} : Ending ε α → Option α
  | .ok a => some a
  | _ => none

theorem Ending.eq_ok_of_join {ε α : Type} {ending : Ending ε (Option α)} {a : α}
    (given : ending.value?.join = some a) : ending = .ok (some a) := by
  cases ending with
  | ok a? =>
    have there : a? = some a := given
    rw [there]
  | failed e => cases given
  | aborted => cases given

theorem Ending.value?_of_broken {ε α : Type} {ending : Ending ε α} (broken : ∀ a, ending ≠ .ok a) :
    ending.value? = none := by
  cases ending with
  | ok a => exact absurd rfl (broken a)
  | failed e => rfl
  | aborted => rfl

/-- The output takes all that is printed: every text, or the run is quiet. -/
def Machine.Shows (m : Machine) (quiet : Bool) : Prop :=
  quiet = false → m.Takes

theorem Machine.Takes.shows {m : Machine} (takes : m.Takes) (quiet : Bool) : m.Shows quiet :=
  fun _ => takes

theorem Machine.steady_takes : Machine.steady.Takes :=
  fun _ _ => rfl

namespace Run

variable {σ ε δ α β γ : Type}

theorem bind_apply (run : Run σ ε α) (next : α → Run σ ε β) (m : Machine) (w : World σ) :
    (run >>= next) m w =
      match run m w with
      | (.ok a, w) => next a m w
      | (.failed e, w) => (.failed e, w)
      | (.aborted, w) => (.aborted, w) := rfl

@[simp] theorem pure_apply (a : α) (m : Machine) (w : World σ) :
    (pure a : Run σ ε α) m w = (.ok a, w) := rfl

theorem map_apply (run : Run σ ε α) (f : α → β) (m : Machine) (w : World σ) :
    (run >>= fun a => pure (f a)) m w = ((run m w).1.map f, (run m w).2) := by
  rw [bind_apply]
  cases result : run m w with
  | mk ending after => cases ending <;> rfl

/-! ## Files that stay -/

/-- The run touches no file. -/
def Keeps (run : Run σ ε α) : Prop :=
  ∀ m w, (run m w).2.files = w.files

theorem Keeps.pure (a : α) : Keeps (pure a : Run σ ε α) := fun _ _ => rfl

theorem Keeps.bind {run : Run σ ε α} {next : α → Run σ ε β} (first : run.Keeps)
    (rest : ∀ a, (next a).Keeps) : (run >>= next).Keeps := by
  intro m w
  have kept := first m w
  rw [bind_apply]
  cases result : run m w with
  | mk ending after =>
    rw [result] at kept
    cases ending with
    | ok a => exact (rest a m after).trans kept
    | failed e => exact kept
    | aborted => exact kept

theorem Keeps.ofEnding (ending : Ending ε α) : Keeps (Run.ofEnding ending : Run σ ε α) :=
  fun _ _ => rfl

theorem Keeps.ofExcept (result : Except ε α) : Keeps (Run.ofExcept result : Run σ ε α) :=
  fun _ _ => rfl

theorem Keeps.look (read : Files → Except ε α) : Keeps (Run.look read : Run σ ε α) :=
  fun _ _ => rfl

theorem Keeps.ask (answer : σ → Ending ε α × σ) : Keeps (Run.ask answer) :=
  fun _ _ => rfl

theorem Keeps.fail (e : ε) : Keeps (Run.fail e : Run σ ε α) :=
  fun _ _ => rfl

theorem Keeps.offer (text : String) : Keeps (Run.offer text : Run σ ε (Option OsError)) := by
  intro m w
  unfold Run.offer
  split <;> rfl

theorem Keeps.print (text : String) : Keeps (Run.print text : Run σ ε Unit) := by
  refine .bind (.offer text) fun refused? => ?_
  cases refused? with
  | none => exact .pure ()
  | some cause => exact .ofEnding _

theorem Keeps.printLine (line : String) : Keeps (Run.printLine line : Run σ ε Unit) :=
  .print _

theorem Keeps.status (quiet : Bool) (line : String) :
    Keeps (Run.status quiet line : Run σ ε Unit) := by
  cases quiet with
  | true => exact .pure ()
  | false => exact .printLine line

theorem Keeps.mapError {run : Run σ ε α} (kept : run.Keeps) (f : ε → δ) :
    Keeps (run.mapError f) :=
  fun m w => kept m w

theorem Keeps.attempt {run : Run σ ε α} (kept : run.Keeps) : Keeps run.attempt := by
  intro m w
  have same := kept m w
  unfold Run.attempt
  split <;> simp_all

/-- What holds of the files where the first part stops, and wherever the second may end, holds at the
end. -/
theorem bind_files {run : Run σ ε α} {next : α → Run σ ε β} {m : Machine} {w : World σ}
    (good : Files → Prop) (first : good (run m w).2.files)
    (rest : ∀ a after, run m w = (.ok a, after) → good (next a m after).2.files) :
    good ((run >>= next) m w).2.files := by
  rw [bind_apply]
  cases result : run m w with
  | mk ending after =>
    rw [result] at first
    cases ending with
    | ok a => exact rest a after result
    | failed e => exact first
    | aborted => exact first

/-! ## Values that are given -/

/-- Every value that the run may give has a property. -/
def Gives (run : Run σ ε α) (good : α → Prop) : Prop :=
  ∀ m w a after, run m w = (.ok a, after) → good a

theorem Gives.pure {a : α} {good : α → Prop} (holds : good a) :
    Gives (pure a : Run σ ε α) good := by
  intro m w b after success
  cases success
  exact holds

theorem Gives.any {run : Run σ ε α} : run.Gives fun _ => True :=
  fun _ _ _ _ _ => trivial

theorem Gives.bind {run : Run σ ε α} {next : α → Run σ ε β} (good : β → Prop)
    (rest : ∀ a, (next a).Gives good) : (run >>= next).Gives good := by
  intro m w b after success
  rw [bind_apply] at success
  split at success
  · exact rest _ _ _ _ _ success
  · cases success
  · cases success

theorem Gives.map {run : Run σ ε α} {good : α → Prop} {f : α → β} {better : β → Prop}
    (gives : run.Gives good) (same : ∀ a, good a → better (f a)) :
    (run >>= fun a => Pure.pure (f a)).Gives better := by
  intro m w b after success
  rw [bind_apply] at success
  split at success
  case h_1 a _ ends =>
    cases success
    exact same a (gives _ _ _ _ ends)
  · cases success
  · cases success

/-- A run that asks the files first goes on with their answer. -/
theorem look_bind_ok {read : Files → Except ε α} {next : α → Run σ ε β} {m : Machine}
    {w after : World σ} {b : β} (success : (Run.look read >>= next) m w = (.ok b, after)) :
    ∃ a, read w.files = .ok a ∧ next a m w = (.ok b, after) := by
  rw [bind_apply, Run.look] at success
  cases answer : read w.files with
  | error e =>
    rw [answer] at success
    cases success
  | ok a =>
    rw [answer] at success
    exact ⟨a, rfl, success⟩

/-! ## Lines -/

theorem print_apply {m : Machine} (takes : m.Takes) (text : String) (w : World σ) :
    (Run.print text : Run σ ε Unit) m w = (.ok (), { w with output := w.output ++ text }) := by
  unfold Run.print
  rw [bind_apply, Run.offer, takes]
  rfl

theorem print_cases (text : String) (m : Machine) (w : World σ) :
    ∃ after : World σ, after.files = w.files ∧ after.chain = w.chain ∧
      ((Run.print text : Run σ ε Unit) m w = (.ok (), after) ∨
        ¬m.Takes ∧ (Run.print text : Run σ ε Unit) m w = (.aborted, after)) := by
  unfold Run.print
  rw [bind_apply, Run.offer]
  cases refused : m.refused? w.output text with
  | none => exact ⟨{ w with output := w.output ++ text }, rfl, rfl, .inl rfl⟩
  | some refusal =>
    refine ⟨{ w with output := w.output ++ refusal.2 }, rfl, rfl, .inr ⟨fun takes => ?_, rfl⟩⟩
    rw [takes] at refused
    cases refused

/-- A line leaves files and chain, and only one that is not taken breaks the run. -/
theorem status_cases (quiet : Bool) (line : String) (m : Machine) (w : World σ) :
    ∃ after : World σ, after.files = w.files ∧ after.chain = w.chain ∧
      ((Run.status quiet line : Run σ ε Unit) m w = (.ok (), after) ∨
        ¬m.Shows quiet ∧ (Run.status quiet line : Run σ ε Unit) m w = (.aborted, after)) := by
  cases quiet with
  | true => exact ⟨w, rfl, rfl, .inl rfl⟩
  | false =>
    obtain ⟨after, files, chain, ends⟩ := print_cases (ε := ε) (line ++ "\n") m w
    refine ⟨after, files, chain, ends.imp id fun ⟨refuses, ends⟩ => ⟨fun shows => ?_, ends⟩⟩
    exact refuses (shows rfl)

theorem status_apply {m : Machine} {quiet : Bool} (shows : m.Shows quiet) (line : String)
    (w : World σ) : ∃ after, (Run.status quiet line : Run σ ε Unit) m w = (.ok (), after) ∧
      after.files = w.files ∧ after.chain = w.chain := by
  obtain ⟨after, files, chain, ends | ⟨hidden, -⟩⟩ := status_cases (ε := ε) quiet line m w
  · exact ⟨after, ends, files, chain⟩
  · exact absurd shows hidden

theorem status_bind {m : Machine} {quiet : Bool} (shows : m.Shows quiet) (line : String)
    (next : Unit → Run σ ε α) (w : World σ) :
    ∃ after, (Run.status quiet line >>= next) m w = next () m after ∧ after.files = w.files ∧
      after.chain = w.chain := by
  obtain ⟨after, told, same⟩ := status_apply (ε := ε) shows line w
  exact ⟨after, by rw [bind_apply, told], same⟩

/-! ## Appends -/

/-- What a run that appends to a log may leave of the files, told by its ending: only a run that gives
an entry has appended it, and any other leaves the files or ends with an append that failed, unless it
could not show what it has done. -/
inductive Appended (shows : Prop) (disk : Files.Disk) (log : AppendLog γ) (given? : α → Option γ)
    (f : Files) : Ending ε α → Files → Prop
  | stored {a : α} {entry : γ} {count : Nat} {g : Files} (given : given? a = some entry)
      (step : log.append entry disk f = (.ok count, g)) :
      Appended shows disk log given? f (.ok a) g
  | skipped {a : α} (nothing : given? a = none) : Appended shows disk log given? f (.ok a) f
  | stopped {ending : Ending ε α} (broken : ∀ a, ending ≠ .ok a) :
      Appended shows disk log given? f ending f
  | refused {ending : Ending ε α} {entry : γ} {e : LogError} {g : Files}
      (broken : ∀ a, ending ≠ .ok a) (step : log.append entry disk f = (.error e, g)) :
      Appended shows disk log given? f ending g
  | untold {entry : γ} {count : Nat} {g : Files} (hidden : ¬shows)
      (step : log.append entry disk f = (.ok count, g)) :
      Appended shows disk log given? f .aborted g

/-- The run appends to a log what it gives; it needs the output to show what it prints. -/
def Appends (run : Run σ ε α) (quiet : Bool) (log : AppendLog γ) (given? : α → Option γ) : Prop :=
  ∀ m w, Appended (m.Shows quiet) m.disk log given? w.files (run m w).1 (run m w).2.files

variable {quiet : Bool} {log : AppendLog γ} {given? : α → Option γ}

theorem Appends.after {run : Run σ ε β} {next : β → Run σ ε α} (first : run.Keeps)
    (rest : ∀ b, (next b).Appends quiet log given?) : (run >>= next).Appends quiet log given? := by
  intro m w
  have kept := first m w
  rw [bind_apply]
  cases result : run m w with
  | mk ending after =>
    rw [result] at kept
    change after.files = w.files at kept
    rw [← kept]
    cases ending with
    | ok b => exact rest b m after
    | failed e => exact .stopped (by simp)
    | aborted => exact .stopped (by simp)

theorem Appends.nothing {a : α} (nothing : given? a = none) :
    Appends (Pure.pure a : Run σ ε α) quiet log given? :=
  fun _ _ => .skipped nothing

variable {shows : Prop} {disk : Files.Disk}

theorem Appended.map {given : β → Option γ} {f g : Files} {ending : Ending ε β} {h : β → α}
    (before : Appended shows disk log given f ending g) (same : ∀ b, given? (h b) = given b) :
    Appended shows disk log given? f (ending.map h) g := by
  have broken {ending : Ending ε β} (stays : ∀ b, ending ≠ .ok b) (a : α) : ending.map h ≠ .ok a := by
    cases ending with
    | ok b => exact absurd rfl (stays b)
    | failed e => nofun
    | aborted => nofun
  cases before with
  | stored told step => exact .stored ((same _).trans told) step
  | skipped none => exact .skipped ((same _).trans none)
  | stopped stays => exact .stopped (broken stays)
  | refused stays step => exact .refused (broken stays) step
  | untold hidden step => exact .untold hidden step

theorem Appends.map {run : Run σ ε β} {given : β → Option γ} {f : β → α}
    (appends : run.Appends quiet log given) (same : ∀ b, given? (f b) = given b) :
    (run >>= fun b => Pure.pure (f b)).Appends quiet log given? := by
  intro m w
  rw [map_apply]
  exact (appends m w).map same

/-- An append, a line about it, and then the value. -/
theorem Appends.last {entry : γ} {a : α} (given : given? a = some entry) (name : LogError → ε)
    (line : Nat → String) :
    Appends ((Run.change (log.append entry)).mapError name >>= fun n =>
      Run.status quiet (line n) >>= fun _ => (pure a : Run σ ε α)) quiet log given? := by
  intro m w
  rw [bind_apply]
  cases step : log.append entry m.disk w.files with
  | mk result g =>
    simp only [Run.mapError, Run.change, step]
    cases result with
    | error e => exact .refused nofun step
    | ok count =>
      simp only [Ending.ofExcept, Ending.mapError, bind_apply]
      obtain ⟨after, files, -, ends | ⟨hidden, ends⟩⟩ :=
        status_cases (ε := ε) quiet (line count) m { w with files := g }
      · rw [ends]
        dsimp only
        rw [pure_apply, files]
        exact .stored given step
      · rw [ends]
        dsimp only
        rw [files]
        exact .untold hidden step

/-! ## Runs that complete -/

/-- The run gives a value from wherever it starts on a machine. -/
def Completes (m : Machine) (run : Run σ ε α) : Prop :=
  ∀ w, ∃ a after, run m w = (.ok a, after)

variable {m : Machine}

theorem Completes.pure (a : α) : Completes m (Pure.pure a : Run σ ε α) :=
  fun w => ⟨a, w, rfl⟩

theorem Completes.status {quiet : Bool} (shows : m.Shows quiet) (line : String) :
    Completes m (Run.status quiet line : Run σ ε Unit) := by
  intro w
  obtain ⟨after, ends, -⟩ := status_apply (ε := ε) shows line w
  exact ⟨(), after, ends⟩

theorem Completes.bind {run : Run σ ε α} {next : α → Run σ ε β} (first : run.Completes m)
    (rest : ∀ a, (next a).Completes m) : (run >>= next).Completes m := by
  intro w
  obtain ⟨a, after, ends⟩ := first w
  rw [bind_apply, ends]
  exact rest a after

theorem Completes.attempt {run : Run σ ε α} (ends : ∀ w, (run m w).1 ≠ .aborted) :
    run.attempt.Completes m := by
  intro w
  have ended := ends w
  unfold Run.attempt
  cases result : run m w with
  | mk ending after =>
    rw [result] at ended
    cases ending with
    | ok a => exact ⟨_, _, rfl⟩
    | failed e => exact ⟨_, _, rfl⟩
    | aborted => exact absurd rfl ended

end Run

end TokenDesk
