import TokenDesk.Chain.Dialogue

/-!
# Dialogues that end well

What a dialogue has gone through once it gave a value: each step gave one, in the order of the program.
-/

set_option autoImplicit false

namespace TokenDesk

theorem Reply.read_result {α : Type} {reader : Json → Option α} {v : Json} {a : α}
    (found : reader v = some a) : (Reply.result v).read reader = .ok a := by
  simp only [Reply.read, found]

namespace Ending

variable {ε δ α : Type} {a : α} {ending : Ending ε α}

theorem mapError_eq_ok_iff {f : ε → δ} : ending.mapError f = .ok a ↔ ending = .ok a := by
  cases ending <;> simp [mapError]

end Ending

namespace Dialogue

variable {σ ε δ α β : Type} {s s' : σ} {a : α} {b : β} {dialogue : Dialogue σ ε α}
  {next : α → Dialogue σ ε β}

theorem bind_of_ok (found : dialogue s = (.ok a, s')) : (dialogue >>= next) s = next a s' := by
  change Dialogue.bind dialogue next s = _
  rw [Dialogue.bind, found]

theorem bind_of_failed {e : ε} (found : dialogue s = (.failed e, s')) :
    (dialogue >>= next) s = (.failed e, s') := by
  change Dialogue.bind dialogue next s = _
  rw [Dialogue.bind, found]

theorem bind_eq_ok_iff : (dialogue >>= next) s = (.ok b, s') ↔
    ∃ a between, dialogue s = (.ok a, between) ∧ next a between = (.ok b, s') := by
  change Dialogue.bind dialogue next s = _ ↔ _
  unfold Dialogue.bind
  cases found : dialogue s with
  | mk ending between => cases ending <;> simp [and_assoc]

theorem pure_eq_ok_iff {c : α} : (pure c : Dialogue σ ε α) s = (.ok a, s') ↔ c = a ∧ s = s' := by
  change ((Ending.ok c : Ending ε α), s) = (.ok a, s') ↔ _
  simp

theorem fail_eq_ok_iff {e : ε} : (fail e : Dialogue σ ε α) s = (.ok a, s') ↔ False := by
  simp [fail]

theorem ofEnding_eq_ok_iff {ending : Ending ε α} :
    (ofEnding ending : Dialogue σ ε α) s = (.ok a, s') ↔ ending = .ok a ∧ s = s' :=
  Prod.mk.injEq .. ▸ Iff.rfl

theorem ofExcept_eq_ok_iff {result : Except ε α} :
    (ofExcept result : Dialogue σ ε α) s = (.ok a, s') ↔ result = .ok a ∧ s = s' := by
  cases result <;> simp [ofExcept, Ending.ofExcept]

theorem mapError_of_eq {f : ε → δ} {ending : Ending ε α} (found : dialogue s = (ending, s')) :
    dialogue.mapError f s = (ending.mapError f, s') := by
  rw [mapError, found]

theorem mapError_eq_ok_iff {f : ε → δ} :
    dialogue.mapError f s = (.ok a, s') ↔ dialogue s = (.ok a, s') := by
  unfold mapError
  cases dialogue s
  simp [Ending.mapError_eq_ok_iff]

/-- The node's reply to a request is read as a value. -/
def Answers (node : Node σ) (method : String) (params : List Json) (reader : Json → Option α)
    (s : σ) (a : α) (s' : σ) : Prop :=
  ∃ reply, node.answer ⟨method, params⟩ s = (reply, s') ∧ reply.read reader = .ok a

theorem ask_eq_ok_iff {node : Node σ} {method : String} {params : List Json}
    {reader : Json → Option α} :
    ask node method params reader s = (.ok a, s') ↔ Answers node method params reader s a s' := by
  unfold ask Answers
  rw [bind_eq_ok_iff]
  simp only [request, ofExcept_eq_ok_iff, Prod.mk.injEq, Ending.ok.injEq]
  constructor
  · rintro ⟨reply, between, ⟨rfl, rfl⟩, read, rfl⟩
    exact ⟨_, rfl, read⟩
  · rintro ⟨reply, answered, read⟩
    exact ⟨reply, s', by simp [answered], read, rfl⟩

end Dialogue

end TokenDesk
