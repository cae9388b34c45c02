import TokenDesk.Assistant.Advisor
import TokenDesk.Proofs.Text.Lines

/-!
# What a chat writes

A chat answers the lines of its input up to the first that asks to leave or is no text, and writes nothing behind
it (`chat_heard`). It fails just if it comes to a line that is no text.
-/

set_option autoImplicit false

namespace TokenDesk.Text

theorem occursIn_iff {part cs : List Char} : occursIn part cs = true ↔ part <:+: cs := by
  induction cs with
  | nil => simp [occursIn]
  | cons c cs ih => rw [occursIn, Bool.or_eq_true, List.isPrefixOf_iff_prefix, ih, List.infix_cons_iff]

end TokenDesk.Text

namespace TokenDesk.Assistant

open TokenDesk.Text

variable {line : Octets} {heard behind lines : List Octets} {replies : List String}

/-! ## Advice -/

/-- The keyword of the rule occurs in the question in some letter case. -/
def Rule.Applies (rule : Rule) (question : String) : Prop :=
  rule.keyword.toList <:+: question.toList.map Char.toLower

/-- The advice of the first rule that applies to a question, or the generic one where none does. -/
inductive Advises (question : String) : String → Prop
  | rule {before after : List Rule} {rule : Rule} (first : rules = before ++ rule :: after)
      (others : ∀ other ∈ before, ¬ other.Applies question) (applies : rule.Applies question) :
      Advises question rule.advice
  | generic (none_ : ∀ rule ∈ rules, ¬ rule.Applies question) : Advises question genericAdvice

theorem advises_advise (question : String) : Advises question (advise question) := by
  unfold advise
  dsimp only
  split
  case h_1 rule found =>
    obtain ⟨applies, before, after, first, others⟩ := List.find?_eq_some_iff_append.mp found
    exact .rule first (fun other member => by simpa [Rule.Applies, ← occursIn_iff] using others other member)
      (occursIn_iff.mp applies)
  case h_2 missing =>
    exact .generic fun rule member => by
      simpa [Rule.Applies, ← occursIn_iff] using List.find?_eq_none.mp missing rule member

/-! ## Lines -/

/-- The line asks to leave. -/
def Leaves (line : Octets) : Prop :=
  ∃ text, decode? line = some text ∧ trim text ∈ exitWords

/-- The line is no text. -/
def Garbled (line : Octets) : Prop :=
  decode? line = none

/-- What is written for a line that is a text and does not ask to leave. -/
inductive Replies (line : Octets) : String → Prop
  | blank {text : String} (read : decode? line = some text) (blank : trim text = "") : Replies line prompt
  | advice {text advice : String} (read : decode? line = some text) (some_ : trim text ≠ "")
      (stays : trim text ∉ exitWords) (advises : Advises (trim text) advice) :
      Replies line (advice ++ "\n" ++ prompt)

theorem Garbled.not_leaves (garbled : Garbled line) : ¬ Leaves line := by
  rintro ⟨text, read, -⟩
  cases garbled.symm.trans read

theorem replies_answer {text : String} (read : decode? line = some text) (stays : trim text ∉ exitWords) :
    Replies line (answer (trim text)) := by
  unfold answer
  split
  case isTrue blank => exact .blank read blank
  case isFalse some_ => exact .advice read some_ stays (advises_advise _)

/-- A line is no text, leaves, or is answered, whatever follows it. -/
theorem chatLines_cases (line : Octets) :
    (Garbled line ∧ ∀ lines, chatLines (line :: lines) = ⟨"", true⟩) ∨
      (Leaves line ∧ ∀ lines, chatLines (line :: lines) = ⟨"", false⟩) ∨
      ∃ reply, Replies line reply ∧ ¬ Leaves line ∧ ¬ Garbled line ∧ ∀ lines,
        chatLines (line :: lines) = ⟨reply ++ (chatLines lines).output, (chatLines lines).failed⟩ := by
  cases read : decode? line with
  | none => exact .inl ⟨read, fun lines => by rw [chatLines, read]⟩
  | some text =>
    have clear : ¬ Garbled line := fun garbled => by cases garbled.symm.trans read
    by_cases leaves : trim text ∈ exitWords
    · refine .inr (.inl ⟨⟨text, read, leaves⟩, fun lines => ?_⟩)
      rw [chatLines, read]
      exact if_pos leaves
    · refine .inr (.inr ⟨_, replies_answer read leaves, ?_, clear, fun lines => ?_⟩)
      · rintro ⟨other, again, word⟩
        cases read.symm.trans again
        exact leaves word
      · rw [chatLines, read]
        exact if_neg leaves

/-- The lines up to the first that leaves or is no text are answered one by one. -/
theorem exists_heard (lines : List Octets) : ∃ heard behind replies, lines = heard ++ behind ∧
    List.Forall₂ Replies heard replies ∧ (∀ line ∈ behind.head?, Leaves line ∨ Garbled line) ∧
    (chatLines lines).output = String.join replies := by
  induction lines with
  | nil => exact ⟨[], [], [], rfl, .nil, by simp, rfl⟩
  | cons line lines ih =>
    obtain ⟨heard, behind, replies, split, answered, ends, output⟩ := ih
    rcases chatLines_cases line with ⟨garbled, stopped⟩ | ⟨leaves, stopped⟩ | ⟨reply, replied, -, -, goes⟩
    · exact ⟨[], line :: lines, [], rfl, .nil, by simpa using .inr garbled, by rw [stopped]; rfl⟩
    · exact ⟨[], line :: lines, [], rfl, .nil, by simpa using .inl leaves, by rw [stopped]; rfl⟩
    · refine ⟨line :: heard, behind, reply :: replies, by rw [split]; rfl, .cons replied answered, ends, ?_⟩
      rw [goes, String.join_cons, output]

/-- A chat fails just at a line that is no text and that no line before it leaves at. -/
theorem failed_iff (lines : List Octets) : (chatLines lines).failed = true ↔ ∃ before line after,
    lines = before ++ line :: after ∧ Garbled line ∧ ∀ other ∈ before, ¬ Leaves other := by
  induction lines with
  | nil => simp [chatLines]
  | cons line lines ih =>
    rcases chatLines_cases line with ⟨garbled, stopped⟩ | ⟨leaves, stopped⟩ | ⟨reply, -, stays, clear, goes⟩
    · exact iff_of_true (by rw [stopped]) ⟨[], line, lines, rfl, garbled, by simp⟩
    · refine iff_of_false (by rw [stopped]; decide) ?_
      rintro ⟨before, other, after, split, garbled, stay⟩
      rcases List.cons_eq_append_iff.mp split with ⟨rfl, same⟩ | ⟨before, rfl, -⟩
      · cases same
        exact garbled.not_leaves leaves
      · exact stay line (by simp) leaves
    · rw [goes]
      refine ih.trans ⟨?_, ?_⟩
      · rintro ⟨before, other, after, rfl, garbled, stay⟩
        exact ⟨line :: before, other, after, rfl, garbled, List.forall_mem_cons.mpr ⟨stays, stay⟩⟩
      · rintro ⟨before, other, after, split, garbled, stay⟩
        rcases List.cons_eq_append_iff.mp split with ⟨rfl, same⟩ | ⟨before, rfl, rest⟩
        · cases same
          exact absurd garbled clear
        · exact ⟨before, other, after, rest, garbled, fun one member => stay one (by simp [member])⟩

/-- Lines that come behind others change nothing of what is written for those, and nothing at all behind a line
that leaves or is no text. -/
theorem chatLines_append (lines more : List Octets) :
    (∃ rest, (chatLines (lines ++ more)).output = (chatLines lines).output ++ rest) ∧
      ((∃ line ∈ lines, Leaves line ∨ Garbled line) → chatLines (lines ++ more) = chatLines lines) := by
  induction lines with
  | nil => exact ⟨⟨(chatLines more).output, by simp [chatLines]⟩, by simp⟩
  | cons line lines ih =>
    obtain ⟨⟨rest, longer⟩, same⟩ := ih
    rw [List.cons_append]
    rcases chatLines_cases line with ⟨-, stopped⟩ | ⟨-, stopped⟩ | ⟨reply, -, stays, clear, goes⟩
    · rw [stopped, stopped]
      exact ⟨⟨"", by rw [String.append_empty]⟩, fun _ => rfl⟩
    · rw [stopped, stopped]
      exact ⟨⟨"", by rw [String.append_empty]⟩, fun _ => rfl⟩
    · rw [goes, goes]
      refine ⟨⟨rest, by rw [longer, String.append_assoc]⟩, ?_⟩
      rintro ⟨other, among, ends⟩
      rcases List.mem_cons.mp among with rfl | later
      · exact absurd ends (not_or.mpr ⟨stays, clear⟩)
      · rw [same ⟨other, later, ends⟩]

/-! ## Whole inputs -/

/-- A chat writes a prompt and then, for each line before the first that leaves or is no text, the advice on it if
it is not blank and a prompt, and nothing more. It fails just if a line that is no text comes before any that
leaves. What it writes for complete lines stays whatever follows them, and behind a line that leaves, what
follows changes nothing. -/
theorem chat_heard (input : Octets) :
    (∃ heard behind replies, Lined input (heard ++ behind) ∧ List.Forall₂ Replies heard replies ∧
      (∀ line ∈ behind.head?, Leaves line ∨ Garbled line) ∧
      (chat input).output = prompt ++ String.join replies) ∧
    ((chat input).failed = true ↔ ∃ before line after, Lined input (before ++ line :: after) ∧
      Garbled line ∧ ∀ other ∈ before, ¬ Leaves other) ∧
    (Complete input → ∀ more,
      (∃ rest, (chat (input ++ more)).output = (chat input).output ++ rest) ∧
      ((∃ lines, Lined input lines ∧ ∃ line ∈ lines, Leaves line) → chat (input ++ more) = chat input)) := by
  refine ⟨?_, ?_, fun complete more => ?_⟩
  · obtain ⟨heard, behind, replies, split, answered, ends, output⟩ := exists_heard (inputLines input)
    refine ⟨heard, behind, replies, lined_iff.mpr split.symm, answered, ends, ?_⟩
    rw [chat, output]
  · simp only [lined_iff, eq_comm (b := inputLines input)]
    exact failed_iff (inputLines input)
  · obtain ⟨⟨rest, longer⟩, same⟩ := chatLines_append (inputLines input) (inputLines more)
    rw [← inputLines_append complete] at longer same
    refine ⟨⟨rest, ?_⟩, ?_⟩
    · rw [chat, chat, longer, String.append_assoc]
    · rintro ⟨lines, lined, line, among, leaves⟩
      rw [lined.eq_inputLines] at among
      rw [chat, chat, same ⟨line, among, .inl leaves⟩]

/-- The lines `gas` and `quit`; a carriage return ends the first. -/
def farewell : Octets :=
  [103, 97, 115, 13, 10, 113, 117, 105, 116, 10]

theorem chat_heard_farewell : Complete farewell ∧
    (∃ lines, Lined farewell lines ∧ ∃ line ∈ lines, Leaves line) ∧ chat (farewell ++ [255]) =
      ⟨"> Avoid unbounded loops and heavy storage writes to reduce gas.\n> ", false⟩ := by
  have complete : Complete farewell := by decide
  have leaves : ∃ lines, Lined farewell lines ∧ ∃ line ∈ lines, Leaves line :=
    ⟨_, lined_inputLines farewell, [113, 117, 105, 116], by decide, "quit", by decide +kernel, by decide⟩
  obtain ⟨-, -, continued⟩ := chat_heard farewell
  refine ⟨complete, leaves, ?_⟩
  rw [(continued complete [255]).2 leaves]
  decide +kernel

end TokenDesk.Assistant
