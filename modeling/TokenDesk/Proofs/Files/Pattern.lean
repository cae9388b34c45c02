import TokenDesk.Files.Pattern

/-!
# What patterns stand for

A text without wildcards stands for itself (`tokens_of_isPlain`, `accepts_chars`), and a star before
such a text for every name with that ending (`accepts_ending`).
-/

set_option autoImplicit false

namespace TokenDesk.Pattern

/-- A text without wildcards. -/
def IsPlain (text : String) : Prop :=
  ∀ c ∈ text.toList, c ≠ '?' ∧ c ≠ '*' ∧ c ≠ '['

instance (text : String) : Decidable (IsPlain text) :=
  List.decidableBAll (fun c => c ≠ '?' ∧ c ≠ '*' ∧ c ≠ '[') text.toList

theorem tokensFrom_char {c : Char} (plain : c ≠ '?' ∧ c ≠ '*' ∧ c ≠ '[') (fuel position : Nat)
    (start : Bool) (cs : List Char) : tokensFrom (fuel + 1) position start (c :: cs) =
      (tokensFrom fuel (position + 1) (c == '/') cs).map (.char c :: ·) := by
  obtain ⟨one, run, set⟩ := plain
  conv => lhs; unfold tokensFrom
  dsimp only
  rw [if_neg one, if_neg run, if_neg set]

theorem tokensFrom_of_plain {cs : List Char} (plain : ∀ c ∈ cs, c ≠ '?' ∧ c ≠ '*' ∧ c ≠ '[')
    {fuel : Nat} (enough : cs.length < fuel) (position : Nat) (start : Bool) :
    tokensFrom fuel position start cs = .ok (cs.map .char) := by
  induction cs generalizing fuel position start with
  | nil => cases fuel <;> rfl
  | cons c cs ih =>
    obtain ⟨fuel, rfl⟩ := Nat.exists_eq_add_one_of_ne_zero (Nat.ne_zero_of_lt enough)
    have rest := ih (fun d member => plain d (by simp [member]))
      (Nat.lt_of_succ_lt_succ enough) (position + 1) (c == '/')
    rw [tokensFrom_char (plain c (by simp)), rest]
    rfl

/-- Characters without wildcards are read one by one, and then what stands behind them. -/
theorem exists_tokensFrom_append {cs : List Char} (plain : ∀ c ∈ cs, c ≠ '?' ∧ c ≠ '*' ∧ c ≠ '[')
    (rest : List Char) (fuel position : Nat) (start : Bool) : ∃ later,
      tokensFrom (fuel + cs.length) position start (cs ++ rest) =
        (tokensFrom fuel (position + cs.length) later rest).map (cs.map .char ++ ·) := by
  induction cs generalizing position start with
  | nil =>
    refine ⟨start, ?_⟩
    change tokensFrom fuel position start rest = _
    cases tokensFrom fuel position start rest <;> simp [Except.map]
  | cons c cs ih =>
    obtain ⟨later, read⟩ := ih (fun d member => plain d (by simp [member])) (position + 1) (c == '/')
    refine ⟨later, ?_⟩
    have place : position + 1 + cs.length = position + (cs.length + 1) := by omega
    rw [List.length_cons, ← Nat.add_assoc, List.cons_append, tokensFrom_char (plain c (by simp)), read,
      place]
    cases tokensFrom fuel (position + (cs.length + 1)) later rest <;> simp [Except.map]

theorem tokens_of_isPlain {text : String} (plain : IsPlain text) :
    tokens text = .ok (text.toList.map .char) := by
  have enough : text.toList.length < text.length + 1 := by
    rw [String.length_toList]
    exact Nat.lt_succ_self _
  exact tokensFrom_of_plain plain enough 0 true

theorem mapM_tokens_of_isPlain {texts : List String} (each : ∀ text ∈ texts, IsPlain text) :
    texts.mapM tokens = .ok (texts.map fun text => text.toList.map .char) := by
  induction texts with
  | nil => rfl
  | cons text texts ih =>
    rw [List.mapM_cons, tokens_of_isPlain (each text (by simp)),
      ih fun other member => each other (by simp [member])]
    rfl

theorem chars_of_map_cons {token : Token} {rest : Except Error (List Token)} {cs : List Char}
    (more : rest.map (token :: ·) = .ok (cs.map .char)) :
    ∃ c later, cs = c :: later ∧ token = .char c ∧ rest = .ok (later.map .char) := by
  cases rest with
  | error e => cases more
  | ok tokens =>
    cases cs with
    | nil => cases more
    | cons c later =>
      obtain ⟨first, tail⟩ := List.cons.inj (Except.ok.inj more)
      exact ⟨c, later, rfl, first, by rw [tail]⟩

/-- What stands for itself is written as it is. -/
theorem eq_of_tokensFrom {input cs : List Char} {fuel position : Nat} {start : Bool}
    (enough : input.length < fuel)
    (found : tokensFrom fuel position start input = .ok (cs.map .char)) : input = cs := by
  have wild {token : Token} {rest : Except Error (List Token)} {cs : List Char}
      (other : ∀ c, token ≠ .char c) : rest.map (token :: ·) ≠ .ok (cs.map .char) := by
    intro more
    obtain ⟨c, -, -, first, -⟩ := chars_of_map_cons more
    exact other c first
  induction fuel generalizing input cs position start with
  | zero => exact absurd enough (Nat.not_lt_zero _)
  | succ fuel ih =>
    cases input with
    | nil =>
      cases cs with
      | nil => rfl
      | cons c cs => cases found
    | cons c input =>
      unfold tokensFrom at found
      dsimp only at found
      -- Only the last branch reads a character that stands for itself.
      split at found
      · exact absurd found (wild (by simp))
      · split at found
        · split at found
          · cases found
          · split at found
            · cases found
            · split at found
              · exact absurd found (wild (by simp))
              · exact absurd found (wild (by simp))
              · cases found
          · exact absurd found (wild (by simp))
        · split at found
          · split at found
            · split at found
              · exact absurd found (wild (by simp))
              · cases found
            · split at found
              · exact absurd found (wild (by simp))
              · cases found
          · obtain ⟨d, later, rfl, same, rest⟩ := chars_of_map_cons found
            cases same
            rw [ih (Nat.lt_of_succ_lt_succ enough) rest]

theorem literal?_chars (cs : List Char) : literal? (cs.map .char) = some cs := by
  induction cs with
  | nil => rfl
  | cons c cs ih => rw [List.map_cons, literal?, ih, Option.map_some]

theorem eq_chars_of_literal? {tokens : List Token} {cs : List Char}
    (only : literal? tokens = some cs) : tokens = cs.map .char := by
  induction tokens generalizing cs with
  | nil =>
    cases only
    rfl
  | cons token tokens ih =>
    cases token with
    | char c =>
      rw [literal?] at only
      obtain ⟨rest, found, rfl⟩ := Option.map_eq_some_iff.mp only
      rw [ih found, List.map_cons]
    | anyChar | anyRun | anyDepth | within | except => cases only

theorem eq_of_tokens {text : String} {tokens : List Token} {cs : List Char}
    (read : Pattern.tokens text = .ok tokens) (only : literal? tokens = some cs) :
    text.toList = cs := by
  have enough : text.toList.length < text.length + 1 := by
    rw [String.length_toList]
    exact Nat.lt_succ_self _
  rw [eq_chars_of_literal? only] at read
  exact eq_of_tokensFrom enough read

theorem accepts_chars {cs name : List Char} : accepts (cs.map .char) name = true ↔ name = cs := by
  induction cs generalizing name with
  | nil => simp [accepts]
  | cons c cs ih =>
    cases name with
    | nil => simp [accepts]
    | cons d name => simp [accepts, Token.admits, ih]

theorem someEnd_iff {passes : List Char → Bool} {cs : List Char} :
    someEnd passes cs = true ↔ ∃ before after, cs = before ++ after ∧ passes after = true := by
  induction cs with
  | nil =>
    constructor
    · intro found
      exact ⟨[], [], rfl, found⟩
    · rintro ⟨before, after, whole, found⟩
      obtain ⟨rfl, rfl⟩ := List.append_eq_nil_iff.mp whole.symm
      exact found
  | cons c cs ih =>
    rw [someEnd, Bool.or_eq_true, ih]
    constructor
    · rintro (found | ⟨before, after, rfl, found⟩)
      · exact ⟨[], c :: cs, rfl, found⟩
      · exact ⟨c :: before, after, rfl, found⟩
    · rintro ⟨before, after, whole, found⟩
      cases before with
      | nil =>
        rw [List.nil_append] at whole
        exact .inl (whole ▸ found)
      | cons d before =>
        obtain ⟨rfl, rest⟩ := List.cons.inj whole
        exact .inr ⟨before, after, rest, found⟩

theorem accepts_ending {ending name : List Char} :
    accepts (.anyRun :: ending.map .char) name = true ↔ ∃ before, name = before ++ ending := by
  rw [accepts, someEnd_iff]
  simp only [accepts_chars]
  constructor
  · rintro ⟨before, _, whole, rfl⟩
    exact ⟨before, whole⟩
  · rintro ⟨before, whole⟩
    exact ⟨before, ending, whole, rfl⟩

end TokenDesk.Pattern
