import Mathlib.Data.List.TakeWhile
import Mathlib.Data.Option.Basic

/-!
# Parsers

A parser takes something from the front of a text, or fails. `Local` says that it does not look past a
character of a given kind, so that what is behind such a character makes no difference. `Consumes` says
what the characters are like that it takes.
-/

namespace Parsing

variable {σ α β : Type}

abbrev Parser (σ : Type) := StateT (List σ) Option

/-- The whole text has to be taken. -/
def parseWith (p : Parser σ α) (text : List σ) : Option α :=
  match p text with
  | some (a, []) => some a
  | _ => none

theorem parseWith_eq_some {p : Parser σ α} {text : List σ} {a : α} :
    parseWith p text = some a ↔ p text = some (a, []) := by
  unfold parseWith
  split <;> simp_all

/-- The characters at the front that satisfy `P`. -/
def run (P : σ → Bool) : Parser σ (List σ) := fun text => some (text.takeWhile P, text.dropWhile P)

def lift (result : Option α) : Parser σ α := fun text => result.map (·, text)

def given [DecidableEq σ] (target : σ) : Parser σ Unit
  | c :: text => if c = target then some ((), text) else none
  | [] => none

theorem bind_of_none {p : Parser σ α} {text : List σ} (failed : p text = none) (q : α → Parser σ β) :
    (p >>= q) text = none := by
  show (p text).bind _ = none
  rw [failed]
  rfl

theorem bind_of_some {p : Parser σ α} {text rest : List σ} {a : α} (taken : p text = some (a, rest))
    (q : α → Parser σ β) : (p >>= q) text = q a rest := by
  show (p text).bind _ = _
  rw [taken]
  rfl

theorem orElse_of_none {p : Parser σ α} {text : List σ} (failed : p text = none) (q : Parser σ α) :
    (p <|> q) text = q text := by
  show (p text <|> q text) = q text
  rw [failed]
  rfl

@[simp] theorem given_self [DecidableEq σ] (c : σ) (text : List σ) : given c (c :: text) = some ((), text) :=
  if_pos rfl

theorem given_of_ne [DecidableEq σ] {c target : σ} (other : c ≠ target) (text : List σ) :
    given target (c :: text) = none :=
  if_neg other

/-! ### Local parsers -/

def Local (stop : σ → Prop) (p : Parser σ α) : Prop :=
  ∀ text behind, (∀ c ∈ behind.head?, stop c) →
    p (text ++ behind) = (p text).map fun (a, rest) => (a, rest ++ behind)

variable {stop : σ → Prop}

theorem local_pure (a : α) : Local stop (pure a : Parser σ α) := fun _ _ _ => rfl

theorem local_failure : Local stop (failure : Parser σ α) := fun _ _ _ => rfl

theorem local_lift (result : Option α) : Local stop (lift result : Parser σ α) := by
  intro text behind _
  cases result <;> rfl

theorem Local.bind {p : Parser σ α} {q : α → Parser σ β} (first : Local stop p) (then_ : ∀ a, Local stop (q a)) :
    Local stop (p >>= q) := by
  intro text behind stops
  show (p (text ++ behind)).bind _ = ((p text).bind _).map _
  rw [first text behind stops]
  cases p text with
  | none => rfl
  | some result => exact then_ result.1 result.2 behind stops

theorem Local.orElse {p q : Parser σ α} (left : Local stop p) (right : Local stop q) : Local stop (p <|> q) := by
  intro text behind stops
  show (p (text ++ behind) <|> q (text ++ behind)) = (p text <|> q text).map _
  rw [left text behind stops, right text behind stops]
  cases p text <;> rfl

theorem local_given [DecidableEq σ] {target : σ} (other : ∀ c, stop c → c ≠ target) : Local stop (given target) := by
  intro text behind stops
  cases text with
  | cons c text =>
    show (if c = target then _ else _) = (if c = target then _ else _ : Option (Unit × List σ)).map _
    split <;> rfl
  | nil =>
    cases behind with
    | nil => rfl
    | cons c behind => exact if_neg (other c (stops c rfl))

theorem local_run {P : σ → Bool} (other : ∀ c, stop c → P c = false) : Local stop (run P) := by
  intro text behind stops
  induction text with
  | nil =>
    cases behind with
    | nil => rfl
    | cons c behind =>
      have stopped := other c (stops c rfl)
      simp [run, stopped]
  | cons c text ih =>
    obtain ⟨taken, left⟩ : (text ++ behind).takeWhile P = text.takeWhile P ∧
        (text ++ behind).dropWhile P = text.dropWhile P ++ behind := by simpa [run] using ih
    cases fits : P c <;> simp [run, fits, taken, left]

/-! ### What a parser takes -/

def Consumes (P : σ → Prop) (p : Parser σ α) : Prop :=
  ∀ text a rest, p text = some (a, rest) → ∃ front, text = front ++ rest ∧ ∀ c ∈ front, P c

variable {P : σ → Prop}

theorem of_orElse {p q : Parser σ α} {text : List σ} {result : α × List σ} (taken : (p <|> q) text = some result) :
    p text = some result ∨ q text = some result := by
  change (p text <|> q text) = some result at taken
  cases left : p text with
  | none => exact Or.inr (by simpa [left] using taken)
  | some other => exact Or.inl (by simpa [left] using taken)

theorem consumes_pure (a : α) : Consumes P (pure a : Parser σ α) := by
  rintro text _ _ ⟨⟩
  exact ⟨[], rfl, by simp⟩

theorem consumes_failure : Consumes P (failure : Parser σ α) := by
  rintro _ _ _ ⟨⟩

theorem consumes_lift (result : Option α) : Consumes P (lift result : Parser σ α) := by
  intro text a rest taken
  obtain ⟨_, _, same⟩ := Option.map_eq_some_iff.mp taken
  cases same
  exact ⟨[], rfl, by simp⟩

theorem Consumes.bind {p : Parser σ α} {q : α → Parser σ β} (first : Consumes P p) (then_ : ∀ a, Consumes P (q a)) :
    Consumes P (p >>= q) := by
  intro text b rest taken
  obtain ⟨⟨a, middle⟩, head, tail⟩ := Option.bind_eq_some_iff.mp taken
  obtain ⟨front, rfl, all⟩ := first text a middle head
  obtain ⟨back, rfl, all'⟩ := then_ a middle b rest tail
  refine ⟨front ++ back, (List.append_assoc ..).symm, fun c member => ?_⟩
  rcases List.mem_append.mp member with early | late
  · exact all c early
  · exact all' c late

theorem Consumes.orElse {p q : Parser σ α} (left : Consumes P p) (right : Consumes P q) : Consumes P (p <|> q) := by
  intro text a rest taken
  rcases of_orElse taken with taken | taken
  · exact left text a rest taken
  · exact right text a rest taken

theorem consumes_given [DecidableEq σ] {target : σ} (holds : P target) : Consumes P (given target) := by
  intro text a rest taken
  cases text with
  | nil => cases taken
  | cons c text =>
    obtain ⟨rfl, same⟩ := Option.ite_none_right_eq_some.mp taken
    cases same
    exact ⟨[c], rfl, by simpa using holds⟩

theorem consumes_run {Q : σ → Bool} (holds : ∀ c, Q c = true → P c) : Consumes P (run Q) := by
  intro text a rest taken
  cases taken
  exact ⟨text.takeWhile Q, List.takeWhile_append_dropWhile.symm,
    fun c member => holds c (List.mem_takeWhile_imp member)⟩

/-- It does not succeed without a `target` in the text. -/
def Includes (target : σ) (p : Parser σ α) : Prop := ∀ text a rest, p text = some (a, rest) → target ∈ text

theorem includes_given [DecidableEq σ] (target : σ) : Includes target (given target) := by
  intro text a rest taken
  cases text with
  | nil => cases taken
  | cons c text =>
    obtain ⟨rfl, _⟩ := Option.ite_none_right_eq_some.mp taken
    exact List.mem_cons_self

theorem Includes.bind {target : σ} {p : Parser σ α} (first : Includes target p) (q : α → Parser σ β) :
    Includes target (p >>= q) := by
  intro text b rest taken
  obtain ⟨⟨a, middle⟩, head, _⟩ := Option.bind_eq_some_iff.mp taken
  exact first text a middle head

theorem Consumes.includes_bind {target : σ} {p : Parser σ α} {q : α → Parser σ β} (first : Consumes P p)
    (then_ : ∀ a, Includes target (q a)) : Includes target (p >>= q) := by
  intro text b rest taken
  obtain ⟨⟨a, middle⟩, head, tail⟩ := Option.bind_eq_some_iff.mp taken
  obtain ⟨front, rfl, _⟩ := first text a middle head
  exact List.mem_append_right front (then_ a middle b rest tail)

theorem Includes.orElse {target : σ} {p q : Parser σ α} (left : Includes target p) (right : Includes target q) :
    Includes target (p <|> q) := by
  intro text a rest taken
  rcases of_orElse taken with taken | taken
  · exact left text a rest taken
  · exact right text a rest taken

end Parsing
