import LintMark.Json.Reader
import Mathlib.Data.List.Basic

/-!
# The first fault of a document

A document is read token by token, and of two faults the first one counts. So an integer of too many
digits is the fault of a document if and only if the tokens before it are the beginning of a
document, and a value has to come next (`read_eq_longInteger_iff`).
-/

namespace LintMark

namespace Json

/-! ## Integers of too many digits -/

/-- A fold that fails does so at one of its elements, behind others that it got through. -/
theorem foldlM_eq_error_iff {σ α ε : Type} {f : σ → α → Except ε σ} {xs : List α} {s : σ} {e : ε} :
    xs.foldlM f s = .error e ↔
      ∃ before x after t, xs = before ++ x :: after ∧ before.foldlM f s = .ok t ∧
        f t x = .error e := by
  induction xs generalizing s with
  | nil =>
    constructor
    · intro h
      cases h
    · rintro ⟨before, x, after, t, hxs, -, -⟩
      exact absurd hxs.symm (by simp)
  | cons y ys ih =>
    rw [List.foldlM_cons]
    constructor
    · intro h
      cases hy : f s y with
      | error e' =>
        rw [hy] at h
        cases h
        exact ⟨[], y, ys, s, rfl, rfl, hy⟩
      | ok s' =>
        rw [hy] at h
        obtain ⟨before, x, after, t, rfl, hbefore, hx⟩ := ih.1 h
        refine ⟨y :: before, x, after, t, rfl, ?_, hx⟩
        rw [List.foldlM_cons, hy]
        exact hbefore
    · rintro ⟨before, x, after, t, hxs, hbefore, hx⟩
      cases before with
      | nil =>
        cases hxs
        cases hbefore
        rw [hx]
        rfl
      | cons z before =>
        cases hxs
        rw [List.foldlM_cons] at hbefore
        cases hy : f s y with
        | error e' => rw [hy] at hbefore; cases hbefore
        | ok s' =>
          rw [hy] at hbefore
          exact ih.2 ⟨before, x, after, t, rfl, hbefore, hx⟩

/-- The state before the first token. -/
def start : State := ⟨[], .value false⟩

/-- A value has to come next. -/
def State.ExpectsValue (s : State) : Prop := ∃ closable, s.mode = .value closable

theorem elim_malformed_ne_longInteger (o : Option State) :
    o.elim (.error ReadError.malformed) .ok ≠ (.error .longInteger : Except ReadError State) := by
  cases o <;> exact fun h ↦ nomatch h

theorem step_eq_longInteger_iff {s : State} {token : Token} :
    step s token = .error .longInteger ↔ token = .longInteger ∧ s.ExpectsValue := by
  constructor
  · intro h
    simp only [step] at h
    split at h
    · next hmode => exact ⟨rfl, _, hmode⟩
    · exact absurd h (elim_malformed_ne_longInteger _)
    · exact absurd h (elim_malformed_ne_longInteger _)
    · cases h
    · exact absurd h (elim_malformed_ne_longInteger _)
    · cases h
  · rintro ⟨rfl, closable, hmode⟩
    simp only [step, hmode]

/-- The text has an integer of too many digits where a value has to come, and is well-formed up to
there. -/
def MeetsLongInteger (text : String) : Prop :=
  ∃ before after s, tokensAfter [] text.toList = before ++ .longInteger :: after ∧
    before.foldlM step start = .ok s ∧ s.ExpectsValue

/-- The value of a final state is there, or the document is malformed. -/
theorem value_ne_longInteger (final : State) :
    (match final with
      | ⟨[], .complete v⟩ => Except.ok v
      | _ => .error ReadError.malformed) ≠ .error .longInteger := by
  split <;> exact fun h ↦ nomatch h

theorem read_eq_longInteger_iff {text : String} :
    read text = .error .longInteger ↔ MeetsLongInteger text := by
  have hfold : read text = .error .longInteger ↔
      (tokensAfter [] text.toList).foldlM step start = .error .longInteger := by
    rw [read, ← start]
    cases (tokensAfter [] text.toList).foldlM step start with
    | error e =>
      constructor
      · intro h
        cases h
        rfl
      · intro h
        cases h
        rfl
    | ok final =>
      refine iff_of_false (fun h ↦ ?_) fun h ↦ nomatch h
      exact absurd h (value_ne_longInteger final)
  rw [hfold, foldlM_eq_error_iff]
  constructor
  · rintro ⟨before, token, after, s, htokens, hbefore, hstep⟩
    obtain ⟨rfl, hs⟩ := step_eq_longInteger_iff.1 hstep
    exact ⟨before, after, s, htokens, hbefore, hs⟩
  · rintro ⟨before, after, s, htokens, hbefore, hs⟩
    exact ⟨before, .longInteger, after, s, htokens, hbefore, step_eq_longInteger_iff.2 ⟨rfl, hs⟩⟩

end Json

end LintMark
