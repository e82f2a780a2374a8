/-
  The moves of the reader, with the tokens that are still ahead by name.

  * `tokens_cons`, `length_tokens_le`: the tokens of a pattern;
  * `ReadState.ahead` is a state with such tokens, and `run_take_eq`, `run_accept` and
    `run_accept_self` say what a move makes of it.
-/
import Clearance.Pattern.Reader

namespace Clearance.Pattern

/-! ## Tokens -/

theorem tokens_cons {c : Char} (h : c ≠ '\\') (rest : List Char) :
    tokens (c :: rest) = .plain c :: tokens rest := by
  rw [tokens]
  · intro e; exact absurd e h
  · intro d r e; exact absurd e h

theorem length_tokens_le (cs : List Char) : (tokens cs).length ≤ cs.length := by
  fun_induction tokens cs with
  | case1 => exact Nat.le_refl 0
  | case2 => exact Nat.le_refl 1
  | case3 c rest ih => simp only [List.length_cons]; omega
  | case4 c rest _ _ ih => simp only [List.length_cons]; omega

/-! ## Moves -/

/-- A state of the reader with other tokens ahead. -/
def ReadState.ahead (s : ReadState) (rest : List Token) (position : Nat) : ReadState :=
  { s with rest, position }

section

variable {α : Type} {s : ReadState} {rest : List Token} {position : Nat}

theorem run_next? (f : Option Token → Read α) : (next? >>= f).run s = (f s.rest.head?).run s := rfl

theorem run_get (f : ReadState → Read α) : (get >>= f).run s = (f s).run s := rfl

/-- The token ahead is taken, unless a backslash without a character is behind it. -/
theorem run_take_eq (f : Option Token → Read α) (token : Token) (position : Nat) :
    (take >>= f).run (s.ahead (token :: rest) position) =
      if rest.head? = some .dangling then
        .error ⟨.danglingEscape, some (position + token.text.length)⟩
      else (f (some token)).run (s.ahead rest (position + token.text.length)) := by
  have ht : take.run (s.ahead (token :: rest) position) = if rest.head? = some .dangling then
      .error ⟨.danglingEscape, some (position + token.text.length)⟩
      else .ok (some token, s.ahead rest (position + token.text.length)) := by
    show (if rest.head? = some .dangling then _ else _ : Read (Option Token)).run _ = _
    split <;> rfl
  rw [StateT.run_bind, ht]
  split <;> rfl

theorem run_take (f : Option Token → Read α) (token : Token) (h : rest.head? ≠ some .dangling) :
    (take >>= f).run (s.ahead (token :: rest) position) =
      (f (some token)).run (s.ahead rest (position + token.text.length)) :=
  (run_take_eq f token position).trans (if_neg h)

theorem run_accept (f : Bool → Read α) {c : Char} (h : rest.head? ≠ some (.plain c)) :
    (accept c >>= f).run (s.ahead rest position) = (f false).run (s.ahead rest position) := by
  have hn : (isNext c).run (s.ahead rest position) = .ok (false, s.ahead rest position) := by
    show Except.ok (rest.head? == some (.plain c), _) = _
    rw [beq_eq_false_iff_ne.2 h]
  rw [accept, bind_assoc, StateT.run_bind, hn]
  rfl

theorem run_accept_self (f : Bool → Read α) {c : Char} (h : rest.head? ≠ some .dangling) :
    (accept c >>= f).run (s.ahead (.plain c :: rest) position) =
      (f true).run (s.ahead rest (position + 1)) := by
  have hn : (isNext c).run (s.ahead (.plain c :: rest) position) =
      .ok (true, s.ahead (.plain c :: rest) position) := by
    show Except.ok (some (Token.plain c) == some (.plain c), _) = _
    rw [beq_self_eq_true]
  rw [accept, bind_assoc, StateT.run_bind, hn]
  show StateT.run ((take >>= fun _ => pure true) >>= f) _ = _
  rw [bind_assoc, run_take _ _ h, pure_bind]
  rfl

end

end Clearance.Pattern
