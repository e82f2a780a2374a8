/-
  Steps of the reader that come to the same wherever they are taken.

  Positions go into what is said of a fault and into nothing else.

  * `ReadState.Same` is the relation between two states, `Read.Ends` between what two readers come
    to: the same, or the same fault;
  * `Read.Alike` says of two steps that they come to the same, with a bound on the tokens before
    and behind; `Read.Steady` says so of one step and itself, and of every bound;
  * `take_steady`, `accept_steady`, `takeWhile_steady`, `takeUntil_steady`: the moves of the
    reader.
-/
import Clearance.Proofs.Pattern.Moves

namespace Clearance.Pattern

variable {α β : Type}

/-! ## Steps that come to the same -/

/-- Two states differ in positions only. -/
structure ReadState.Same (s s' : ReadState) : Prop where
  rest : s.rest = s'.rest
  flags : s.flags = s'.flags
  groups : s.groups = s'.groups
  names : s.names = s'.names
  lookbehind : s.lookbehind = s'.lookbehind
  conditions : s.conditions.map Prod.fst = s'.conditions.map Prod.fst

namespace Read

/-- Two readers have read the same and have at most `m` tokens ahead, or have met the same
    fault. -/
inductive Ends (m : Nat) :
    Except PatternError (α × ReadState) → Except PatternError (α × ReadState) → Prop
  | ok (a : α) {t t' : ReadState} : t.Same t' → t.rest.length ≤ m →
      Ends m (.ok (a, t)) (.ok (a, t'))
  | error {e e' : PatternError} : e.fault = e'.fault → Ends m (.error e) (.error e')

/-- Two steps come to the same from these tokens. -/
def AlikeAt (rest : List Token) (m : Nat) (p q : Read α) : Prop :=
  ∀ s s', s.Same s' → s.rest = rest → Ends m (p.run s) (q.run s')

/-- Two steps come to the same from any `n` tokens or fewer. -/
def Alike (n m : Nat) (p q : Read α) : Prop := ∀ rest, rest.length ≤ n → AlikeAt rest m p q

/-- A step does not depend on positions, and puts no token back. -/
def Steady (p : Read α) : Prop := ∀ n, Alike n n p p

namespace AlikeAt

variable {rest : List Token} {m k : Nat} {p q : Read α} {f g : α → Read β}

theorem bind (hp : AlikeAt rest m p q) (hf : ∀ a, Alike m k (f a) (g a)) :
    AlikeAt rest k (p >>= f) (q >>= g) := by
  intro s s' h hrest
  have hr := hp s s' h hrest
  rw [StateT.run_bind, StateT.run_bind]
  generalize p.run s = r at hr ⊢
  generalize q.run s' = r' at hr ⊢
  cases hr with
  | ok a ht hm => exact hf a _ hm _ _ ht rfl
  | error he => exact .error he

theorem pure (a : α) (h : rest.length ≤ m) : AlikeAt rest m (pure a) (pure a) := by
  rintro s s' hs rfl
  exact .ok a hs h

/-- What is made of the state may differ where the states do. -/
theorem get {f g : ReadState → Read β}
    (h : ∀ s s', s.Same s' → s.rest = rest → AlikeAt rest m (f s) (g s')) :
    AlikeAt rest m (get >>= f) (get >>= g) :=
  fun s s' hs hrest => h s s' hs hrest s s' hs hrest

theorem set {t t' : ReadState} (ht : t.Same t') (hm : t.rest.length ≤ m) :
    AlikeAt rest m (set t) (set t') := fun _ _ _ _ => .ok () ht hm

theorem throw {e e' : PatternError} (h : e.fault = e'.fault) :
    AlikeAt rest m (throw e : Read α) (throw e') := fun _ _ _ _ => .error h

theorem ite {c : Prop} [Decidable c] {p' q' : Read α} (h : AlikeAt rest m p q)
    (h' : AlikeAt rest m p' q') :
    AlikeAt rest m (if c then p else p') (if c then q else q') := by
  split
  · exact h
  · exact h'

/-- The token ahead is taken, unless a backslash without a character comes next. -/
theorem take {token : Token} {f g : Option Token → Read β}
    (h : AlikeAt rest m (f (some token)) (g (some token))) :
    AlikeAt (token :: rest) m (take >>= f) (take >>= g) := by
  intro s s' hs hrest
  have hahead : ∀ s : ReadState, s.rest = token :: rest → s = s.ahead (token :: rest) s.position := by
    rintro ⟨_, position, flags, groups, names, lookbehind, conditions⟩ rfl
    rfl
  rw [hahead s hrest, hahead s' (hs.rest ▸ hrest), run_take_eq, run_take_eq]
  split
  · exact .error rfl
  · exact h _ _ ⟨rfl, hs.flags, hs.groups, hs.names, hs.lookbehind, hs.conditions⟩ rfl

end AlikeAt

namespace Alike

variable {n m k : Nat} {p q : Read α} {f g : α → Read β}

theorem bind (hp : Alike n m p q) (hf : ∀ a, Alike m k (f a) (g a)) :
    Alike n k (p >>= f) (q >>= g) := fun rest hn => (hp rest hn).bind hf

theorem mono {n' m' : Nat} (h : Alike n m p q) (hn : n' ≤ n) (hm : m ≤ m') : Alike n' m' p q := by
  intro rest hr s s' hs hrest
  have hends := h rest (Nat.le_trans hr hn) s s' hs hrest
  generalize p.run s = r at hends ⊢
  generalize q.run s' = r' at hends ⊢
  cases hends with
  | ok a ht hl => exact .ok a ht (Nat.le_trans hl hm)
  | error he => exact .error he

theorem pure (a : α) (h : n ≤ m) : Alike n m (pure a) (pure a) :=
  fun _ hr => .pure a (Nat.le_trans hr h)

theorem get {f g : ReadState → Read β}
    (h : ∀ s s', s.Same s' → s.rest.length ≤ n → Alike n m (f s) (g s')) :
    Alike n m (get >>= f) (get >>= g) :=
  fun rest hr => .get fun s s' hs hrest => h s s' hs (hrest ▸ hr) rest hr

theorem set {t t' : ReadState} (ht : t.Same t') (hm : t.rest.length ≤ m) :
    Alike n m (set t) (set t') := fun _ _ => .set ht hm

theorem throw {e e' : PatternError} (h : e.fault = e'.fault) :
    Alike n m (throw e : Read α) (throw e') := fun _ _ => .throw h

theorem ite {c : Prop} [Decidable c] {p' q' : Read α} (h : Alike n m p q)
    (h' : Alike n m p' q') : Alike n m (if c then p else p') (if c then q else q') :=
  fun rest hr => .ite (h rest hr) (h' rest hr)

theorem failAt (fault : Fault) (position position' : Nat) :
    Alike n m (failAt fault position : Read α) (failAt fault position') := throw rfl

theorem fail (fault : Fault) (back back' : Nat) :
    Alike n m (fail fault back : Read α) (fail fault back') :=
  get fun _ _ _ _ => failAt fault _ _

/-- Nothing comes behind a fault. -/
theorem failAt_bind (fault : Fault) (position position' : Nat) :
    Alike n m (Pattern.failAt fault position >>= f) (Pattern.failAt fault position' >>= g) :=
  fun _ _ _ _ _ _ => .error rfl

theorem fail_bind (fault : Fault) (back back' : Nat) :
    Alike n m (Pattern.fail fault back >>= f) (Pattern.fail fault back' >>= g) :=
  fun _ _ _ _ _ _ => .error rfl

/-- A look at the token ahead. -/
theorem next? {f g : Option Token → Read β}
    (h : ∀ rest, rest.length ≤ n → AlikeAt rest m (f rest.head?) (g rest.head?)) :
    Alike n m (next? >>= f) (next? >>= g) := by
  rintro rest hr s s' hs rfl
  have hnext : ∀ (s : ReadState) (f : Option Token → Read β),
      (Pattern.next? >>= f).run s = (f s.rest.head?).run s := fun _ _ => rfl
  rw [hnext, hnext, ← hs.rest]
  exact h _ hr s s' hs rfl

end Alike

namespace Steady

variable {p : Read α} {f : α → Read β}

theorem bind (hp : Steady p) (hf : ∀ a, Steady (f a)) : Steady (p >>= f) :=
  fun n => (hp n).bind fun a => hf a n

theorem pure (a : α) : Steady (pure a) := fun _ => .pure a (Nat.le_refl _)

theorem fail (fault : Fault) (back : Nat) : Steady (fail fault back : Read α) :=
  fun _ => .fail fault _ _

theorem fail_bind (fault : Fault) (back : Nat) : Steady (Pattern.fail fault back >>= f) :=
  fun _ => .fail_bind fault _ _

end Steady

end Read

open Read

/-! ## Moves -/

theorem next?_steady : Steady next? := fun n => by
  refine .get fun s s' h _ => ?_
  rw [h.rest]
  exact .pure _ (Nat.le_refl n)

theorem isNext_steady (c : Char) : Steady (isNext c) := next?_steady.bind fun _ => .pure _

theorem take_steady : Steady take := by
  intro n rest hr
  have hbind : take = take >>= fun token => (pure token : Read (Option Token)) := by
    rw [bind_pure]
  cases rest with
  | nil =>
    rintro s s' hs hrest
    obtain ⟨_, position, flags, groups, names, lookbehind, conditions⟩ := s
    obtain ⟨_, position', flags', groups', names', lookbehind', conditions'⟩ := s'
    obtain rfl : _ = [] := hrest
    obtain rfl : [] = _ := hs.rest
    exact .ok none hs hr
  | cons token rest =>
    rw [hbind]
    exact .take (.pure _ (Nat.le_of_succ_le hr))

theorem accept_steady (c : Char) : Steady (accept c) := by
  refine (isNext_steady c).bind fun b => ?_
  split
  · exact take_steady.bind fun _ => .pure _
  · exact .pure _

/-- If the character ahead is accepted, one token less is ahead. -/
theorem Read.Alike.accept {n m : Nat} {c : Char} {f g : Bool → Read β}
    (htrue : ∀ k, k + 1 ≤ n → Alike k m (f true) (g true))
    (hfalse : Alike n m (f false) (g false)) :
    Alike n m (Pattern.accept c >>= f) (Pattern.accept c >>= g) := by
  have haccept : ∀ f : Bool → Read β, Pattern.accept c >>= f = Pattern.next? >>= fun token =>
      if token == some (.plain c) then take >>= fun _ => f true else f false := by
    intro f
    unfold Pattern.accept isNext
    rw [bind_assoc, bind_assoc]
    refine bind_congr fun token => ?_
    rw [pure_bind]
    split
    · rw [bind_assoc]
      exact bind_congr fun _ => pure_bind _ _
    · exact pure_bind _ _
  rw [haccept, haccept]
  refine .next? fun rest hr => ?_
  cases rest with
  | nil => exact hfalse [] hr
  | cons token rest =>
    by_cases ht : token = .plain c
    · have hb : ((token :: rest).head? == some (.plain c)) = true := by
        rw [ht]
        exact beq_self_eq_true _
      rw [hb]
      exact .take (htrue rest.length hr rest (Nat.le_refl _))
    · have hb : ((token :: rest).head? == some (.plain c)) = false :=
        beq_eq_false_iff_ne.2 fun h => ht (Option.some.inj h)
      rw [hb]
      exact hfalse _ hr

theorem takeWhile_steady (p : Char → Bool) : ∀ n, Steady (takeWhile p n)
  | 0 => .pure _
  | n + 1 => by
    rw [takeWhile]
    refine next?_steady.bind fun token => ?_
    split
    · split
      · exact take_steady.bind fun _ => (takeWhile_steady p n).bind fun _ => .pure _
      · exact .pure _
    · exact .pure _

theorem takeName_steady (terminator : Char) (what : String) : ∀ n taken,
    Steady (takeName terminator what taken n)
  | 0, _ => .pure _
  | n + 1, taken => by
    rw [takeName]
    refine take_steady.bind fun token => ?_
    split
    · split
      · exact .fail _ _
      · exact .fail _ _
    · split
      · split
        · exact .fail _ _
        · exact .pure _
      · exact takeName_steady terminator what n _

theorem takeUntil_steady (terminator : Char) (what : String) :
    Steady (takeUntil terminator what) := fun n => by
  refine .get fun s s' h _ => ?_
  rw [h.rest]
  exact takeName_steady _ _ _ _ n

end Clearance.Pattern
