import DeclGen.Config.Pipeline
import Mathlib.Tactic.Lemma

/-!
# Runs that report

A computation that collects notices is run from the notices that it finds (`Logged.runFrom`). `Returns`
says of a computation that whatever it returns, from whatever notices it starts, has a property; it goes
through sequences and loops, so that what a builder makes is described without what it reports. `Quiet`
says that it returns a value and reports nothing.
-/

namespace DeclGen

namespace Logged

section Runs

variable {ε ε' α β : Type}

/-! ## Runs from a log -/

/-- What comes of a computation after the notices in `log`. -/
def runFrom (x : Logged ε α) (log : List Notice) : Except ε α × List Notice := x.run.run log

lemma report_eq_runFrom (x : Logged ε α) : x.report = x.runFrom [] := rfl

lemma runFrom_pure (a : α) (log : List Notice) :
    (pure a : Logged ε α).runFrom log = (.ok a, log) := rfl

lemma runFrom_notify (n : Notice) (log : List Notice) :
    (notify n : Logged ε Unit).runFrom log = (.ok (), log ++ [n]) := rfl

lemma runFrom_bind (x : Logged ε α) (f : α → Logged ε β) (log : List Notice) :
    (x >>= f).runFrom log =
      match x.runFrom log with
      | (.ok a, log') => (f a).runFrom log'
      | (.error e, log') => (.error e, log') := by
  unfold runFrom
  simp only [ExceptT.run_bind, StateT.run_bind]
  show (match x.run.run log with | (r, log') => _) = _
  rcases x.run.run log with ⟨_ | a, log'⟩ <;> rfl

lemma runFrom_adapt (f : ε → ε') (x : Logged ε α) (log : List Notice) :
    Logged.runFrom (ExceptT.adapt f x) log = ((x.runFrom log).1.mapError f, (x.runFrom log).2) :=
  rfl

/-! ## What is returned -/

/-- Whatever the computation returns has the property `P`. -/
def Returns (x : Logged ε α) (P : α → Prop) : Prop :=
  ∀ log a, (x.runFrom log).1 = .ok a → P a

namespace Returns

variable {P : α → Prop} {Q : β → Prop}

lemma pure {a : α} (h : P a) : Returns (Pure.pure a : Logged ε α) P := by
  intro log b hb
  obtain rfl := Except.ok.inj hb
  exact h

lemma throw (e : ε) : Returns (throwThe ε e : Logged ε α) P := by
  intro log a hrun
  have herror : Except.error e = Except.ok a := hrun
  cases herror

lemma notify (n : Notice) : Returns (notify n : Logged ε Unit) fun _ => True :=
  fun _ _ _ => trivial

/-- What a sequence returns is returned by its second part. -/
lemma bind {x : Logged ε α} {f : α → Logged ε β} (h : Returns x P)
    (hnext : ∀ a, P a → Returns (f a) Q) : Returns (x >>= f) Q := by
  intro log b hrun
  rw [runFrom_bind] at hrun
  rcases hx : x.runFrom log with ⟨e | a, log'⟩
  · rw [hx] at hrun
    cases hrun
  · rw [hx] at hrun
    exact hnext a (h log a (by rw [hx])) log' b hrun

/-- A loop whose steps return certain values returns the list of them. -/
lemma mapM {f : α → Logged ε β} {g : α → β} {l : List α}
    (h : ∀ a ∈ l, Returns (f a) (· = g a)) : Returns (l.mapM f) (· = l.map g) := by
  induction l with
  | nil => exact pure rfl
  | cons a l ih =>
    rw [List.mapM_cons]
    refine (h a List.mem_cons_self).bind fun b hb => ?_
    refine (ih fun c hc => h c (List.mem_cons_of_mem a hc)).bind fun bs hbs => pure ?_
    rw [hb, hbs, List.map_cons]

/-- A loop returns a list in which everything comes from a step. -/
lemma mapM_forall {f : α → Logged ε β} {R : α → β → Prop} {l : List α}
    (h : ∀ a ∈ l, Returns (f a) (R a)) : Returns (l.mapM f) fun bs => ∀ b ∈ bs, ∃ a ∈ l, R a b := by
  induction l with
  | nil => exact pure (by simp)
  | cons a l ih =>
    rw [List.mapM_cons]
    refine (h a List.mem_cons_self).bind fun b hb => ?_
    refine (ih fun c hc => h c (List.mem_cons_of_mem a hc)).bind fun bs hbs => pure ?_
    refine List.forall_mem_cons.mpr ⟨⟨a, List.mem_cons_self, hb⟩, fun b' hb' => ?_⟩
    obtain ⟨c, hc, hR⟩ := hbs b' hb'
    exact ⟨c, List.mem_cons_of_mem a hc, hR⟩

end Returns

/-! ## Nothing to report -/

/-- The computation returns `a`, and leaves the notices as they are. -/
def Quiet (x : Logged ε α) (a : α) : Prop := ∀ log, x.runFrom log = (.ok a, log)

namespace Quiet

lemma pure {a : α} : Quiet (Pure.pure a : Logged ε α) a := fun _ => rfl

lemma bind {x : Logged ε α} {f : α → Logged ε β} {a : α} {b : β} (h : Quiet x a)
    (hnext : Quiet (f a) b) : Quiet (x >>= f) b := by
  intro log
  rw [runFrom_bind, h log]
  exact hnext log

lemma mapM {f : α → Logged ε β} {g : α → β} {l : List α} (h : ∀ a ∈ l, Quiet (f a) (g a)) :
    Quiet (l.mapM f) (l.map g) := by
  induction l with
  | nil => exact pure
  | cons a l ih =>
    rw [List.mapM_cons]
    refine (h a List.mem_cons_self).bind ?_
    exact (ih fun c hc => h c (List.mem_cons_of_mem a hc)).bind pure

lemma mapM_singleton {f : α → Logged ε β} {a : α} {b : β} (h : Quiet (f a) b) :
    Quiet ([a].mapM f) [b] := by
  rw [List.mapM_cons]
  exact h.bind pure

end Quiet

end Runs

end Logged

end DeclGen
