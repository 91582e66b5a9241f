import DeclGen.Generate.Slots
import Mathlib.Data.List.Basic
import Mathlib.Data.List.Nodup
import Mathlib.Data.List.Perm.Subperm
import Mathlib.Data.List.Range
import Mathlib.Tactic.Lemma

/-!
# Names of slots

Which names the slots of a method get. A slot keeps its declared name when it may stand there, and the
name of any other slot is made up from its position. The number of tries that `fresh` allows itself is
always enough (`madeUp_fresh`), and names that are made up at two positions never meet
(`position_eq_of_candidate_eq`), so that a made-up name depends on the reserved names alone (`names_at`)
and not on what was made up before it.
-/

namespace DeclGen.Slots

/-- The name of a slot by its position, before any low line is added. -/
def positional (i : Nat) : String := "arg" ++ toString i

/-- `name` with `k` low lines behind it. -/
def candidate (name : String) (k : Nat) : String := name ++ String.ofList (List.replicate k '_')

/-- `made` is `name` with the least number of low lines that is not taken. -/
def MadeUp (taken : List String) (name made : String) : Prop :=
  ∃ k, made = candidate name k ∧ candidate name k ∉ taken ∧ ∀ j < k, candidate name j ∈ taken

/-! ## Candidates -/

lemma candidate_zero (name : String) : candidate name 0 = name := by simp [candidate]

lemma candidate_succ (name : String) (k : Nat) :
    candidate (name ++ "_") k = candidate name (k + 1) := by
  rw [← String.toList_inj]
  simp [candidate, List.replicate_succ]

/-- The candidates over one name differ from each other. -/
lemma candidate_injective (name : String) : Function.Injective (candidate name) := by
  intro i j h
  have hlength := congrArg (fun s => s.toList.length) h
  simpa [candidate] using hlength

/-- Candidates at different positions differ: the digits in front of the low lines are the position. -/
lemma position_eq_of_candidate_eq {i j k l : Nat}
    (h : candidate (positional i) k = candidate (positional j) l) : i = j := by
  -- digits hold no low line, so they end where the first one stands
  have hdigits : ∀ n m, (Nat.toDigits 10 n ++ List.replicate m '_').takeWhile (· ≠ '_') =
      Nat.toDigits 10 n := by
    intro n m
    rw [List.takeWhile_append_of_pos fun c hc => by
      simpa using fun h : c = '_' => Nat.underscore_not_in_toDigits (h ▸ hc)]
    cases m <;> simp [List.replicate_succ]
  have hlists := congrArg String.toList h
  simp only [candidate, positional, String.toList_append, Nat.toString_eq_ofList_toDigits,
    String.toList_ofList, List.append_assoc, List.append_cancel_left_eq] at hlists
  have hsame := congrArg (List.takeWhile (· ≠ '_')) hlists
  rw [hdigits, hdigits] at hsame
  have hnumber := congrArg (fun ds => Nat.ofDigitChars 10 ds 0) hsame
  simpa [Nat.ofDigitChars_ten_toDigits] using hnumber

/-! ## Names that are made up -/

/-- The search ends at a candidate behind taken ones, and it is taken only when the tries are used up. -/
lemma freshWithin_eq_candidate (taken : List String) (fuel : Nat) (name : String) :
    ∃ k ≤ fuel, freshWithin taken fuel name = candidate name k ∧
      (∀ j < k, candidate name j ∈ taken) ∧ (k = fuel ∨ candidate name k ∉ taken) := by
  induction fuel generalizing name with
  | zero => exact ⟨0, Nat.le_refl 0, (candidate_zero name).symm, by simp, .inl rfl⟩
  | succ fuel ih =>
    by_cases hmem : name ∈ taken
    · obtain ⟨k, hle, hname, hbefore, hend⟩ := ih (name ++ "_")
      simp only [candidate_succ] at hname hbefore hend
      refine ⟨k + 1, by omega, by simp [freshWithin, hmem, hname], ?_, hend.imp_left (by omega)⟩
      intro j hj
      cases j with
      | zero => rwa [candidate_zero]
      | succ j => exact hbefore j (by omega)
    · exact ⟨0, by omega, by simp [freshWithin, hmem, candidate_zero], by simp,
        .inr (by rwa [candidate_zero])⟩

/-- The tries are enough, since a taken name stops at most one of them. -/
theorem madeUp_fresh (taken : List String) (name : String) : MadeUp taken name (fresh taken name) := by
  obtain ⟨k, -, hname, hbefore, hend⟩ := freshWithin_eq_candidate taken (taken.length + 1) name
  refine ⟨k, hname, ?_, hbefore⟩
  rcases hend with rfl | hfree
  · -- more candidates would be taken than there are taken names
    have hnodup : ((List.range (taken.length + 1)).map (candidate name)).Nodup :=
      List.nodup_range.map (candidate_injective name)
    have hsubset : (List.range (taken.length + 1)).map (candidate name) ⊆ taken := by
      intro n hn
      obtain ⟨j, hj, rfl⟩ := List.mem_map.mp hn
      exact hbefore j (List.mem_range.mp hj)
    have hlength := (hnodup.subperm hsubset).length_le
    rw [List.length_map, List.length_range] at hlength
    omega
  · exact hfree

namespace MadeUp

variable {taken taken' : List String} {name made made' : String}

/-- No two names can be made up in the same place. -/
lemma unique (h : MadeUp taken name made) (h' : MadeUp taken name made') : made = made' := by
  obtain ⟨k, rfl, hfree, hbefore⟩ := h
  obtain ⟨l, rfl, hfree', hbefore'⟩ := h'
  rcases Nat.lt_trichotomy k l with hlt | rfl | hlt
  · exact absurd (hbefore' k hlt) hfree
  · rfl
  · exact absurd (hbefore l hlt) hfree'

/-- Only the candidates among the taken names matter. -/
lemma congr (h : MadeUp taken name made)
    (hiff : ∀ k, candidate name k ∈ taken ↔ candidate name k ∈ taken') : MadeUp taken' name made := by
  obtain ⟨k, hmade, hfree, hbefore⟩ := h
  exact ⟨k, hmade, fun hmem => hfree ((hiff k).mpr hmem), fun j hj => (hiff j).mp (hbefore j hj)⟩

end MadeUp

/-! ## The names of a method -/

variable {receiver : String}

lemma namesFrom_cons (i : Nat) (taken : List String) (p : Param) (rest : List Param) :
    namesFrom receiver i taken (p :: rest) =
      if keeps receiver p.name then p.name :: namesFrom receiver (i + 1) taken rest
      else fresh taken (positional i) ::
        namesFrom receiver (i + 1) (fresh taken (positional i) :: taken) rest := rfl

lemma length_namesFrom (receiver : String) (i : Nat) (taken : List String) (params : List Param) :
    (namesFrom receiver i taken params).length = params.length := by
  induction params generalizing i taken with
  | nil => rfl
  | cons p rest ih =>
    rw [namesFrom_cons]
    split <;> simp [ih]

/-- Every slot has one name. -/
theorem length_names (params : List Param) (receiver : String) :
    (names params receiver).length = params.length :=
  length_namesFrom receiver 0 _ params

/-- What the slots from position `i` on are called, as long as the names made up so far are no
candidates from there on. -/
lemma namesFrom_at {first taken : List String} {i : Nat}
    (hsame : ∀ j ≥ i, ∀ k, candidate (positional j) k ∈ taken ↔ candidate (positional j) k ∈ first)
    {params : List Param} {n : Nat} {p : Param} (hp : params[n]? = some p) :
    ∃ name, (namesFrom receiver i taken params)[n]? = some name ∧
      if keeps receiver p.name then name = p.name
      else MadeUp first (positional (i + n)) name := by
  induction params generalizing i taken n with
  | nil => simp at hp
  | cons q rest ih =>
    rw [namesFrom_cons]
    cases n with
    | zero =>
      obtain rfl : q = p := by simpa using hp
      split
      · exact ⟨q.name, by simp⟩
      · exact ⟨_, by simp, (madeUp_fresh taken (positional i)).congr (hsame i (Nat.le_refl i))⟩
    | succ n =>
      have hrest : rest[n]? = some p := by simpa using hp
      split
      · obtain ⟨name, hname, hspec⟩ := ih (i := i + 1) (fun j hj => hsame j (by omega)) hrest
        exact ⟨name, by simpa using hname, by rwa [show i + (n + 1) = i + 1 + n by omega]⟩
      · -- the name made up here is a candidate at this position, and so at no later one
        have hnext : ∀ j ≥ i + 1, ∀ k,
            candidate (positional j) k ∈ fresh taken (positional i) :: taken ↔
              candidate (positional j) k ∈ first := by
          intro j hj k
          have hne : candidate (positional j) k ≠ fresh taken (positional i) := by
            obtain ⟨l, hl, -⟩ := madeUp_fresh taken (positional i)
            rw [hl]
            intro heq
            have := position_eq_of_candidate_eq heq
            omega
          rw [List.mem_cons, or_iff_right hne]
          exact hsame j (by omega) k
        obtain ⟨name, hname, hspec⟩ := ih hnext hrest
        exact ⟨name, by simpa using hname, by rwa [show i + (n + 1) = i + 1 + n by omega]⟩

/-- A slot is called as it is declared, or by its position with the least number of low lines that
makes the name new among the reserved ones. -/
theorem names_at (receiver : String) {params : List Param} {n : Nat} {p : Param}
    (hp : params[n]? = some p) :
    ∃ name, (names params receiver)[n]? = some name ∧
      if keeps receiver p.name then name = p.name
      else MadeUp (reserved params receiver) (positional n) name := by
  obtain ⟨name, hname, hspec⟩ := namesFrom_at (i := 0) (fun _ _ _ => Iff.rfl) hp
  exact ⟨name, hname, by rwa [Nat.zero_add] at hspec⟩

/-- The names of a method are the kept ones and the ones made up. -/
theorem mem_names_iff {params : List Param} {name : String} :
    name ∈ names params receiver ↔
      (∃ p ∈ params, keeps receiver p.name ∧ p.name = name) ∨
      ∃ n p, params[n]? = some p ∧ keeps receiver p.name = false ∧
        MadeUp (reserved params receiver) (positional n) name := by
  constructor
  · intro hmem
    obtain ⟨n, hn⟩ := List.mem_iff_getElem?.mp hmem
    have hlt : n < params.length := by
      rw [← length_names params receiver]
      exact (List.getElem?_eq_some_iff.mp hn).1
    have hp : params[n]? = some params[n] := List.getElem?_eq_getElem hlt
    obtain ⟨name', hname', hspec⟩ := names_at receiver hp
    obtain rfl : name = name' := by simpa [hn] using hname'
    cases hkeeps : keeps receiver params[n].name with
    | true =>
      rw [if_pos hkeeps] at hspec
      exact .inl ⟨params[n], List.getElem_mem hlt, hkeeps, hspec.symm⟩
    | false =>
      rw [if_neg (by simp [hkeeps])] at hspec
      exact .inr ⟨n, params[n], hp, hkeeps, hspec⟩
  · rintro (⟨p, hp, hkeeps, rfl⟩ | ⟨n, p, hp, hkeeps, hmade⟩)
    · obtain ⟨n, hn⟩ := List.mem_iff_getElem?.mp hp
      obtain ⟨name, hname, hspec⟩ := names_at receiver hn
      rw [if_pos hkeeps] at hspec
      exact List.mem_iff_getElem?.mpr ⟨n, hspec ▸ hname⟩
    · obtain ⟨name', hname', hspec⟩ := names_at receiver hp
      rw [if_neg (by simp [hkeeps])] at hspec
      exact List.mem_iff_getElem?.mpr ⟨n, hmade.unique hspec ▸ hname'⟩

end DeclGen.Slots
