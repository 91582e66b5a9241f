import DeclGen.Config.Pipeline
import DeclGen.Proofs.Model.Columns
import DeclGen.Proofs.Model.Runs
import Mathlib.Data.List.Basic
import Mathlib.Data.List.Induction
import Mathlib.Data.List.Nodup

/-!
# Repeated joins

The entities that more than one relation joins are found in one pass over the relations. They are those whose
names stand in the list of joined entities more than once, each given once, in the order in which they are met
*again* (`Relation.repeatsOf_repeatedJoins`). That is the order in which they are met first only as long as no
repeated name is met twice between the first two places of another. A strict run fails with the name that is met
again before all others.
-/

namespace DeclGen

namespace Relation

/-! ## Places of names -/

/-- The place at which a name stands for the second time. -/
def secondIdxOf (n : String) : List String → Nat
  | [] => 0
  | m :: rest => (if m = n then rest.idxOf n else secondIdxOf n rest) + 1

section Places

variable {n : String} {names : List String}

/-- A name that is first in a list and stands there twice stands behind the front as well. -/
lemma mem_of_two_le_count_cons (h : 2 ≤ (n :: names).count n) : n ∈ names := by
  rw [List.count_cons_self] at h
  exact List.count_pos_iff.mp (by omega)

lemma secondIdxOf_lt_length (h : 2 ≤ names.count n) : secondIdxOf n names < names.length := by
  induction names with
  | nil => simp at h
  | cons m names ih =>
    by_cases hm : m = n
    · subst hm
      -- the head is the first place, so the second one is the first behind it
      rw [secondIdxOf, if_pos rfl, List.length_cons]
      exact Nat.succ_lt_succ (List.idxOf_lt_length_of_mem (mem_of_two_le_count_cons h))
    · rw [List.count_cons_of_ne hm] at h
      rw [secondIdxOf, if_neg hm, List.length_cons]
      exact Nat.succ_lt_succ (ih h)

/-- The second place of a name does not move when the list goes on. -/
lemma secondIdxOf_append (h : 2 ≤ names.count n) (rest : List String) :
    secondIdxOf n (names ++ rest) = secondIdxOf n names := by
  induction names with
  | nil => simp at h
  | cons m names ih =>
    by_cases hm : m = n
    · subst hm
      rw [List.cons_append, secondIdxOf, secondIdxOf, if_pos rfl, if_pos rfl,
        List.idxOf_append_of_mem (mem_of_two_le_count_cons h)]
    · rw [List.count_cons_of_ne hm] at h
      rw [List.cons_append, secondIdxOf, secondIdxOf, if_neg hm, if_neg hm, ih h]

/-- A name that stands in a list once is met again right behind it. -/
lemma secondIdxOf_concat (h : names.count n = 1) : secondIdxOf n (names ++ [n]) = names.length := by
  induction names with
  | nil => simp at h
  | cons m names ih =>
    by_cases hm : m = n
    · subst hm
      have hnotMem : m ∉ names := by
        rw [List.count_cons_self] at h
        exact List.count_eq_zero.mp (by omega)
      rw [List.cons_append, secondIdxOf, if_pos rfl, List.idxOf_append_of_notMem hnotMem, List.idxOf_cons_self,
        Nat.add_zero, List.length_cons]
    · rw [List.count_cons_of_ne hm] at h
      rw [List.cons_append, secondIdxOf, if_neg hm, ih h, List.length_cons]

end Places

/-! ## Names that are met again -/

/-- The names that stand in a list more than once, each given once, in the order in which they are met again. -/
structure RepeatsOf (names repeated : List String) : Prop where
  nodup : repeated.Nodup
  mem_iff : ∀ n, n ∈ repeated ↔ 2 ≤ names.count n
  ordered : repeated.Pairwise fun a b => secondIdxOf a names < secondIdxOf b names

/-- One repeated name is met first before another one is, but again only after that has been met again. -/
structure Encloses (names : List String) (a b : String) : Prop where
  outer : 2 ≤ names.count a
  inner : 2 ≤ names.count b
  before : names.idxOf a < names.idxOf b
  behind : secondIdxOf b names < secondIdxOf a names

/-- The repeated name that is met again before all others are. -/
structure IsFirstAgain (names : List String) (n : String) : Prop where
  repeated : 2 ≤ names.count n
  first : ∀ other, 2 ≤ names.count other → secondIdxOf n names ≤ secondIdxOf other names

/-- The names of the entities that relations join, in order of the relations. -/
def joinedNames (relations : List Relation) : List String := relations.map (·.joinedEntityName)

/-- What the pass over a list of names has found at its end. -/
def repeats (names : List String) : List String := (names.foldl repeatedStep ([], [])).2

section Repeats

/-- The pass keeps all names that it has gone through. -/
lemma foldl_repeatedStep_fst (names : List String) : (names.foldl repeatedStep ([], [])).1 = names := by
  induction names using List.reverseRecOn with
  | nil => rfl
  | append_singleton names n ih =>
    rw [List.foldl_append, List.foldl_cons, List.foldl_nil, repeatedStep, ih]

/-- One more name is found when it was met before and is not among those found. -/
lemma repeats_concat (names : List String) (n : String) :
    repeats (names ++ [n]) = if n ∈ names ∧ n ∉ repeats names then repeats names ++ [n] else repeats names := by
  have hfound : (names.contains n && !(repeats names).contains n) ↔ n ∈ names ∧ n ∉ repeats names := by simp
  rw [repeats, List.foldl_append, List.foldl_cons, List.foldl_nil, repeatedStep, foldl_repeatedStep_fst]
  exact if_congr hfound rfl rfl

section Step

variable {names repeated : List String} {n : String}

/-- A name is to be found next when it stands once in what was gone through. -/
lemma RepeatsOf.count_eq_one_iff (h : RepeatsOf names repeated) :
    names.count n = 1 ↔ n ∈ names ∧ n ∉ repeated := by
  rw [h.mem_iff, ← List.one_le_count_iff]
  omega

lemma count_concat (m : String) : (names ++ [n]).count m = names.count m + if n = m then 1 else 0 := by
  simp [List.count_append, List.count_singleton]

/-- The names found so far keep their order when one more name is gone through. -/
lemma RepeatsOf.ordered_concat (h : RepeatsOf names repeated) (n : String) :
    repeated.Pairwise fun a b => secondIdxOf a (names ++ [n]) < secondIdxOf b (names ++ [n]) := by
  refine h.ordered.imp_of_mem fun {a b} ha hb hlt => ?_
  rwa [secondIdxOf_append ((h.mem_iff a).mp ha), secondIdxOf_append ((h.mem_iff b).mp hb)]

/-- A name that is met for the second time is found, and behind all others. -/
lemma RepeatsOf.concat_of_count_eq_one (h : RepeatsOf names repeated) (honce : names.count n = 1) :
    RepeatsOf (names ++ [n]) (repeated ++ [n]) where
  nodup := by
    have hnew := (h.count_eq_one_iff.mp honce).2
    exact List.nodup_append_comm.mp (List.nodup_cons.mpr ⟨hnew, h.nodup⟩)
  mem_iff m := by
    rw [List.mem_append, List.mem_singleton, h.mem_iff, count_concat]
    by_cases hm : n = m
    · subst hm
      simp [honce]
    · simp [hm, Ne.symm hm]
  ordered := by
    refine List.pairwise_append.mpr ⟨h.ordered_concat n, List.pairwise_singleton _ _, fun a ha b hb => ?_⟩
    obtain rfl := List.mem_singleton.mp hb
    -- the new name is met again at the end, and those found before were so inside
    have hrepeated := (h.mem_iff a).mp ha
    rw [secondIdxOf_append hrepeated, secondIdxOf_concat honce]
    exact secondIdxOf_lt_length hrepeated

/-- With a name that is met for the first time, or was found already, nothing changes. -/
lemma RepeatsOf.concat_of_count_ne_one (h : RepeatsOf names repeated) (hother : names.count n ≠ 1) :
    RepeatsOf (names ++ [n]) repeated where
  nodup := h.nodup
  mem_iff m := by
    rw [h.mem_iff, count_concat]
    by_cases hm : n = m
    · subst hm
      simp only [if_true]
      omega
    · simp [hm]
  ordered := h.ordered_concat n

end Step

/-- The invariant of the pass: after each name it has found the repeated names among those gone through. -/
lemma repeatsOf_repeats (names : List String) : RepeatsOf names (repeats names) := by
  induction names using List.reverseRecOn with
  | nil => exact ⟨List.nodup_nil, by simp [repeats], List.Pairwise.nil⟩
  | append_singleton names n ih =>
    rw [repeats_concat, if_congr ih.count_eq_one_iff.symm rfl rfl]
    split
    case isTrue honce => exact ih.concat_of_count_eq_one honce
    case isFalse hother => exact ih.concat_of_count_ne_one hother

/-- A list that is in order by two measures has them in the same order. -/
lemma lt_of_pairwise {f g : String → Nat} {l : List String} (hf : l.Pairwise fun a b => f a < f b)
    (hg : l.Pairwise fun a b => g a < g b) {a b : String} (ha : a ∈ l) (hb : b ∈ l) (hlt : f a < f b) :
    g a < g b := by
  induction l with
  | nil => cases ha
  | cons c l ih =>
    rw [List.pairwise_cons] at hf hg
    rcases List.mem_cons.mp ha with rfl | ha' <;> rcases List.mem_cons.mp hb with rfl | hb'
    · exact absurd hlt (lt_irrefl _)
    · exact hg.1 b hb'
    · -- nothing stands before the head
      exact absurd (hf.1 a ha') (lt_asymm hlt)
    · exact ih hf.2 hg.2 ha' hb'

variable {names repeated : List String}

/-- The repeated names are in the order in which they are met first exactly when none encloses another. -/
lemma RepeatsOf.pairwise_idxOf_iff (h : RepeatsOf names repeated) :
    repeated.Pairwise (fun a b => names.idxOf a < names.idxOf b) ↔ ∀ a b, ¬ Encloses names a b := by
  constructor
  · intro hfirst a b ⟨houter, hinner, hbefore, hbehind⟩
    have hlt := lt_of_pairwise h.ordered hfirst ((h.mem_iff b).mpr hinner) ((h.mem_iff a).mpr houter) hbehind
    omega
  · intro hnone
    refine (h.nodup.and h.ordered).imp_of_mem fun {a b} ha hb hab => ?_
    have houter := (h.mem_iff a).mp ha
    have hinner := (h.mem_iff b).mp hb
    have hplaces : names.idxOf a ≠ names.idxOf b := by
      intro heq
      exact hab.1 ((List.idxOf_inj (List.one_le_count_iff.mp (by omega))).mp heq)
    by_contra hnot
    exact hnone b a ⟨hinner, houter, by omega, hab.2⟩

/-- The first of the repeated names is the one that is met again first. -/
lemma RepeatsOf.head?_eq_some_iff (h : RepeatsOf names repeated) {n : String} :
    repeated.head? = some n ↔ IsFirstAgain names n := by
  cases repeated with
  | nil =>
    have hnone : ∀ m, ¬ 2 ≤ names.count m := fun m hm => List.not_mem_nil ((h.mem_iff m).mpr hm)
    simp only [List.head?_nil, reduceCtorEq, false_iff]
    exact fun hfirst => hnone n hfirst.repeated
  | cons m rest =>
    have hordered := List.pairwise_cons.mp h.ordered
    rw [List.head?_cons, Option.some.injEq]
    constructor
    · rintro rfl
      refine ⟨(h.mem_iff m).mp List.mem_cons_self, fun other hother => ?_⟩
      rcases List.mem_cons.mp ((h.mem_iff other).mpr hother) with rfl | hrest
      · exact le_rfl
      · exact Nat.le_of_lt (hordered.1 other hrest)
    · intro hfirst
      rcases List.mem_cons.mp ((h.mem_iff n).mpr hfirst.repeated) with rfl | hrest
      · rfl
      · have hlt := hordered.1 n hrest
        have hle := hfirst.first m ((h.mem_iff m).mp List.mem_cons_self)
        omega

lemma RepeatsOf.eq_nil_iff (h : RepeatsOf names repeated) : repeated = [] ↔ names.Nodup := by
  rw [List.eq_nil_iff_forall_not_mem, List.nodup_iff_count_le_one]
  simp only [h.mem_iff, not_le, Nat.lt_succ_iff]

end Repeats

end Relation

/-! ## Strict runs -/

open Logged

/-- A strict run fails with the first of the repeated joins, if there is one. -/
lemma Repository.report_checkJoins {r : Repository} (h : r.options.strict) :
    r.checkJoins.report = ((Relation.repeatedJoins r.relations).head?.elim (.ok ()) fun joined =>
      .error (.duplicateJoin r.entity.name joined), []) := by
  unfold Repository.checkJoins
  simp only [h, if_true]
  cases Relation.repeatedJoins r.relations <;> rfl

/-- The queries of a strict run are the file of the primary entity's repository, unless its joins are refused. -/
lemma FileModel.report_queries {m : FileModel} {o : QueryOptions} {e : Entity} (hstrict : o.strict)
    (he : m.primaryEntity? = some e) :
    (m.queries o).report =
      ((Relation.repeatedJoins (Relation.ofEntity e o.table)).head?.elim (.ok (e.repository o).file) fun joined =>
        .error (.duplicateJoin e.name joined), []) := by
  have hjoins : (e.repository o).checkJoins.runFrom [] =
      ((Relation.repeatedJoins (Relation.ofEntity e o.table)).head?.elim (.ok ()) fun joined =>
        .error (.duplicateJoin e.name joined), []) := Repository.report_checkJoins hstrict
  have hqueries : m.queries o = ((e.repository o).checkJoins >>= fun _ => pure (e.repository o).file) := by
    unfold FileModel.queries
    rw [he]
    rfl
  rw [hqueries, report_eq_runFrom, runFrom_bind, hjoins]
  cases (Relation.repeatedJoins (Relation.ofEntity e o.table)).head? <;> rfl

/-- For every list of relations the repeated joins are the names that two relations or more join, each once, in the
order in which they are met again. That is the order in which they are met first exactly when none of them encloses
another. A strict run on an entity with these relations succeeds exactly when they join different entities, and
fails with the name that is met again first. -/
theorem Relation.repeatsOf_repeatedJoins (relations : List Relation) :
    RepeatsOf (joinedNames relations) (repeatedJoins relations) ∧
    ((repeatedJoins relations).Pairwise
        (fun a b => (joinedNames relations).idxOf a < (joinedNames relations).idxOf b) ↔
      ∀ a b, ¬ Encloses (joinedNames relations) a b) ∧
    ∀ (m : FileModel) (o : QueryOptions) (e : Entity), o.strict → m.primaryEntity? = some e →
      ofEntity e o.table = relations →
      (∀ text, (m.queries o).report.1 = .ok text ↔
        (joinedNames relations).Nodup ∧ text = (e.repository o).file) ∧
      ∀ cause, (m.queries o).report.1 = .error cause ↔
        ∃ joined, IsFirstAgain (joinedNames relations) joined ∧ cause = .duplicateJoin e.name joined := by
  have hrepeats : RepeatsOf (joinedNames relations) (repeatedJoins relations) := repeatsOf_repeats _
  refine ⟨hrepeats, hrepeats.pairwise_idxOf_iff, ?_⟩
  rintro m o e hstrict he rfl
  rw [FileModel.report_queries hstrict he, ← hrepeats.eq_nil_iff]
  simp only [← hrepeats.head?_eq_some_iff]
  cases repeatedJoins (ofEntity e o.table) with
  | nil => simp [eq_comm]
  | cons joined rest => simp [eq_comm]

/-! ## Transfers -/

/-- A transfer between two accounts, of which each is referred to twice: the one that pays by the first and the last
column, and the one that is paid by those between. -/
def transferSource : String :=
  "package p;type Transfer struct\x7bFrom int64 `db:\"payer_id\"`;To int64 `db:\"payee_id\"`;" ++
    "Via int64 `db:\"transfer_payee_id\"`;Back int64 `db:\"transfer_payer_id\"`\x7d;"

/-- The entity of a transfer. -/
def transferEntity : Entity :=
  ⟨"Transfer", [⟨"From", .value "int64", "db:\"payer_id\"", "payer_id"⟩,
    ⟨"To", .value "int64", "db:\"payee_id\"", "payee_id"⟩,
    ⟨"Via", .value "int64", "db:\"transfer_payee_id\"", "transfer_payee_id"⟩,
    ⟨"Back", .value "int64", "db:\"transfer_payer_id\"", "transfer_payer_id"⟩], false⟩

/-- The options of a strict run on the table of transfers. -/
def transferOptions : QueryOptions := ⟨"transfer", "domain", false, true⟩

lemma load_transferSource :
    (FileModel.load transferSource ⟨"domain", true⟩).report.1 = .ok ⟨"p", [transferEntity], [], []⟩ := by
  have hparse : SourceFile.parse transferSource = .ok ⟨"p", [.struct ⟨"Transfer",
      [⟨["From"], .name "int64", some "db:\"payer_id\""⟩, ⟨["To"], .name "int64", some "db:\"payee_id\""⟩,
       ⟨["Via"], .name "int64", some "db:\"transfer_payee_id\""⟩,
       ⟨["Back"], .name "int64", some "db:\"transfer_payer_id\""⟩]⟩]⟩ := by
    decide +kernel
  rw [FileModel.load_of_parse hparse]
  decide

/-- A strict run on transfers fails with the account that is met again first. -/
theorem Relation.repeatsOf_repeatedJoins_transfer :
    ∃ m, (FileModel.load transferSource ⟨"domain", true⟩).report.1 = .ok m ∧
      transferOptions.strict ∧ m.primaryEntity? = some transferEntity ∧
      (m.queries transferOptions).report.1 = .error (.duplicateJoin "Transfer" "payee") := by
  have hprimary : FileModel.primaryEntity? ⟨"p", [transferEntity], [], []⟩ = some transferEntity := by decide
  refine ⟨_, load_transferSource, rfl, hprimary, ?_⟩
  obtain ⟨hrepeats, -, hstrict⟩ := repeatsOf_repeatedJoins (ofEntity transferEntity transferOptions.table)
  refine ((hstrict _ transferOptions transferEntity rfl hprimary rfl).2 _).mpr ⟨"payee", ?_, rfl⟩
  exact hrepeats.head?_eq_some_iff.mp (by decide)

/-- The account that pays is met first, before the one that is paid, but is reported after it. -/
theorem Relation.not_pairwise_repeatedJoins_transfer :
    ∃ m e, (FileModel.load transferSource ⟨"domain", true⟩).report.1 = .ok m ∧
      m.primaryEntity? = some e ∧
      joinedNames (ofEntity e transferOptions.table) = ["payer", "payee", "payee", "payer"] ∧
      repeatedJoins (ofEntity e transferOptions.table) = ["payee", "payer"] ∧
      ¬ ["payee", "payer"].Pairwise (fun a b => (joinedNames (ofEntity e transferOptions.table)).idxOf a <
        (joinedNames (ofEntity e transferOptions.table)).idxOf b) ∧
      (m.queries transferOptions).report.1 = .error (.duplicateJoin e.name "payee") := by
  have hprimary : FileModel.primaryEntity? ⟨"p", [transferEntity], [], []⟩ = some transferEntity := by decide
  have hrepeated : repeatedJoins (ofEntity transferEntity transferOptions.table) = ["payee", "payer"] := by decide
  refine ⟨_, transferEntity, load_transferSource, hprimary, by decide, hrepeated, by decide, ?_⟩
  rw [FileModel.report_queries rfl hprimary, hrepeated]
  rfl

end DeclGen
