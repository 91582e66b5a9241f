import DeclGen.Proofs.Slots.Reading
import DeclGen.Proofs.Slots.Spec

/-!
# Names that capture nothing

The names of the slots are fixed by a rule that does not mention how they are found: a slot whose declared
name may stand keeps it, and any other has the first candidate of its position that is neither the receiver,
nor kept by any slot, nor made up for an earlier one (`Slots.NamedFor`). There is one list of names that meets
the rule (`Slots.names_captureFree`), and it is the one that a header declares and a call passes on.
-/

namespace DeclGen.Slots

open Source

/-- A declared name that may stand in a method on `receiver`. -/
def Usable (receiver name : String) : Prop := name ≠ "" ∧ name ≠ "_" ∧ name ≠ receiver

instance (receiver name : String) : Decidable (Usable receiver name) := inferInstanceAs (Decidable (_ ∧ _))

/-- The names that the slots keep. -/
def keptNames (params : List Param) (receiver : String) : List String :=
  (params.map (·.name)).filter fun name => Usable receiver name

/-- Of the names of the slots those that are made up. -/
def madeNames (params : List Param) (receiver : String) (ns : List String) : List String :=
  ((params.zip ns).filter fun slot => ¬ Usable receiver slot.1.name).map (·.2)

/-- The slots are called by these names: each by its own if it is usable, and else by its position with the
least number of low lines that sets it apart from the receiver, from the names that are kept and from those
made up for earlier slots. -/
structure NamedFor (params : List Param) (receiver : String) (ns : List String) : Prop where
  length : ns.length = params.length
  kept : ∀ (i : Nat) p n, params[i]? = some p → ns[i]? = some n → Usable receiver p.name → n = p.name
  made : ∀ (i : Nat) p n, params[i]? = some p → ns[i]? = some n → ¬ Usable receiver p.name →
    MadeUp (receiver :: keptNames params receiver ++ madeNames (params.take i) receiver (ns.take i))
      (positional i) n

variable {params : List Param} {receiver : String} {ns ns' : List String}

/-! ## The rule fixes the names -/

lemma keeps_iff {name : String} : keeps receiver name ↔ Usable receiver name := by
  simp [keeps, Usable, and_assoc]

lemma mem_reserved_iff {name : String} :
    name ∈ reserved params receiver ↔
      name ∈ keptNames params receiver ∨ (receiver ≠ "" ∧ name = receiver) := by
  unfold reserved keptNames
  by_cases hreceiver : receiver = ""
  · simp [hreceiver, keeps_iff]
  · simp [hreceiver, keeps_iff]

/-- Every slot has a name, and there is no other. -/
lemma NamedFor.exists_getElem? (h : NamedFor params receiver ns) {i : Nat} {p : Param}
    (hp : params[i]? = some p) : ∃ n, ns[i]? = some n := by
  have hi : i < ns.length := h.length ▸ (List.getElem?_eq_some_iff.mp hp).1
  exact ⟨_, List.getElem?_eq_getElem hi⟩

lemma NamedFor.getElem?_eq_none (h : NamedFor params receiver ns) {i : Nat} (hp : params[i]? = none) :
    ns[i]? = none := by
  rw [List.getElem?_eq_none_iff] at hp ⊢
  rwa [h.length]

/-- Names that meet the rule are found one by one, so that no two lists of them differ. -/
lemma NamedFor.unique (h : NamedFor params receiver ns) (h' : NamedFor params receiver ns') : ns = ns' := by
  have htakes : ∀ i, ns.take i = ns'.take i := by
    intro i
    induction i with
    | zero => rfl
    | succ i ih =>
      rw [List.take_add_one, List.take_add_one, ih]
      congr 2
      cases hp : params[i]? with
      | none => rw [h.getElem?_eq_none hp, h'.getElem?_eq_none hp]
      | some p =>
        obtain ⟨n, hn⟩ := h.exists_getElem? hp
        obtain ⟨n', hn'⟩ := h'.exists_getElem? hp
        rw [hn, hn', Option.some_inj]
        by_cases husable : Usable receiver p.name
        · rw [h.kept i p n hp hn husable, h'.kept i p n' hp hn' husable]
        · -- the names in front are the same, so the same candidates are taken
          have hmade := h.made i p n hp hn husable
          rw [ih] at hmade
          exact hmade.unique (h'.made i p n' hp hn' husable)
  have hall := htakes params.length
  rwa [← h.length, List.take_length, h.length, ← h'.length, List.take_length] at hall

/-! ## The names of a method -/

/-- A name that is made up is that of a slot without a usable name. -/
lemma exists_of_mem_madeNames {name : String} {i : Nat}
    (h : name ∈ madeNames (params.take i) receiver (ns.take i)) :
    ∃ j p, j < i ∧ params[j]? = some p ∧ ns[j]? = some name ∧ ¬ Usable receiver p.name := by
  obtain ⟨⟨p, n⟩, hfilter, rfl⟩ := List.mem_map.mp h
  obtain ⟨hpair, hunusable⟩ := List.mem_filter.mp hfilter
  obtain ⟨j, hj⟩ := List.mem_iff_getElem?.mp hpair
  obtain ⟨hp, hn⟩ := List.getElem?_zip_eq_some.mp hj
  have hji : j < i := by
    have hlength := (List.getElem?_eq_some_iff.mp hp).1
    rw [List.length_take] at hlength
    omega
  rw [List.getElem?_take_of_lt hji] at hp hn
  exact ⟨j, p, hji, hp, hn, by simpa using hunusable⟩

/-- The names of a method meet the rule. -/
lemma namedFor_names (params : List Param) (receiver : String) :
    NamedFor params receiver (names params receiver) where
  length := length_names params receiver
  kept := by
    intro i p n hp hn husable
    obtain ⟨name, hname, hspec⟩ := names_at receiver hp
    obtain rfl : n = name := Option.some.inj (hn.symm.trans hname)
    rwa [if_pos (keeps_iff.mpr husable)] at hspec
  made := by
    intro i p n hp hn hunusable
    obtain ⟨name, hname, hspec⟩ := names_at receiver hp
    obtain rfl : n = name := Option.some.inj (hn.symm.trans hname)
    rw [if_neg (mt keeps_iff.mp hunusable)] at hspec
    apply hspec.congr
    intro k
    rw [mem_reserved_iff, List.cons_append, List.mem_cons, List.mem_append]
    constructor
    · rintro (hkept | ⟨-, hreceiver⟩)
      · exact .inr (.inl hkept)
      · exact .inl hreceiver
    · rintro (hreceiver | hkept | hmade)
      · refine .inr ⟨?_, hreceiver⟩
        rintro rfl
        have hlist := toList_candidate i k
        rw [hreceiver] at hlist
        cases hlist
      · exact .inl hkept
      · -- candidates of earlier positions are none of this one
        obtain ⟨j, p', hj, hp', hn', hunusable'⟩ := exists_of_mem_madeNames hmade
        obtain ⟨name', hname', hspec'⟩ := names_at receiver hp'
        rw [if_neg (mt keeps_iff.mp hunusable')] at hspec'
        obtain ⟨l, rfl, -⟩ := hspec'
        have hsame := position_eq_of_candidate_eq (Option.some.inj (hn'.symm.trans hname'))
        omega

/-! ## What the rule excludes -/

/-- No slot is called by the empty name, the blank one or the receiver's. -/
lemma NamedFor.usable (h : NamedFor params receiver ns) {n : String} (hn : n ∈ ns) : Usable receiver n := by
  obtain ⟨i, hi⟩ := List.mem_iff_getElem?.mp hn
  cases hp : params[i]? with
  | none =>
    rw [h.getElem?_eq_none hp] at hi
    cases hi
  | some p =>
    by_cases husable : Usable receiver p.name
    · rwa [h.kept i p n hp hi husable]
    · obtain ⟨k, rfl, hfree, -⟩ := h.made i p n hp hi husable
      obtain ⟨hempty, hblank, -⟩ := keeps_iff.mp (keeps_candidate i k)
      refine ⟨hempty, hblank, fun hreceiver => hfree ?_⟩
      rw [hreceiver]
      exact List.mem_cons_self

lemma madeNames_take_add_one {i : Nat} {p : Param} {n : String} (hp : params[i]? = some p)
    (hn : ns[i]? = some n) :
    madeNames (params.take (i + 1)) receiver (ns.take (i + 1)) =
      madeNames (params.take i) receiver (ns.take i) ++ if Usable receiver p.name then [] else [n] := by
  have hlength : (params.take i).length = (ns.take i).length := by
    have hparams := (List.getElem?_eq_some_iff.mp hp).1
    have hns := (List.getElem?_eq_some_iff.mp hn).1
    rw [List.length_take, List.length_take]
    omega
  rw [madeNames, List.take_add_one, List.take_add_one, hp, hn, Option.toList_some, Option.toList_some,
    List.zip_append hlength, List.filter_append, List.map_append]
  congr 1
  by_cases husable : Usable receiver p.name
  · simp [husable]
  · simp [husable]

/-- The names that are made up differ from each other and from those that are kept. -/
lemma NamedFor.nodup_made (h : NamedFor params receiver ns) :
    (madeNames params receiver ns).Nodup ∧
      ∀ n ∈ madeNames params receiver ns, n ∉ keptNames params receiver := by
  have htakes : ∀ i, (madeNames (params.take i) receiver (ns.take i)).Nodup ∧
      ∀ n ∈ madeNames (params.take i) receiver (ns.take i), n ∉ keptNames params receiver := by
    intro i
    induction i with
    | zero => exact ⟨List.nodup_nil, fun n hn => absurd hn List.not_mem_nil⟩
    | succ i ih =>
      cases hp : params[i]? with
      | none =>
        rw [List.take_add_one, List.take_add_one, hp, h.getElem?_eq_none hp]
        simpa using ih
      | some p =>
        obtain ⟨n, hn⟩ := h.exists_getElem? hp
        rw [madeNames_take_add_one hp hn]
        by_cases husable : Usable receiver p.name
        · rwa [if_pos husable, List.append_nil]
        · -- the next name was made up apart from all of these
          obtain ⟨k, rfl, hfree, -⟩ := h.made i p n hp hn husable
          rw [List.cons_append, List.mem_cons, List.mem_append, not_or, not_or] at hfree
          rw [if_neg husable]
          constructor
          · rw [List.nodup_append_comm]
            exact List.nodup_cons.mpr ⟨hfree.2.2, ih.1⟩
          · intro n hn
            rcases List.mem_append.mp hn with hearlier | hlast
            · exact ih.2 n hearlier
            · rw [List.mem_singleton.mp hlast]
              exact hfree.2.1
  have hall := htakes params.length
  rwa [List.take_length, ← h.length, List.take_length] at hall

/-! ## Headers and calls -/

/-- A name of the language can be told from what stands around it. -/
lemma isPlain_of_isName {name : String} (h : IsName name) : IsPlain name where
  ne_empty := by
    rintro rfl
    exact absurd h (by decide)
  space := h.notMem (by decide) (by decide)
  comma := h.notMem (by decide) (by decide)
  dot := h.notMem (by decide) (by decide)

/-- Names of a method can be told apart in a list if the declared ones can. -/
lemma isPlain_of_mem_names (hdeclared : ∀ p ∈ params, Usable receiver p.name → IsPlain p.name) {n : String}
    (hn : n ∈ names params receiver) : IsPlain n := by
  rcases mem_names_iff.mp hn with ⟨p, hp, hkeeps, rfl⟩ | ⟨i, p, -, -, k, rfl, -⟩
  · exact hdeclared p hp (keeps_iff.mp hkeeps)
  · exact isPlain_of_isName (isName_candidate i k)

/-- Naming captures nothing. Every slot has a name, and these names are the only ones that meet the rule; none
of them is empty, blank or the receiver's, and those that are made up differ from each other and from those
that are kept. A call passes on what the header declares, in order, and spreads what is variadic. -/
theorem names_captureFree (params : List Param) (receiver : String) :
    (∀ ns, NamedFor params receiver ns ↔ ns = names params receiver) ∧
    (∀ n ∈ names params receiver, n ≠ "" ∧ n ≠ "_" ∧ n ≠ receiver) ∧
    (madeNames params receiver (names params receiver)).Nodup ∧
    (∀ n ∈ madeNames params receiver (names params receiver), n ∉ keptNames params receiver) ∧
    paramList params receiver =
      commaList (List.zipWith (fun n p => n ++ " " ++ p.slotType) (names params receiver) params) ∧
    callArgs params receiver =
      commaList (List.zipWith (fun n p => if p.isVariadic then n ++ "..." else n)
        (names params receiver) params) ∧
    ((∀ p ∈ params, Usable receiver p.name → IsPlain p.name) → (∀ p ∈ params, ',' ∉ p.slotType.toList) →
      (readSlots (paramList params receiver).toList).map (·.1) = names params receiver ∧
      readArguments (callArgs params receiver).toList =
        (names params receiver).zip (params.map (·.isVariadic))) := by
  have hnamed := namedFor_names params receiver
  refine ⟨fun ns => ⟨fun h => h.unique hnamed, fun h => h ▸ hnamed⟩, fun n hn => hnamed.usable hn,
    hnamed.nodup_made.1, hnamed.nodup_made.2, ?_, ?_, ?_⟩
  · rw [paramList, List.map_zip_eq_zipWith]
    rfl
  · rw [callArgs, List.map_zip_eq_zipWith]
    rfl
  · intro hdeclared htypes
    have hplain : ∀ n ∈ names params receiver, IsPlain n := fun n hn => isPlain_of_mem_names hdeclared hn
    refine ⟨?_, readArguments_callArgs hplain⟩
    rw [readSlots_paramList hplain htypes, List.map_fst_zip]
    rw [length_names, List.length_map]

/-- Slots of which one imitates a name that is made up, and one has the receiver's name. -/
def imitatingSlots : List Param :=
  [⟨"", some (.value "int")⟩, ⟨"arg0", none⟩, ⟨"m", some (.value "string")⟩,
    ⟨"_", some (.wrap .variadic (.value "int"))⟩]

theorem names_captureFree_imitatingSlots :
    NamedFor imitatingSlots "m" ["arg0_", "arg0", "arg2", "arg3"] ∧
    readArguments (callArgs imitatingSlots "m").toList =
      [("arg0_", false), ("arg0", false), ("arg2", false), ("arg3", true)] := by
  obtain ⟨hnamed, -, -, -, -, -, hread⟩ := names_captureFree imitatingSlots "m"
  have hplain : ∀ p ∈ imitatingSlots, Usable "m" p.name → IsPlain p.name := by
    intro p hp husable
    obtain rfl | rfl | rfl | rfl : p = imitatingSlots[0] ∨ p = imitatingSlots[1] ∨ p = imitatingSlots[2] ∨
      p = imitatingSlots[3] := by simpa [imitatingSlots] using hp
    · exact absurd husable (by decide)
    · exact isPlain_of_isName (by decide)
    · exact absurd husable (by decide)
    · exact absurd husable (by decide)
  refine ⟨(hnamed _).mpr (by decide), (hread hplain (by decide)).2.trans (by decide)⟩

end DeclGen.Slots
