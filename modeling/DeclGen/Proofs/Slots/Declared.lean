import DeclGen.Proofs.Model.Completeness
import Mathlib.Data.List.Forall2
import Mathlib.Data.List.Nodup

/-!
# Slots as they are declared

The slots of a method are those that its signature declares, one by one: the name of the slot is the declared
one, and its type is what the type of its own group resolves to (`Method.Realizes`). The methods of a service
are those that are declared on its receiver, in their order (`serviceSets_spec`).
-/

namespace DeclGen

/-! ## Slots of a signature -/

/-- What is declared for each slot of a row of groups: its name, which is empty in a group without names, and
the type of its group. -/
def declaredSlots (groups : List ParamDecl) : List (String × TypeExpr) :=
  groups.flatMap fun g => if g.names = [] then [("", g.type)] else g.names.map fun n => (n, g.type)

/-- The type of a result that is declared with this type: there is none of any number of values. -/
def TypeExpr.resolveResult (e : TypeExpr) (ns : String) : Option TypeSignature :=
  if e.isVariadic then none else e.resolve ns

/-- The method has the slots of the signature, in order, each with the name and the type that are declared for
it in the namespace `ns`. -/
structure Method.Realizes (ns name : String) (sig : Signature) (m : Method) : Prop where
  name : m.name = name
  params : List.Forall₂ (fun slot p => p.name = slot.1 ∧ p.signature = slot.2.resolve ns)
    (declaredSlots sig.params) m.params
  returns : List.Forall₂ (fun slot p => p.name = slot.1 ∧ p.signature = slot.2.resolveResult ns)
    (declaredSlots sig.results) m.returns

section Signatures

variable {ns : String}

/-- The slots that are made of a row of groups are those that it declares. -/
lemma flatMap_slots (groups : List ParamDecl) :
    groups.flatMap (·.slots ns) = (declaredSlots groups).map fun slot => ⟨slot.1, slot.2.resolve ns⟩ := by
  rw [declaredSlots, List.map_flatMap]
  apply List.flatMap_congr
  intro g _
  unfold ParamDecl.slots
  by_cases hnames : g.names = []
  · simp [hnames]
  · simp [hnames, Function.comp_def]

/-- What is left of the type of a slot when it is a result. -/
lemma signature_notVariadic (name : String) (e : TypeExpr) :
    (Param.notVariadic ⟨name, e.resolve ns⟩).signature = e.resolveResult ns := by
  unfold Param.notVariadic TypeExpr.resolveResult Param.isVariadic
  cases hresolve : e.resolve ns with
  | none => simp
  | some s =>
    have hkind := kind_eq_variadic_iff hresolve
    by_cases hvariadic : e.isVariadic
    · simp [hvariadic, hkind.mpr hvariadic]
    · simp [hvariadic, mt hkind.mp hvariadic]

lemma name_notVariadic (p : Param) : p.notVariadic.name = p.name := by
  unfold Param.notVariadic
  split <;> rfl

/-- The method of a signature has the slots of the signature. -/
lemma realizes_method (name : String) (sig : Signature) : (sig.method ns name).Realizes ns name sig where
  name := rfl
  params := by
    show List.Forall₂ _ _ (sig.params.flatMap (·.slots ns))
    rw [flatMap_slots, List.forall₂_map_right_iff, List.forall₂_same]
    exact fun slot _ => ⟨rfl, rfl⟩
  returns := by
    show List.Forall₂ _ _ ((sig.results.flatMap (·.slots ns)).map (·.notVariadic))
    rw [flatMap_slots, List.map_map, List.forall₂_map_right_iff, List.forall₂_same]
    exact fun slot _ => ⟨name_notVariadic _, signature_notVariadic slot.1 slot.2⟩

end Signatures

/-! ## Methods of services -/

section Services

variable {ns receiver : String} {m : Method} {sets : List ServiceMethodSet} {s : ServiceMethodSet}

/-- The receivers stay as they are, unless the one that a method is added to is new. -/
lemma map_receiver_insertMethod :
    (Build.insertMethod receiver m sets).map (·.receiver) =
      if receiver ∈ sets.map (·.receiver) then sets.map (·.receiver)
      else sets.map (·.receiver) ++ [receiver] := by
  induction sets with
  | nil => rfl
  | cons t rest ih =>
    unfold Build.insertMethod
    by_cases ht : t.receiver = receiver
    · simp [ht]
    · rw [if_neg (by simpa using ht), List.map_cons, ih]
      by_cases hrest : receiver ∈ rest.map (·.receiver)
      · simp only [hrest, if_true, List.map_cons, List.mem_cons, or_true]
      · simp only [hrest, Ne.symm ht, if_false, List.map_cons, List.mem_cons, or_self, List.cons_append]

/-- A set either is one of another receiver or has the method behind those that its receiver had. -/
lemma mem_insertMethod (hnodup : (sets.map (·.receiver)).Nodup)
    (hs : s ∈ Build.insertMethod receiver m sets) :
    (s.receiver ≠ receiver ∧ s ∈ sets) ∨
    (s.receiver = receiver ∧ ∃ earlier, s.methods = earlier ++ [m] ∧
      (⟨receiver, earlier⟩ ∈ sets ∨ (receiver ∉ sets.map (·.receiver) ∧ earlier = []))) := by
  induction sets with
  | nil =>
    obtain rfl := List.mem_singleton.mp hs
    exact .inr ⟨rfl, [], rfl, .inr ⟨List.not_mem_nil, rfl⟩⟩
  | cons t rest ih =>
    obtain ⟨hother, hrest⟩ := List.nodup_cons.mp hnodup
    unfold Build.insertMethod at hs
    by_cases ht : t.receiver = receiver
    · rw [if_pos (by simpa using ht)] at hs
      rcases List.mem_cons.mp hs with rfl | hs
      · exact .inr ⟨ht, t.methods, rfl, .inl (ht ▸ List.mem_cons_self)⟩
      · refine .inl ⟨fun heq => hother ?_, List.mem_cons_of_mem t hs⟩
        exact List.mem_map.mpr ⟨s, hs, heq.trans ht.symm⟩
    · rw [if_neg (by simpa using ht)] at hs
      rcases List.mem_cons.mp hs with rfl | hs
      · exact .inl ⟨ht, List.mem_cons_self⟩
      · rcases ih hrest hs with ⟨hne, hmem⟩ | ⟨heq, earlier, hmethods, hmem | ⟨hnew, rfl⟩⟩
        · exact .inl ⟨hne, List.mem_cons_of_mem t hmem⟩
        · exact .inr ⟨heq, earlier, hmethods, .inl (List.mem_cons_of_mem t hmem)⟩
        · refine .inr ⟨heq, [], hmethods, .inr ⟨?_, rfl⟩⟩
          rw [List.map_cons, List.mem_cons]
          exact fun h => h.elim (fun h => ht h.symm) hnew

/-- The methods that are declared on a receiver. -/
def declaredOn (receiver : String) (decls : List MethodDecl) : List MethodDecl :=
  decls.filter fun d => d.receiver.typeName = receiver

lemma declaredOn_append (receiver : String) (decls : List MethodDecl) (d : MethodDecl) :
    declaredOn receiver (decls ++ [d]) =
      declaredOn receiver decls ++ if d.receiver.typeName = receiver then [d] else [] := by
  rw [declaredOn, List.filter_append]
  congr 1
  by_cases h : d.receiver.typeName = receiver <;> simp [h]

/-- Every receiver of a service has one set, and it has the methods that are declared on the receiver. -/
lemma serviceSets_spec (ns : String) (decls : List MethodDecl) :
    ((serviceSets ns decls).map (·.receiver)).Nodup ∧
    (∀ r, r ∈ (serviceSets ns decls).map (·.receiver) ↔ ∃ d ∈ decls, d.isServed ∧ d.receiver.typeName = r) ∧
    ∀ s ∈ serviceSets ns decls,
      s.methods = (declaredOn s.receiver decls).map fun d => (d.contract ns).method := by
  -- by the last declaration, as it is added to the sets of those before it
  induction decls using List.reverseRecOn with
  | nil => simp [serviceSets]
  | append_singleton decls d ih =>
    obtain ⟨hnodup, hreceivers, hmethods⟩ := ih
    rw [serviceSets, List.foldl_append, List.foldl_cons, List.foldl_nil, ← serviceSets]
    by_cases hserved : d.isServed
    · rw [if_pos hserved, map_receiver_insertMethod]
      refine ⟨?_, ?_, ?_⟩
      · split
        · exact hnodup
        · next hnew =>
          rw [List.nodup_append_comm]
          exact List.nodup_cons.mpr ⟨hnew, hnodup⟩
      · intro r
        have hold : (∃ d' ∈ decls ++ [d], d'.isServed ∧ d'.receiver.typeName = r) ↔
            r ∈ (serviceSets ns decls).map (·.receiver) ∨ r = d.receiver.typeName := by
          rw [hreceivers, eq_comm]
          simp [or_and_right, exists_or, hserved]
        rw [hold]
        split
        · next hknown =>
          exact ⟨.inl, fun h => h.elim id fun heq => heq ▸ hknown⟩
        · rw [List.mem_append, List.mem_singleton]
      · intro s hs
        rcases mem_insertMethod hnodup hs with ⟨hne, hmem⟩ | ⟨heq, earlier, hlast, hmem⟩
        · rw [declaredOn_append, if_neg hne.symm, List.append_nil]
          exact hmethods s hmem
        · have hearlier : earlier = (declaredOn s.receiver decls).map fun d => (d.contract ns).method := by
            rcases hmem with hmem | ⟨hnew, rfl⟩
            · rw [heq]
              exact hmethods _ hmem
            · -- nothing is declared on a receiver before its first method
              have hnone : declaredOn s.receiver decls = [] := by
                rw [declaredOn, List.filter_eq_nil_iff]
                intro d' hd' hon
                have hsame : d'.receiver.typeName = d.receiver.typeName := by simpa [heq] using hon
                have hserved' : d'.isServed := by
                  unfold MethodDecl.isServed at hserved ⊢
                  rwa [hsame]
                exact hnew ((hreceivers _).mpr ⟨d', hd', hserved', hsame⟩)
              rw [hnone, List.map_nil]
          rw [hlast, hearlier, declaredOn_append, if_pos heq.symm, List.map_append]
          rfl
    · rw [if_neg hserved]
      refine ⟨hnodup, ?_, ?_⟩
      · intro r
        rw [hreceivers]
        simp [or_and_right, exists_or, hserved]
      · intro s hs
        obtain ⟨d', hd', hserved', hreceiver⟩ := (hreceivers _).mp (List.mem_map_of_mem hs)
        have hother : d.receiver.typeName ≠ s.receiver := by
          intro heq
          apply hserved
          unfold MethodDecl.isServed at hserved' ⊢
          rwa [heq, ← hreceiver]
        rw [declaredOn_append, if_neg hother, List.append_nil]
        exact hmethods s hs

end Services

end DeclGen
