import DeclGen.Proofs.Slots.Declared

/-!
# Methods gathered by receiver

The service method sets of a file part the methods that are declared on services: there is one set for each
receiver, in the order in which the receivers first appear, with the methods of that receiver in the order of
their declarations (`PartsByReceiver`). Methods on other receivers leave no trace, neither in the sets nor in
what is reported, and do not make a strict run fail (`Build.services_partition`).
-/

namespace DeclGen

open Logged

/-! ## Receivers of services -/

/-- The receivers of methods, one for each declaration. -/
def receiverNames (decls : List MethodDecl) : List String := decls.map (·.receiver.typeName)

/-- A service is a receiver with the ending of services. -/
lemma MethodDecl.isServed_iff {d : MethodDecl} :
    d.isServed ↔ ∃ base, d.receiver.typeName = base ++ Naming.serviceTail := by
  unfold MethodDecl.isServed Naming.serviceBase? Text.beforeTail?
  rw [Option.isSome_map, Option.isSome_iff_exists]
  constructor
  · rintro ⟨before, hbefore⟩
    refine ⟨String.ofList before, ?_⟩
    rw [← String.toList_inj, String.toList_append, String.toList_ofList]
    exact (List.isSuffixOf?_eq_some_iff_append_eq.mp hbefore).symm
  · rintro ⟨base, hbase⟩
    refine ⟨base.toList, List.isSuffixOf?_eq_some_iff_append_eq.mpr ?_⟩
    rw [hbase, String.toList_append]

/-! ## The order of the sets -/

section Order

variable {ns : String} {decls : List MethodDecl} {d : MethodDecl}

/-- Every receiver of a set is the receiver of a declaration. -/
lemma mem_receiverNames_of_mem {r : String} (h : r ∈ (serviceSets ns decls).map (·.receiver)) :
    r ∈ receiverNames decls := by
  obtain ⟨d, hd, -, hr⟩ := ((serviceSets_spec ns decls).2.1 r).mp h
  exact List.mem_map.mpr ⟨d, hd, hr⟩

/-- A service without a set has not appeared yet. -/
lemma notMem_receiverNames (hserved : d.isServed)
    (hnew : d.receiver.typeName ∉ (serviceSets ns decls).map (·.receiver)) :
    d.receiver.typeName ∉ receiverNames decls := by
  intro hmem
  obtain ⟨d', hd', hsame⟩ := List.mem_map.mp hmem
  have hserved' : d'.isServed := by
    obtain ⟨base, hbase⟩ := MethodDecl.isServed_iff.mp hserved
    exact MethodDecl.isServed_iff.mpr ⟨base, hsame.trans hbase⟩
  exact hnew (((serviceSets_spec ns decls).2.1 _).mpr ⟨d', hd', hserved', hsame⟩)

/-- The receivers of the sets stand in the order in which they first appear. -/
lemma pairwise_serviceSets (ns : String) (decls : List MethodDecl) :
    ((serviceSets ns decls).map (·.receiver)).Pairwise
      fun a b => (receiverNames decls).idxOf a < (receiverNames decls).idxOf b := by
  -- by the last declaration: the first places of the receivers before it do not move
  induction decls using List.reverseRecOn with
  | nil => exact List.Pairwise.nil
  | append_singleton decls d ih =>
    have hnames : receiverNames (decls ++ [d]) = receiverNames decls ++ [d.receiver.typeName] := by
      simp [receiverNames]
    have hplace : ∀ r ∈ (serviceSets ns decls).map (·.receiver),
        (receiverNames (decls ++ [d])).idxOf r = (receiverNames decls).idxOf r := fun r hr => by
      rw [hnames, List.idxOf_append_of_mem (mem_receiverNames_of_mem hr)]
    have hold : ((serviceSets ns decls).map (·.receiver)).Pairwise fun a b =>
        (receiverNames (decls ++ [d])).idxOf a < (receiverNames (decls ++ [d])).idxOf b := by
      refine ih.imp_of_mem fun ha hb hlt => ?_
      rwa [hplace _ ha, hplace _ hb]
    rw [serviceSets, List.foldl_append, List.foldl_cons, List.foldl_nil, ← serviceSets]
    by_cases hserved : d.isServed
    · rw [if_pos hserved, map_receiver_insertMethod]
      split
      · exact hold
      · next hnew =>
        refine List.pairwise_append.mpr ⟨hold, List.pairwise_singleton _ _, fun r hr r' hr' => ?_⟩
        obtain rfl := List.mem_singleton.mp hr'
        -- the new receiver comes first in the last declaration, behind all others
        have hlast := notMem_receiverNames hserved hnew
        rw [hplace r hr, hnames, List.idxOf_append_of_notMem hlast]
        have hbefore := List.idxOf_lt_length_of_mem (mem_receiverNames_of_mem hr)
        omega
    · rw [if_neg hserved]
      exact hold

end Order

/-! ## The partition -/

/-- The lenient run that makes the method of a declaration. -/
def MethodDecl.run (ns : String) (d : MethodDecl) : Except ModelError Method × List Notice :=
  (Build.method false d.receiver.typeName ns d.name d.signature).report

/-- The sets part the methods that are declared on services by receiver, and keep the order of the receivers
and of the methods on each of them. -/
structure PartsByReceiver (ns : String) (decls : List MethodDecl) (sets : List ServiceMethodSet) : Prop where
  /-- No receiver has two sets. -/
  nodup : (sets.map (·.receiver)).Nodup
  /-- The receivers that are services have sets, and no others do. -/
  receivers : ∀ r, r ∈ sets.map (·.receiver) ↔
    r ∈ receiverNames decls ∧ ∃ base, r = base ++ Naming.serviceTail
  /-- No set is empty. -/
  nonempty : ∀ s ∈ sets, s.methods ≠ []
  /-- The receiver that appears first comes first. -/
  ordered : sets.Pairwise fun s s' =>
    (receiverNames decls).idxOf s.receiver < (receiverNames decls).idxOf s'.receiver
  /-- The methods of a set are made of the declarations on its receiver, one by one. -/
  methods : ∀ s ∈ sets, List.Forall₂ (fun d m => (d.run ns).1 = .ok m) (declaredOn s.receiver decls) s.methods

section Partition

variable {ns : String} {decls : List MethodDecl}

/-- What a lenient run makes of a declaration and reports of it. -/
lemma run_eq (ns : String) (d : MethodDecl) :
    d.run ns = (.ok (d.contract ns).method, (d.contract ns).notices) := by
  have hmethod : Tells false _ _ _ := method_tells (d.contract ns)
  have htells := hmethod []
  rw [ending_lenient, List.nil_append] at htells
  exact htells

/-- What a run on a row of methods comes to is what it comes to on those on services. -/
lemma serviceSets_filter (ns : String) (decls : List MethodDecl) :
    serviceSets ns (decls.filter (·.isServed)) = serviceSets ns decls := by
  rw [serviceSets, serviceSets, List.foldl_filter]
  congr 1
  funext sets d
  cases d.isServed <;> rfl

lemma partsByReceiver_serviceSets (ns : String) (decls : List MethodDecl) :
    PartsByReceiver ns decls (serviceSets ns decls) := by
  obtain ⟨hnodup, hreceivers, hmethods⟩ := serviceSets_spec ns decls
  refine ⟨hnodup, fun r => ?_, fun s hs => ?_, ?_, fun s hs => ?_⟩
  · rw [hreceivers, receiverNames, List.mem_map]
    constructor
    · rintro ⟨d, hd, hserved, rfl⟩
      exact ⟨⟨d, hd, rfl⟩, MethodDecl.isServed_iff.mp hserved⟩
    · rintro ⟨⟨d, hd, rfl⟩, hservice⟩
      exact ⟨d, hd, MethodDecl.isServed_iff.mpr hservice, rfl⟩
  · obtain ⟨d, hd, -, hr⟩ := (hreceivers _).mp (List.mem_map_of_mem hs)
    have hmem : d ∈ declaredOn s.receiver decls := List.mem_filter.mpr ⟨hd, by simpa using hr⟩
    rw [hmethods s hs]
    simpa using List.ne_nil_of_mem hmem
  · have hordered := pairwise_serviceSets ns decls
    rwa [List.pairwise_map] at hordered
  · rw [hmethods s hs, List.forall₂_map_right_iff, List.forall₂_same]
    exact fun d _ => by rw [run_eq]

/-- A lenient run on a row of methods goes through: it makes sets that part the methods on services by
receiver, and reports what is to be reported of those methods. Whether it is strict or lenient, a run ends as
it does without the methods on other receivers. -/
theorem Build.services_partition (ns : String) (decls : List MethodDecl) :
    (∃ sets, (Build.services ⟨ns, false⟩ decls).report =
        (.ok sets, (decls.filter (·.isServed)).flatMap fun d => (d.run ns).2) ∧
      PartsByReceiver ns decls sets) ∧
    ∀ strict, (Build.services ⟨ns, strict⟩ decls).report =
      (Build.services ⟨ns, strict⟩ (decls.filter (·.isServed))).report := by
  have htells : ∀ strict decls, (Build.services ⟨ns, strict⟩ decls).report = _ :=
    fun strict decls => services_tells decls []
  refine ⟨⟨serviceSets ns decls, ?_, partsByReceiver_serviceSets ns decls⟩, fun strict => ?_⟩
  · rw [htells, ending_lenient, List.nil_append, List.flatMap_map]
    simp only [run_eq]
  · rw [htells, htells, serviceSets_filter, List.filter_filter]
    simp only [Bool.and_self]

/-- Methods of two services that take turns, and a method on another receiver between them. -/
def takingTurns : List MethodDecl :=
  [⟨⟨some "o", "OrderService", true⟩, "Open", ⟨[], []⟩⟩, ⟨⟨none, "Ledger", false⟩, "Close", ⟨[], []⟩⟩,
    ⟨⟨none, "AccountService", false⟩, "Find", ⟨[], []⟩⟩, ⟨⟨none, "OrderService", false⟩, "Keep", ⟨[], []⟩⟩]

example : (Build.services {} takingTurns).report = (.ok [⟨"OrderService", [⟨"Open", [], []⟩, ⟨"Keep", [], []⟩]⟩,
    ⟨"AccountService", [⟨"Find", [], []⟩]⟩], []) := by decide

end Partition

end DeclGen
