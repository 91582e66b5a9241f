import DeclGen.Generate.Service
import DeclGen.Proofs.Mock.Slots

/-!
# Slots in a service

The text of a service, with all types qualified, is read back as the specs of its two interfaces and as its
delegating methods, each with its header and what it passes to the repository. For the methods that were read on
one receiver all of them have the slots and the results of the declared method, in order
(`Service.keepsSlots`). With what holds of mocks this is put together for a whole file
(`SourceFile.keepsSlots_of_parse`).
-/

namespace DeclGen

open Source Text Slots

namespace Service

/-! ## Reading services -/

/-- The line that opens an interface. -/
def interfaceHeader (name : String) : String := "type " ++ name ++ " interface \x7b"

/-- How the header of a method of a service begins. -/
def methodHead (service : String) : String := "func (" ++ receiver ++ " *" ++ service ++ ") "

/-- The specs in a paragraph, if it is that of the interface. -/
def specsIn (name : String) : List String → List Header
  | _ :: head :: body => if head = interfaceHeader name then body.dropLast.map readHeader else []
  | _ => []

/-- The specs of an interface. -/
def readSpecs (name : String) (ls : List String) : List Header := (paragraphs ls).flatMap (specsIn name)

/-- A method that delegates: its header and what it passes on. -/
structure Delegation where
  header : Header
  arguments : List (String × Bool)
deriving DecidableEq, Repr

/-- The method of a service that delegates: a header and a call stand behind a comment. -/
def delegation? (service : String) : List String → Option Delegation
  | _ :: head :: call :: _ =>
    ((afterHead? (methodHead service) head).bind (beforeTail? " \x7b")).map fun header =>
      ⟨readHeader header, readCall call⟩
  | _ => none

/-- The methods of a service that delegate. -/
def readDelegations (service : String) (ls : List String) : List Delegation :=
  (paragraphs ls).filterMap (delegation? service)

/-! ## The paragraphs of a service -/

/-- The lines of an interface under a comment. -/
def interfaceLines (comment name : String) (methods : List Method) : List String :=
  ("// " ++ comment) :: interfaceHeader name :: (methods.map (·.spec) ++ ["\x7d"])

/-- The lines of the type of a service and those of its constructor. -/
def typeLines (base service repo : String) : List (List String) :=
  [["// " ++ service ++ " implements the service for " ++ base ++ " items.",
    "type " ++ service ++ " struct \x7b", "repo " ++ repo, "\x7d"],
   ["// New" ++ service ++ " returns the service for managing " ++ base ++ " items.",
    "func New" ++ service ++ "(repo " ++ repo ++ ") *" ++ service ++ " \x7b",
    receiver ++ " := new(" ++ service ++ ")", receiver ++ ".repo = repo", "return " ++ receiver, "\x7d"]]

/-- The line of a delegating method that calls the repository. -/
def callLine (m : Method) : String :=
  let call := receiver ++ ".repo." ++ m.name ++ "(" ++ callArgs m.params receiver ++ ")"
  if m.returns.isEmpty then call else "return " ++ call

/-- The lines of a delegating method. -/
def delegatingLines (base service : String) (m : Method) : List String :=
  ["// " ++ methodComment m.name base, methodHead service ++ m.header receiver ++ " \x7b", callLine m, "\x7d"]

lemma texts_ofSet (s : ServiceMethodSet) :
    let service := Naming.serviceName s.baseName
    let repo := Naming.interfaceName (Naming.repositoryName s.baseName)
    (ofSet s).texts =
      interfaceLines (Naming.interfaceName service ++ " is the interface for " ++ s.baseName ++ " items.")
        (Naming.interfaceName service) s.methods ++
      (interfaceLines (repo ++ " represents the service for storage of " ++ s.baseName ++ " items.") repo
          s.methods ::
        (typeLines s.baseName service repo ++ s.methods.map (delegatingLines s.baseName service))).flatMap
          ("" :: ·) := by
  simp [ofSet, interfaceBlock, delegating, interfaceLines, interfaceHeader, typeLines, delegatingLines, callLine,
    methodHead, List.flatMap_map, String.append_assoc]

section Filled

variable {base service repo : String} {m : Method} {methods : List Method}

lemma newLine_notMem_methodComment {name : String} (hname : '\n' ∉ name.toList) (hbase : '\n' ∉ base.toList) :
    '\n' ∉ (methodComment name base).toList := by
  have harticle : '\n' ∉ (article base).toList := by
    obtain heq | heq := article_eq base <;> rw [heq] <;> exact notMem_literal (by decide)
  unfold methodComment
  split
  · simp [hname, hbase]
  · split
    · simp [hname, hbase, harticle]
    · split
      · next key hkey =>
        rw [afterHead?_eq_some_iff] at hkey
        have hfree : '\n' ∉ key.toList := by
          rw [hkey, String.toList_append, List.mem_append, not_or] at hname
          exact hname.2
        simp [hname, hbase, hfree]
      · split
        · simp [hname, hbase, harticle]
        · simp [hname, hbase]

lemma isFilled_interfaceLines {comment name : String} (hcomment : '\n' ∉ comment.toList)
    (hname : '\n' ∉ name.toList) (hmethods : ∀ m ∈ methods, m.IsReadable) :
    ∀ t ∈ interfaceLines comment name methods, IsFilled t := by
  intro t ht
  rw [interfaceLines, List.mem_cons, List.mem_cons, List.mem_append, List.mem_singleton] at ht
  obtain rfl | rfl | ht | rfl := ht
  · exact ⟨by simp [hcomment], '/', by decide, by simp⟩
  · exact ⟨by simp [interfaceHeader, hname], 't', by decide, by simp [interfaceHeader]⟩
  · obtain ⟨m, hm, rfl⟩ := List.mem_map.mp ht
    obtain ⟨c, rest, hlist, hstart, -⟩ := (hmethods m hm).name.start
    refine ⟨((hmethods m hm).newLine_notMem_header "").1, c, ?_, ?_⟩
    · rintro rfl
      exact absurd hstart (by decide)
    · simp [Method.spec, Method.header, hlist]
  · exact ⟨by decide, '\x7d', by decide, by decide⟩

lemma isFilled_typeLines (hbase : '\n' ∉ base.toList) (hservice : '\n' ∉ service.toList)
    (hrepo : '\n' ∉ repo.toList) : ∀ p ∈ typeLines base service repo, ∀ t ∈ p, IsFilled t := by
  simp only [typeLines, List.forall_mem_cons, List.not_mem_nil, false_imp_iff, implies_true, and_true]
  refine ⟨⟨⟨?_, '/', by decide, by simp⟩, ⟨?_, 't', by decide, by simp⟩, ⟨?_, 'r', by decide, by simp⟩,
    ⟨by decide, '\x7d', by decide, by decide⟩⟩, ⟨?_, '/', by decide, by simp⟩, ⟨?_, 'f', by decide, by simp⟩,
    ⟨?_, 's', by decide, by simp [receiver]⟩, ⟨by decide, 's', by decide, by decide⟩,
    ⟨by decide, 'r', by decide, by decide⟩, ⟨by decide, '\x7d', by decide, by decide⟩⟩
  · simp [hbase, hservice]
  · simp [hservice]
  · simp [hrepo]
  · simp [hbase, hservice]
  · simp [hservice, hrepo]
  · simp [receiver, hservice]

lemma isFilled_delegatingLines (h : m.IsReadable) (hbase : '\n' ∉ base.toList)
    (hservice : '\n' ∉ service.toList) : ∀ t ∈ delegatingLines base service m, IsFilled t := by
  have hname := isUnparted_of_isName h.name '\n' (by decide)
  have hcomment := newLine_notMem_methodComment hname hbase
  have hheader : '\n' ∉ (m.header "s").toList := (h.newLine_notMem_header "s").1
  have harguments : '\n' ∉ (callArgs m.params "s").toList := h.notMem_callArgs (by decide) "s"
  simp only [delegatingLines, List.forall_mem_cons, List.not_mem_nil, false_imp_iff, implies_true, and_true]
  refine ⟨⟨by simp [hcomment], '/', by decide, by simp⟩,
    ⟨by simp [methodHead, receiver, hservice, hheader], 'f', by decide, by simp [methodHead]⟩, ?_,
    ⟨by decide, '\x7d', by decide, by decide⟩⟩
  unfold callLine
  dsimp only
  split
  · exact ⟨by simp [receiver, hname, harguments], 's', by decide, by simp [receiver]⟩
  · exact ⟨by simp [receiver, hname, harguments], 'r', by decide, by simp⟩

end Filled

/-! ## What is read -/

section Paragraphs

variable {name service : String} {m : Method}

lemma specsIn_interfaceLines (comment name' : String) {methods : List Method} :
    specsIn name (interfaceLines comment name' methods) =
      if name' = name then methods.map fun m => readHeader m.spec else [] := by
  have hsame : interfaceHeader name' = interfaceHeader name ↔ name' = name := by
    rw [← String.toList_inj, ← String.toList_inj]
    simp [interfaceHeader]
  rw [interfaceLines, specsIn]
  by_cases h : name' = name
  · rw [if_pos (hsame.mpr h), if_pos h, List.dropLast_concat, List.map_map]
    rfl
  · rw [if_neg (mt hsame.mp h), if_neg h]

/-- Neither a struct nor a function opens an interface. -/
lemma specsIn_eq_nil {comment head : String} {body : List String}
    (h : head.toList.head? = some 'f' ∨ (head.toList.reverse)[2]? = some 't') :
    specsIn name (comment :: head :: body) = [] := by
  have hne : head ≠ interfaceHeader name := by
    rintro rfl
    rcases h with h | h
    · simp [interfaceHeader] at h
    · simp [interfaceHeader] at h
  rw [specsIn, if_neg hne]

lemma delegation?_eq_none {comment head : String} {body : List String}
    (h : head.toList.take 6 ≠ "func (".toList) : delegation? service (comment :: head :: body) = none := by
  have hnone : afterHead? (methodHead service) head = none := by
    rw [Option.eq_none_iff_forall_ne_some]
    intro behind hbehind
    rw [afterHead?_eq_some_iff.mp hbehind] at h
    simp [methodHead] at h
  unfold delegation?
  split
  · next heq =>
    rw [← (List.cons.inj (List.cons.inj heq).2).1, hnone]
    rfl
  · rfl

/-- A delegating method is read back with the slots of the method. -/
lemma delegation?_delegatingLines (h : m.IsReadable) (base service : String) :
    delegation? service (delegatingLines base service m) =
      some ⟨m.heading m.name receiver, m.passed receiver⟩ := by
  have hcalled : '(' ∉ (receiver ++ ".repo." ++ m.name).toList := by
    have hname := isUnparted_of_isName h.name '(' (by decide)
    simp [receiver, hname]
  have hcall : readCall (callLine m) = m.passed receiver := by
    rw [← h.readCall_call hcalled receiver, callLine]
    split
    · rfl
    · exact readCall_return _
  have hhead : (afterHead? (methodHead service) (methodHead service ++ m.header receiver ++ " \x7b")).bind
      (beforeTail? " \x7b") = some (m.header receiver) := by
    rw [afterHead?_eq_some_iff.mpr (String.append_assoc ..), Option.bind_some, beforeTail?_eq_some_iff]
  rw [delegatingLines, delegation?, hhead, hcall, ← h.readHeader_header receiver]
  rfl

end Paragraphs

section Reading

variable {s : ServiceMethodSet} (hreceiver : IsName s.receiver) (hmethods : ∀ m ∈ s.methods, m.IsReadable)

include hreceiver in
lemma newLine_notMem_baseName : '\n' ∉ s.baseName.toList := by
  have hfree := isUnparted_of_isName hreceiver '\n' (by decide)
  unfold ServiceMethodSet.baseName Naming.serviceBase?
  cases hbase : beforeTail? Naming.serviceTail s.receiver with
  | none => exact hfree
  | some base =>
    rw [beforeTail?_eq_some_iff.mp hbase, String.toList_append, List.mem_append, not_or] at hfree
    exact hfree.1

include hreceiver hmethods

/-- A service is read back as the paragraphs of its interfaces, its type and its constructor, and one for each
method. -/
lemma paragraphs_ofSet :
    let service := Naming.serviceName s.baseName
    let repo := Naming.interfaceName (Naming.repositoryName s.baseName)
    paragraphs (readLines (ofSet s).render) =
      interfaceLines (Naming.interfaceName service ++ " is the interface for " ++ s.baseName ++ " items.")
        (Naming.interfaceName service) s.methods ::
      interfaceLines (repo ++ " represents the service for storage of " ++ s.baseName ++ " items.") repo
        s.methods ::
      (typeLines s.baseName service repo ++ s.methods.map (delegatingLines s.baseName service)) ++ [[]] := by
  have hbase := newLine_notMem_baseName hreceiver
  have hservice : '\n' ∉ (Naming.serviceName s.baseName).toList := by
    simp [Naming.serviceName, Naming.serviceTail, hbase]
  have hinterface : '\n' ∉ (Naming.interfaceName (Naming.serviceName s.baseName)).toList := by
    simp [Naming.interfaceName, Naming.interfaceHead, hservice]
  have hrepo : '\n' ∉ (Naming.interfaceName (Naming.repositoryName s.baseName)).toList := by
    simp [Naming.interfaceName, Naming.interfaceHead, Naming.repositoryName, Naming.repositoryTail, hbase]
  apply paragraphs_readLines_render (texts_ofSet s)
  simp only [List.forall_mem_cons, List.forall_mem_append, List.forall_mem_map]
  exact ⟨isFilled_interfaceLines (by simp [hinterface, hbase]) hinterface hmethods,
    isFilled_interfaceLines (by simp [hrepo, hbase]) hrepo hmethods, isFilled_typeLines hbase hservice hrepo,
    fun m hm => isFilled_delegatingLines (hmethods m hm) hbase hservice⟩

/-- Both interfaces of a service are read back with the specs of its methods. -/
lemma readSpecs_ofSet {name : String}
    (hname : name = Naming.interfaceName (Naming.serviceName s.baseName) ∨
      name = Naming.interfaceName (Naming.repositoryName s.baseName)) :
    readSpecs name (readLines (ofSet s).render) = s.methods.map fun m => readHeader m.spec := by
  have hdiffer : Naming.interfaceName (Naming.serviceName s.baseName) ≠
      Naming.interfaceName (Naming.repositoryName s.baseName) := by
    intro heq
    have hlists := congrArg String.toList heq
    simp [Naming.interfaceName, Naming.interfaceHead, Naming.serviceName, Naming.serviceTail,
      Naming.repositoryName, Naming.repositoryTail] at hlists
  have htypes : (typeLines s.baseName (Naming.serviceName s.baseName)
      (Naming.interfaceName (Naming.repositoryName s.baseName))).flatMap (specsIn name) = [] := by
    rw [typeLines, List.flatMap_cons, List.flatMap_singleton, specsIn_eq_nil (.inr (by simp)),
      specsIn_eq_nil (.inl (by simp))]
    rfl
  have hdelegating : (s.methods.map (delegatingLines s.baseName (Naming.serviceName s.baseName))).flatMap
      (specsIn name) = [] := by
    rw [List.flatMap_eq_nil_iff, List.forall_mem_map]
    exact fun m _ => specsIn_eq_nil (.inl (by simp [methodHead]))
  have hempty : [([] : List String)].flatMap (specsIn name) = [] := rfl
  rw [readSpecs, paragraphs_ofSet hreceiver hmethods, List.flatMap_append, List.flatMap_cons, List.flatMap_cons,
    List.flatMap_append, htypes, hdelegating, hempty, specsIn_interfaceLines, specsIn_interfaceLines]
  obtain rfl | rfl := hname
  · rw [if_pos rfl, if_neg hdiffer.symm]
    simp
  · rw [if_neg hdiffer, if_pos rfl]
    simp

/-- The delegating methods of a service are read back one by one. -/
lemma readDelegations_ofSet :
    readDelegations (Naming.serviceName s.baseName) (readLines (ofSet s).render) =
      s.methods.map fun m => ⟨m.heading m.name receiver, m.passed receiver⟩ := by
  have hempty : [([] : List String)].filterMap (delegation? (Naming.serviceName s.baseName)) = [] := rfl
  rw [readDelegations, paragraphs_ofSet hreceiver hmethods, interfaceLines, interfaceLines, typeLines,
    List.filterMap_append, hempty, List.append_nil,
    List.filterMap_cons_none (delegation?_eq_none (by simp [interfaceHeader])),
    List.filterMap_cons_none (delegation?_eq_none (by simp [interfaceHeader])), List.cons_append,
    List.filterMap_cons_none (delegation?_eq_none (by simp)), List.cons_append,
    List.filterMap_cons_none (delegation?_eq_none (by simp)), List.nil_append, List.filterMap_map,
    ← List.filterMap_eq_map]
  apply List.filterMap_congr
  intro m hm
  exact delegation?_delegatingLines (hmethods m hm) _ _

end Reading

/-! ## Slots of the methods of a service -/

/-- The spec has the slots of the declared method. -/
def SpecKeeps (ns : String) (d : MethodDecl) (spec : Header) : Prop :=
  spec.name = d.name ∧ spec.Fits ns "" d.signature

/-- The delegating method has the slots of the declared method, and passes them on. -/
def Delegation.Keeps (ns : String) (d : MethodDecl) (x : Delegation) : Prop :=
  x.header.name = d.name ∧ x.header.Fits ns receiver d.signature ∧ x.header.PassesOn ns d.signature x.arguments

/-- The lines of a delegating method, apart from the comment. -/
def Delegation.lines (service : String) (x : Delegation) : List String :=
  let arguments := x.arguments.map fun argument => if argument.2 then argument.1 ++ "..." else argument.1
  let call := receiver ++ ".repo." ++ x.header.name ++ "(" ++ commaList arguments ++ ")"
  [methodHead service ++ x.header.text ++ " \x7b",
    if x.header.results.isEmpty then call else "return " ++ call, "\x7d"]

/-- The service of a receiver is written with the slots of the methods that are declared on it, in order: in the
specs of both interfaces, and in the delegating methods with what is passed on there. -/
structure WritesSlots (ns base : String) (decls : List MethodDecl) (texts : List String) : Prop where
  specs : ∀ name ∈ [Naming.serviceName base, Naming.repositoryName base],
    ∃ specs, List.Forall₂ (SpecKeeps ns) decls specs ∧
      interfaceHeader (Naming.interfaceName name) :: (specs.map (·.text) ++ ["\x7d"]) <:+: texts
  delegations : ∃ delegations, List.Forall₂ (Delegation.Keeps ns) decls delegations ∧
    ∀ x ∈ delegations, x.lines (Naming.serviceName base) <:+: texts

/-- The same slots are read back from the text of the service. -/
structure KeepsSlots (ns base : String) (decls : List MethodDecl) (ls : List String) : Prop where
  specs : ∀ name ∈ [Naming.serviceName base, Naming.repositoryName base],
    List.Forall₂ (SpecKeeps ns) decls (readSpecs (Naming.interfaceName name) ls)
  delegations : List.Forall₂ (Delegation.Keeps ns) decls (readDelegations (Naming.serviceName base) ls)

lemma lines_heading (service : String) (m : Method) :
    Delegation.lines service ⟨m.heading m.name receiver, m.passed receiver⟩ =
      [methodHead service ++ m.header receiver ++ " \x7b", callLine m, "\x7d"] := by
  have harguments : (m.passed receiver).map (fun argument =>
      if argument.2 then argument.1 ++ "..." else argument.1) =
      ((names m.params receiver).zip m.params).map fun x =>
        if x.2.isVariadic then x.1 ++ "..." else x.1 := by
    rw [Method.passed, List.zip_map_right, List.map_map]
    rfl
  have hresults : (m.heading m.name receiver).results.isEmpty = m.returns.isEmpty := List.isEmpty_map
  rw [Delegation.lines, text_heading, harguments, hresults]
  rfl

section Declared

variable {ns : String} {s : ServiceMethodSet} {decls : List MethodDecl}

lemma specKeeps_heading (d : MethodDecl) : SpecKeeps ns d ((d.contract ns).method.heading d.name "") :=
  ⟨rfl, (realizes_method d.name d.signature).fits d.name ""⟩

lemma keeps_heading (d : MethodDecl) : Delegation.Keeps ns d
    ⟨(d.contract ns).method.heading d.name receiver, (d.contract ns).method.passed receiver⟩ :=
  ⟨rfl, (realizes_method d.name d.signature).fits d.name receiver,
    (realizes_method d.name d.signature).passesOn d.name receiver⟩

variable (hmethods : s.methods = decls.map fun d => (d.contract ns).method)
include hmethods

/-- Whatever the namespace of its types, a service is written with the slots of its methods. -/
lemma writesSlots : WritesSlots ns s.baseName decls (ofSet s).texts := by
  have hwithin : ∀ {p : List String}, p ∈ _ → p <:+: (ofSet s).texts := fun hp =>
    texts_ofSet s ▸ infix_of_mem_paragraphs hp
  constructor
  · intro name hname
    refine ⟨decls.map fun d => (d.contract ns).method.heading d.name "", ?_, ?_⟩
    · rw [List.forall₂_map_right_iff, List.forall₂_same]
      exact fun d _ => specKeeps_heading d
    · have hspecs : (decls.map fun d => (d.contract ns).method.heading d.name "").map (·.text) =
          s.methods.map (·.spec) := by
        rw [hmethods, List.map_map, List.map_map]
        exact List.map_congr_left fun d _ => text_heading _ d.name ""
      rw [hspecs]
      rw [List.mem_cons, List.mem_singleton] at hname
      have hparagraph : ∀ comment interface, interfaceLines comment interface s.methods <:+: (ofSet s).texts →
          interfaceHeader interface :: (s.methods.map (·.spec) ++ ["\x7d"]) <:+: (ofSet s).texts :=
        fun comment interface h => (List.suffix_cons ("// " ++ comment) _).isInfix.trans h
      obtain rfl | rfl := hname
      · exact hparagraph _ _ (hwithin List.mem_cons_self)
      · exact hparagraph _ _ (hwithin (List.mem_cons_of_mem _ List.mem_cons_self))
  · refine ⟨decls.map fun d =>
      ⟨(d.contract ns).method.heading d.name receiver, (d.contract ns).method.passed receiver⟩, ?_, ?_⟩
    · rw [List.forall₂_map_right_iff, List.forall₂_same]
      exact fun d _ => keeps_heading d
    · rw [List.forall_mem_map]
      intro d hd
      have hlines := lines_heading (Naming.serviceName s.baseName) (d.contract ns).method
      have hmem : (d.contract ns).method ∈ s.methods := hmethods ▸ List.mem_map_of_mem hd
      have hparagraph : delegatingLines s.baseName (Naming.serviceName s.baseName) (d.contract ns).method <:+:
          (ofSet s).texts := by
        apply hwithin
        apply List.mem_cons_of_mem
        apply List.mem_cons_of_mem
        exact List.mem_append_right _ (List.mem_map_of_mem hmem)
      have hbehind := (List.suffix_cons ("// " ++ methodComment d.name s.baseName) _).isInfix.trans hparagraph
      exact hlines ▸ hbehind

/-- The service of methods that were read on its receiver keeps their slots. -/
lemma keepsSlots (hns : IsUnparted ns) (hreceiver : IsName s.receiver)
    (hdecls : ∀ d ∈ decls, IsName d.name ∧ d.signature.WellNamed) :
    KeepsSlots ns s.baseName decls (readLines (ofSet s).render) := by
  have hreadable : ∀ d ∈ decls, (d.contract ns).method.IsReadable := fun d hd =>
    (realizes_method d.name d.signature).isReadable (hdecls d hd).1 (hdecls d hd).2 hns
  have hall : ∀ m ∈ s.methods, m.IsReadable := by
    rw [hmethods, List.forall_mem_map]
    exact hreadable
  constructor
  · intro name hname
    have hinterface : Naming.interfaceName name = Naming.interfaceName (Naming.serviceName s.baseName) ∨
        Naming.interfaceName name = Naming.interfaceName (Naming.repositoryName s.baseName) := by
      rw [List.mem_cons, List.mem_singleton] at hname
      exact hname.imp (congrArg _) (congrArg _)
    rw [readSpecs_ofSet hreceiver hall hinterface, hmethods, List.forall₂_map_right_iff,
      List.forall₂_map_right_iff, List.forall₂_same]
    intro d hd
    rw [Method.spec, (hreadable d hd).readHeader_header ""]
    exact specKeeps_heading d
  · rw [readDelegations_ofSet hreceiver hall, hmethods, List.forall₂_map_right_iff,
      List.forall₂_map_right_iff, List.forall₂_same]
    exact fun d _ => keeps_heading d

end Declared

end Service

/-! ## Files -/

/-- No slot is lost or shifted. A file that was read is loaded leniently, and the methods of its interfaces and
of its services have the declared slots, with the types that these have in the package or in the namespace of
the services. So do the callbacks and the forwarding methods in the mock of each interface, and the specs and
the delegating methods in the service of each receiver, as they are written and, where no separator stands in
the namespace, as they are read back. -/
theorem SourceFile.keepsSlots_of_parse [ErrorRecovery] {source : String} {f : SourceFile}
    (hparse : SourceFile.parse source = .ok f) (ns : String) :
    ∃ model log, (FileModel.load source ⟨ns, false⟩).report = (.ok model, log) ∧
      List.Forall₂ (fun d i =>
          List.Forall₂ (fun spec m => m.Realizes f.package spec.name spec.signature) d.methods i.methods ∧
          Mock.KeepsSlots f.package d (readLines (Mock.ofInterface i).render))
        f.interfaces model.interfaces ∧
      (model.services.map (·.receiver)).Nodup ∧
      (∀ d ∈ f.methods, d.isServed → d.receiver.typeName ∈ model.services.map (·.receiver)) ∧
      ∀ s ∈ model.services,
        List.Forall₂ (fun d m => m.Realizes ns d.name d.signature) (declaredOn s.receiver f.methods) s.methods ∧
        Service.WritesSlots ns s.baseName (declaredOn s.receiver f.methods) (Service.ofSet s).texts ∧
        (IsUnparted ns → Service.KeepsSlots ns s.baseName (declaredOn s.receiver f.methods)
          (readLines (Service.ofSet s).render)) := by
  have hnamed := wellNamed_of_parse hparse
  obtain ⟨hnodup, hreceivers, hmethods⟩ := serviceSets_spec ns f.methods
  refine ⟨f.built ns, f.notices ns, ?_, ?_, hnodup, ?_, ?_⟩
  · rw [report_load hparse, Logged.ending_lenient]
    rfl
  · show List.Forall₂ _ f.interfaces (f.interfaces.map (·.built f.package))
    rw [List.forall₂_map_right_iff, List.forall₂_same]
    intro d hd
    obtain ⟨hname, hmethods⟩ := wellNamed_interface hnamed hd
    refine ⟨?_, Mock.keepsSlots hnamed.package hname hmethods⟩
    rw [InterfaceDecl.built, List.forall₂_map_right_iff, List.forall₂_same]
    exact fun spec _ => realizes_method spec.name spec.signature
  · exact fun d hd hserved => (hreceivers _).mpr ⟨d, hd, hserved, rfl⟩
  · intro s hs
    have hset := hmethods s hs
    have hdeclared : ∀ d ∈ declaredOn s.receiver f.methods, d ∈ f.methods :=
      fun d hd => (List.mem_filter.mp hd).1
    have hreceiver : IsName s.receiver := by
      obtain ⟨d, hd, -, hname⟩ := (hreceivers _).mp (List.mem_map_of_mem hs)
      rw [← hname]
      exact (wellNamed_method hnamed hd).1.2
    refine ⟨?_, Service.writesSlots hset, fun hns => Service.keepsSlots hset hns hreceiver
      fun d hd => (wellNamed_method hnamed (hdeclared d hd)).2⟩
    rw [hset, List.forall₂_map_right_iff, List.forall₂_same]
    exact fun d _ => realizes_method d.name d.signature

/-- An interface with slots that are grouped, without a type and of any number, and a service with unnamed
slots. -/
def shelfSource : String :=
  "package store\n\ntype Shelf interface \x7b\n" ++
  "\tPut(row, place int, tags map[string]int, items ...Item) (all ...Item)\n\x7d\n\n" ++
  "func (ShelfService) Take(*Item, string) (Item, error) \x7b\n\x7d\n"

/-- The file of the shelf. -/
def shelfFile : SourceFile where
  package := "store"
  declarations := [
    .interface ⟨"Shelf", [⟨"Put", ⟨[⟨["row", "place"], .name "int"⟩,
      ⟨["tags"], .unsupported .map "map[string]int"⟩, ⟨["items"], .variadic (.name "Item")⟩],
      [⟨["all"], .variadic (.name "Item")⟩]⟩⟩]⟩,
    .method ⟨⟨none, "ShelfService", false⟩, "Take", ⟨[⟨[], .pointer (.name "Item")⟩, ⟨[], .name "string"⟩],
      [⟨[], .name "Item"⟩, ⟨[], .name "error"⟩]⟩⟩]

/-- The shelf has four slots in its mock, and the service two. -/
theorem keepsSlots_of_parse_shelf :
    ∃ model log, (FileModel.load shelfSource ⟨"domain", false⟩).report = (.ok model, log) ∧
      (model.interfaces.map fun i => i.methods.map fun m => (m.params.length, m.returns.length)) = [[(4, 1)]] ∧
      ∀ s ∈ model.services, Service.KeepsSlots "domain" s.baseName (declaredOn s.receiver shelfFile.methods)
        (readLines (Service.ofSet s).render) := by
  have hparse : SourceFile.parse shelfSource = .ok shelfFile := by decide +kernel
  obtain ⟨model, log, hload, hinterfaces, -, -, hservices⟩ := SourceFile.keepsSlots_of_parse hparse "domain"
  refine ⟨model, log, hload, ?_, fun s hs => (hservices s hs).2.2 (by decide)⟩
  obtain ⟨i, rest, hmethods, hrest, heq⟩ := List.forall₂_cons_left_iff.mp hinterfaces
  obtain rfl := List.forall₂_nil_left_iff.mp hrest
  obtain ⟨m, rest, hput, hlast, hone⟩ := List.forall₂_cons_left_iff.mp hmethods.1
  obtain rfl := List.forall₂_nil_left_iff.mp hlast
  rw [heq, List.map_singleton, hone, List.map_singleton, ← hput.params.length_eq, ← hput.returns.length_eq]
  rfl

end DeclGen
